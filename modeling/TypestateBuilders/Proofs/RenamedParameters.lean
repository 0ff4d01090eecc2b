import TypestateBuilders.Proofs.Identifiers
import TypestateBuilders.Proofs.TypeParameters

/-!
# Renamed type parameters

In a builder that is generic over dynamically typed values a marker that would take the parameter
for these values gets another one. The search for it puts one ending after the other behind the name
until the name is not taken. Each turn makes the name longer, so no name is looked at twice and the
search ends, with the first name on its way that is not taken (`EndsAfter`, `exists_endsAfter`,
`EndsAfter.turns_le`).

Markers of one name stand for properties with one identifier, unless there are digits in it
(`fieldIdent_eq_of_markerIdent_eq`). So at most one marker of a builder is renamed
(`Builder.countP_renamed_le`): the required properties have identifiers of their own, and the marker
`Any` is that of the identifier `any` alone. Its parameter is then no other one of the builder, and
its marker types keep their names (`Builder.renamed_parameter_fresh`).
-/

set_option autoImplicit false
set_option relaxedAutoImplicit false

namespace TypestateBuilders

open Naming

/-! ### The search for a free name -/

/-- What the search for a free name looks at after a number of turns. -/
def candidate (name : String) : ℕ → String
  | 0 => name
  | turns + 1 => candidate (name ++ markerEnding) turns

theorem length_candidate (name : String) (turns : ℕ) :
    (candidate name turns).length = name.length + 6 * turns := by
  have hending : markerEnding.length = 6 := rfl
  induction turns generalizing name with
  | zero => rfl
  | succ turns ih =>
    rw [candidate, ih, String.length_append, hending]
    omega

/-- No name is looked at twice. -/
theorem candidate_injective (name : String) : Function.Injective (candidate name) := by
  intro turns others h
  have hlength := congrArg String.length h
  rw [length_candidate, length_candidate] at hlength
  omega

/-- The search for a free name ends after a number of turns: all names before are taken, and the
one that is found is not. -/
structure EndsAfter (taken : List String) (name : String) (turns : ℕ) (found : String) : Prop where
  found_eq : found = candidate name turns
  taken_before : ∀ earlier < turns, candidate name earlier ∈ taken
  free : found ∉ taken

namespace EndsAfter

variable {taken : List String} {name found : String} {turns : ℕ}

theorem stop (h : name ∉ taken) : EndsAfter taken name 0 name :=
  ⟨rfl, fun _ hnone ↦ absurd hnone (Nat.not_lt_zero _), h⟩

/-- One turn: a taken name gets the ending behind it. -/
theorem turn (htaken : name ∈ taken) (h : EndsAfter taken (name ++ markerEnding) turns found) :
    EndsAfter taken name (turns + 1) found := by
  refine ⟨h.found_eq, fun earlier hearlier ↦ ?_, h.free⟩
  cases earlier with
  | zero => exact htaken
  | succ earlier => exact h.taken_before earlier (Nat.lt_of_succ_lt_succ hearlier)

/-- There are no more turns than names that the search can meet. -/
theorem turns_le (h : EndsAfter taken name turns found) {met : List String}
    (hmet : ∀ earlier < turns, candidate name earlier ∈ taken → candidate name earlier ∈ met) :
    turns ≤ met.length := by
  have hnodup : ((List.range turns).map (candidate name)).Nodup :=
    List.nodup_range.map (candidate_injective name)
  have hsubset : (List.range turns).map (candidate name) ⊆ met := by
    intro looked hlooked
    obtain ⟨earlier, hearlier, rfl⟩ := List.mem_map.mp hlooked
    have hlt := List.mem_range.mp hearlier
    exact hmet earlier hlt (h.taken_before earlier hlt)
  have hlength := (List.subperm_of_subset hnodup hsubset).length_le
  rwa [List.length_map, List.length_range] at hlength

end EndsAfter

/-- The search for a free name ends, whatever is taken. -/
theorem exists_endsAfter (taken : List String) (name : String) :
    ∃ turns, EndsAfter taken name turns (freshName taken name) := by
  fun_induction freshName taken name with
  | case1 name htaken ih =>
    obtain ⟨turns, hends⟩ := ih
    exact ⟨turns + 1, hends.turn htaken⟩
  | case2 name hfree => exact ⟨0, .stop hfree⟩

/-! ### Markers of one name -/

namespace Naming

/-- Words without digits stay apart from the words before them. -/
theorem foldr_glue_of_no_digit {words : List (List Char)} (hwords : ∀ word ∈ words, word ≠ [])
    (h : ∀ stem ∈ words.foldr glue [], stem.any Char.isDigit = false) :
    words.foldr glue [] = words := by
  induction words with
  | nil => rfl
  | cons word words ih =>
    obtain ⟨_, hrest⟩ := List.forall_mem_cons.mp hwords
    rw [List.foldr_cons] at h ⊢
    cases hstems : words.foldr glue [] with
    | nil =>
      rw [hstems] at ih
      rw [← ih hrest fun _ hnone ↦ absurd hnone List.not_mem_nil]
      rfl
    | cons next others =>
      rw [hstems] at h ih
      by_cases hdigit : next.head?.any Char.isDigit = true
      · -- A stem that begins with a digit would have been put behind the word.
        obtain ⟨c, hc, hcdigit⟩ := Option.any_eq_true _ _ |>.mp hdigit
        rw [glue, if_pos hdigit] at h
        have hstem := List.any_eq_false.mp (h _ (List.mem_cons_self ..)) c
          (List.mem_append_right _ (List.mem_of_mem_head? hc))
        exact absurd hcdigit hstem
      · rw [glue, if_neg hdigit] at h ⊢
        rw [ih hrest (List.forall_mem_cons.mp h).2]

/-- The stems of a name are its words in small letters, if there are no digits in them. -/
theorem lowerWords_eq_stems {name : String}
    (h : ∀ stem ∈ stems name, stem.any Char.isDigit = false) :
    lowerWords name.toList = stems name :=
  (foldr_glue_of_no_digit (fun _ hword ↦ (isSmallWord_of_mem_lowerWords hword).nonempty) h).symm

/-- Properties whose markers have one name have one identifier, if there are no digits in it. -/
theorem fieldIdent_eq_of_markerIdent_eq {name other : String}
    (h : markerIdent name = markerIdent other)
    (hdigits : ∀ stem ∈ stems other, stem.any Char.isDigit = false) :
    fieldIdent name = fieldIdent other := by
  have hstems := markerIdent_eq_iff.mp h
  have hwords : lowerWords name.toList = lowerWords other.toList := by
    rw [lowerWords_eq_stems hdigits, lowerWords_eq_stems (hstems ▸ hdigits), hstems]
  exact fieldIdent_eq_iff.mpr
    (congrArg (fun words ↦ String.ofList (repairStart (['_'].intercalate words))) hwords)

end Naming

/-! ### Markers of a builder -/

/-- Whether the type parameter has another name than the marker types are formed from. -/
def Marker.isRenamed (marker : Marker) : Bool :=
  marker.typeParam.isSome

namespace Builder

variable {builder : Builder}

/-- Only the identifier `any` has the marker `Any`. -/
theorem fieldIdent_of_renamed {name : String} (h : builder.isRenamed name = true) :
    fieldIdent name = "any" := by
  have hany : markerIdent "any" = anyParameter := by decide
  have hdigits : ∀ stem ∈ stems "any", stem.any Char.isDigit = false := by decide
  have hfield : fieldIdent "any" = "any" := by decide
  rw [fieldIdent_eq_of_markerIdent_eq ((markerIdent_of_renamed h).trans hany.symm) hdigits, hfield]

theorem isRenamed_marker (builder : Builder) (name : String) :
    (builder.marker name).isRenamed = builder.isRenamed name := by
  rw [Marker.isRenamed, marker, isRenamed]
  split
  case isTrue h => rw [Option.isSome_some, h]
  case isFalse h => rw [Option.isSome_none, Bool.eq_false_iff.mpr h]

/-- At most one marker of a builder is renamed. -/
theorem countP_renamed_le (builder : Builder) :
    builder.markers.countP Marker.isRenamed ≤ 1 := by
  have hrenamed : Marker.isRenamed ∘ (fun property : Property ↦ builder.marker property.name) =
      fun property ↦ builder.isRenamed property.name :=
    funext fun property ↦ builder.isRenamed_marker property.name
  calc
    builder.markers.countP Marker.isRenamed
    _ = builder.requiredProperties.countP fun property ↦ builder.isRenamed property.name := by
      rw [markers, List.countP_map, hrenamed]
    _ ≤ builder.requiredProperties.countP fun property ↦ property.key == "any" :=
      List.countP_mono_left fun property _ h ↦ beq_iff_eq.mpr (fieldIdent_of_renamed h)
    _ = (builder.requiredProperties.map Property.key).count "any" := by
      rw [List.count, List.countP_map]
      rfl
    _ ≤ 1 := List.nodup_iff_count_le_one.mp builder.nodup_keys_requiredProperties "any"

/-- A marker is renamed after fewer turns than the builder has markers. -/
theorem turns_lt_length {found : String} {turns : ℕ} {property : Property}
    (hproperty : property ∈ builder.requiredProperties)
    (hname : markerIdent property.name = anyParameter)
    (h : EndsAfter builder.takenParams (anyParameter ++ markerEnding) turns found) :
    turns < builder.markers.length := by
  let params := builder.requiredProperties.map fun required ↦ markerIdent required.name
  have hparam : anyParameter ∈ params := List.mem_map.mpr ⟨property, hproperty, hname⟩
  have hmet : turns ≤ (params.filter (· ≠ anyParameter)).length := by
    refine h.turns_le fun earlier _ htaken ↦ ?_
    -- What the search looks at is longer than the parameter for dynamically typed values.
    have hne : candidate (anyParameter ++ markerEnding) earlier ≠ anyParameter := by
      intro heq
      have hlength := congrArg String.length heq
      have hstart : (anyParameter ++ markerEnding).length = 9 := rfl
      have hany : anyParameter.length = 3 := rfl
      rw [length_candidate, hstart, hany] at hlength
      omega
    exact List.mem_filter.mpr ⟨(List.mem_cons.mp htaken).resolve_left hne, by simpa using hne⟩
  calc
    turns ≤ (params.filter (· ≠ anyParameter)).length := hmet
    _ < params.length :=
      List.length_filter_lt_length_iff_exists.mpr ⟨anyParameter, hparam, by simp⟩
    _ = builder.markers.length := by rw [List.length_map, markers, List.length_map]

/-- The search for the parameter of a marker ends, if there is one. -/
theorem exists_endsAfter_of_typeParam {property : Property} {found : String}
    (hproperty : property ∈ builder.requiredProperties)
    (hfound : (builder.marker property.name).typeParam = some found) :
    ∃ turns < builder.markers.length,
      EndsAfter builder.takenParams (anyParameter ++ markerEnding) turns found := by
  have hrenamed : builder.isRenamed property.name = true := by
    rw [← isRenamed_marker, Marker.isRenamed, hfound, Option.isSome_some]
  have hfresh : found = freshName builder.takenParams (anyParameter ++ markerEnding) := by
    rw [← generic_of_renamed builder property.name hrenamed, Marker.generic, hfound,
      Option.getD_some]
  obtain ⟨turns, hends⟩ := exists_endsAfter builder.takenParams (anyParameter ++ markerEnding)
  rw [← hfresh] at hends
  exact ⟨turns, turns_lt_length hproperty (markerIdent_of_renamed hrenamed) hends, hends⟩

/-- Next to a marker that is renamed all others keep their parameters. -/
theorem not_isRenamed_of_others {marker : Marker} {before after : List Marker}
    (hsplit : builder.markers = before ++ marker :: after) (hrenamed : marker.isRenamed = true) :
    ∀ other ∈ before ++ after, ¬ other.isRenamed = true := by
  have hcount := builder.countP_renamed_le
  rw [hsplit, List.countP_append, List.countP_cons_of_pos hrenamed] at hcount
  refine List.countP_eq_zero.mp ?_
  rw [List.countP_append]
  omega

/-- The parameter of a marker that is renamed is no other one of the builder. -/
theorem generic_ne_of_renamed {marker : Marker} {before after : List Marker}
    (hsplit : builder.markers = before ++ marker :: after) (hrenamed : marker.isRenamed = true) :
    ∀ other ∈ before ++ after, other.generic ≠ marker.generic := by
  intro other hother hsame
  have hkept := not_isRenamed_of_others hsplit hrenamed other hother
  have hmarker : marker ∈ builder.markers :=
    hsplit ▸ List.mem_append_right before (List.mem_cons_self ..)
  have hothers : before ++ after ⊆ builder.markers :=
    hsplit ▸ ((List.sublist_cons_self marker after).append_left before).subset
  obtain ⟨renamed, _, rfl⟩ := List.mem_map.mp hmarker
  obtain ⟨property, hproperty, rfl⟩ := List.mem_map.mp (hothers hother)
  rw [isRenamed_marker] at hrenamed hkept
  rw [generic_of_renamed builder _ hrenamed, generic_of_not_renamed builder _ hkept] at hsame
  exact freshName_ne_markerIdent builder _ hproperty hsame.symm

/-- In a builder that is generic over dynamically typed values the marker `Any` is renamed, and no
other one. The search for its parameter ends, after fewer turns than there are markers, with the
first name on its way that is not taken. There is at most one such marker. Then no marker has the
parameter for dynamically typed values, and the one that was renamed has a parameter that is no
other one of the builder. The marker types of all properties keep their names. -/
theorem renamed_parameter_fresh {builder : Builder} (hany : builder.needsAny = true) :
    (∀ marker ∈ builder.markers,
      (marker.isRenamed = true ↔ markerIdent marker.propertyName = anyParameter) ∧
      ∀ found ∈ marker.typeParam, ∃ turns < builder.markers.length,
        EndsAfter builder.takenParams (anyParameter ++ markerEnding) turns found) ∧
    builder.markers.countP Marker.isRenamed ≤ 1 ∧
    (∀ marker ∈ builder.markers, marker.generic ≠ anyParameter) ∧
    (∀ before marker after, builder.markers = before ++ marker :: after →
      marker.isRenamed = true → ∀ other ∈ before ++ after, other.generic ≠ marker.generic) ∧
    builder.markers.map (fun marker ↦ (marker.missing, marker.present)) =
      builder.requiredProperties.map fun property ↦
        (missingName (markerIdent property.name), existsName (markerIdent property.name)) := by
  refine ⟨?_, builder.countP_renamed_le, ?_, fun _ _ _ ↦ generic_ne_of_renamed, ?_⟩
  · intro marker hmarker
    obtain ⟨property, hproperty, rfl⟩ := List.mem_map.mp hmarker
    refine ⟨?_, fun found hfound ↦ exists_endsAfter_of_typeParam hproperty hfound⟩
    rw [isRenamed_marker, isRenamed, hany, Bool.true_and, decide_eq_true_iff]
    rfl
  · intro marker hmarker
    obtain ⟨property, _, rfl⟩ := List.mem_map.mp hmarker
    exact builder.generic_ne_any property.name hany
  · rw [markers, List.map_map]
    refine List.map_congr_left fun property _ ↦ ?_
    rw [Function.comp_apply, Marker.missing, Marker.present, marker]

/-- A builder for a thing of any kind, with required fields whose markers have the names that the
search for a free one looks at first. -/
def crowdedThing : Builder where
  object := "Thing"
  fields :=
    [{ name := "any_marker", tyPath := "String", isRequired := true },
      { name := "any", tyPath := "Any", isRequired := true, needsAny := true },
      { name := "anyMarkerMarker", tyPath := "i64", isRequired := true }]
  bodyRequired := true
  needsAny := true

theorem renamed_parameter_fresh_crowdedThing :
    crowdedThing.needsAny = true ∧
      crowdedThing.typeArguments .generic none =
        ["AnyMarker", "AnyMarkerMarkerMarker", "AnyMarkerMarker", "Any"] ∧
      (crowdedThing.marker "any").typeParam = some "AnyMarkerMarkerMarker" ∧
      (∃ turns < 3, EndsAfter crowdedThing.takenParams "AnyMarker" turns "AnyMarkerMarkerMarker") ∧
      (crowdedThing.marker "any_marker").generic ≠ (crowdedThing.marker "any").generic ∧
      (crowdedThing.marker "anyMarkerMarker").generic ≠ (crowdedThing.marker "any").generic := by
  have hany : crowdedThing.needsAny = true := rfl
  obtain ⟨hends, _, _, hfresh, _⟩ := renamed_parameter_fresh hany
  have hmarkers : crowdedThing.markers = [crowdedThing.marker "any_marker"] ++
      crowdedThing.marker "any" :: [crowdedThing.marker "anyMarkerMarker"] := by
    decide +kernel
  have hfound : (crowdedThing.marker "any").typeParam = some "AnyMarkerMarkerMarker" := by
    decide +kernel
  have hmem : crowdedThing.marker "any" ∈ crowdedThing.markers := by
    rw [hmarkers]
    simp
  have hlength : crowdedThing.markers.length = 3 := by rw [hmarkers]; rfl
  have hothers := hfresh _ _ _ hmarkers (by rw [Marker.isRenamed, hfound]; rfl)
  refine ⟨hany, by decide +kernel, hfound, ?_, hothers _ (by simp), hothers _ (by simp)⟩
  rw [← hlength]
  exact (hends _ hmem).2 _ hfound

end Builder

end TypestateBuilders
