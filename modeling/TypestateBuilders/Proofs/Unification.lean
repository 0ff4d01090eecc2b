import Mathlib.Data.List.Nodup
import TypestateBuilders.Proofs.Occurrence
import TypestateBuilders.Builder.Unification

/-!
# What unification keeps

The declarations of a builder are said once more without a loop: of the parameters the first place
and the last content of every name, and then the fields (`Builder.declarations`). Unification keeps
the first declaration of every identifier, in order, and marks it if it is a parameter and a field
of its type comes under its identifier (`marked`, `GoesAlong`). All other declarations follow the
first one of their identifier. Those that go along with it are merged, and what remains collides
(`kept_foldl_add`, `collisions_foldl_add`).

So the identifiers of what is kept are all different, and each declaration is kept, merged or
reported as a collision, and only one of these (`unification_by_occurrence`).
-/

set_option autoImplicit false
set_option relaxedAutoImplicit false

namespace TypestateBuilders

open Naming Occurrence

namespace Property

/-- A property without the mark that a field goes along with it. -/
def unmarked (property : Property) : Property :=
  { property with overridden := false }

@[simp] theorem kind_unmarked (property : Property) : property.unmarked.kind = property.kind := rfl

theorem unmarked_of_not_overridden {property : Property} (h : property.overridden = false) :
    property.unmarked = property := by
  rw [unmarked, ← h]

@[simp] theorem key_ofField (bodyRequired : Bool) (field : ObjectField) :
    (ofField bodyRequired field).key = fieldIdent field.name := rfl

theorem key_comp_ofField (bodyRequired : Bool) :
    key ∘ ofField bodyRequired = fun field ↦ fieldIdent field.name :=
  funext fun field ↦ by rw [Function.comp_apply, key_ofField]

theorem isField_ofField (bodyRequired : Bool) (field : ObjectField) :
    (ofField bodyRequired field).kind.isField = true := by
  unfold ofField
  split <;> rfl

theorem isParameter_ofParameter (parameter : Parameter) :
    (ofParameter parameter).kind.isParameter = true := by
  unfold ofParameter
  split <;> rfl

end Property

namespace Unification

/-- A field that goes along with a parameter has its type. -/
def GoesAlong (parameter field : Property) : Prop :=
  parameter.kind.isParameter = true ∧ field.kind.isField = true ∧ field.ty = parameter.ty

instance (parameter field : Property) : Decidable (GoesAlong parameter field) :=
  inferInstanceAs (Decidable (_ ∧ _ ∧ _))

/-- The first declaration of an identifier as it is kept: marked if a field goes along with it. Such
a field comes later, since the first declaration is no field then. -/
def marked (candidates : List Property) (property : Property) : Property :=
  { property with
    overridden :=
      decide (∃ field ∈ candidates, field.key = property.key ∧ GoesAlong property field) }

@[simp] theorem key_marked (candidates : List Property) (property : Property) :
    (marked candidates property).key = property.key := rfl

theorem key_comp_marked (candidates : List Property) :
    Property.key ∘ marked candidates = Property.key :=
  funext fun property ↦ by rw [Function.comp_apply, key_marked]

@[simp] theorem unmarked_marked (candidates : List Property) (property : Property) :
    (marked candidates property).unmarked = property.unmarked := rfl

theorem merges_marked (candidates : List Property) (kept candidate : Property) :
    merges (marked candidates kept) candidate = decide (GoesAlong kept candidate) := by
  rw [Bool.eq_iff_iff, decide_eq_true_iff, merges, Bool.and_eq_true, Bool.and_eq_true, beq_iff_eq,
    and_assoc, eq_comm (a := (marked candidates kept).ty)]
  rfl

/-- One more declaration marks those of its identifier that it goes along with. -/
theorem marked_append_singleton (candidates : List Property) (last property : Property) :
    marked (candidates ++ [last]) property =
      if last.key = property.key ∧ GoesAlong property last then { property with overridden := true }
      else marked candidates property := by
  by_cases h : last.key = property.key ∧ GoesAlong property last
  · rw [if_pos h]
    have hexists : ∃ field ∈ candidates ++ [last],
        field.key = property.key ∧ GoesAlong property field := ⟨last, by simp, h⟩
    simp only [marked, hexists, decide_true]
  · rw [if_neg h]
    simp only [marked, List.mem_append, List.mem_singleton, or_and_right, exists_or,
      exists_eq_left, h, or_false]

/-- Nothing goes along with a field. -/
theorem not_goesAlong_of_isField {property : Property} (h : property.kind.isField = true)
    (other : Property) : ¬ GoesAlong property other := by
  rintro ⟨hparameter, -, -⟩
  simp [PropertyKind.isField, hparameter] at h

/-- A declaration does not go along with itself. -/
theorem not_goesAlong_self (property : Property) : ¬ GoesAlong property property :=
  fun hgoes ↦ not_goesAlong_of_isField hgoes.2.1 property hgoes

/-- A field that carries no mark is kept as it is. -/
theorem marked_of_isField {property : Property} (h : property.kind.isField = true)
    (hunmarked : property.overridden = false) (candidates : List Property) :
    marked candidates property = property := by
  have hnone : ¬ ∃ field ∈ candidates, field.key = property.key ∧ GoesAlong property field :=
    fun ⟨field, _, _, hgoes⟩ ↦ not_goesAlong_of_isField h field hgoes
  simp only [marked, hnone, decide_false]
  exact Property.unmarked_of_not_overridden hunmarked

section

variable {candidates : List Property}

theorem find?_marked (candidates : List Property) (key : String) :
    ((firsts Property.key candidates).map (marked candidates)).find?
        (fun property ↦ property.key == key) =
      (first? Property.key candidates key).map (marked candidates) := by
  have htest : (fun property ↦ property.key == key) ∘ marked candidates =
      fun property ↦ decide (property.key = key) :=
    funext fun property ↦ by rw [Function.comp_apply, key_marked, beq_eq_decide]
  rw [List.find?_map, htest, ← first?_firsts, first?]

/-- Marking those of one identifier marks the first declaration that has it. -/
theorem markOverridden_marked {last first : Property}
    (hfirst : first? Property.key candidates last.key = some first) (hgoes : GoesAlong first last) :
    markOverridden last.key ((firsts Property.key candidates).map (marked candidates)) =
      (firsts Property.key candidates).map (marked (candidates ++ [last])) := by
  rw [markOverridden, List.map_map]
  refine List.map_congr_left fun property hproperty ↦ ?_
  rw [Function.comp_apply, key_marked, marked_append_singleton]
  by_cases hkey : property.key = last.key
  · have hsame : property = first := by
      have hfound := first?_of_mem_firsts Property.key hproperty
      rw [hkey, hfirst] at hfound
      exact (Option.some.inj hfound).symm
    rw [if_pos hkey, if_pos ⟨hkey.symm, hsame ▸ hgoes⟩]
    rfl
  · rw [if_neg hkey, if_neg fun h ↦ hkey h.1.symm]

/-- What does not go along with the first declaration of its identifier marks nothing. -/
theorem marked_append_of_not_goesAlong {last first : Property}
    (hfirst : first? Property.key candidates last.key = some first)
    (hgoes : ¬ GoesAlong first last) :
    (firsts Property.key candidates).map (marked (candidates ++ [last])) =
      (firsts Property.key candidates).map (marked candidates) := by
  refine List.map_congr_left fun property hproperty ↦ ?_
  rw [marked_append_singleton, if_neg]
  rintro ⟨hkey, halong⟩
  have hfound := first?_of_mem_firsts Property.key hproperty
  rw [← hkey, hfirst] at hfound
  exact hgoes (Option.some.inj hfound ▸ halong)

/-- A declaration with a new identifier marks nothing, and is not marked itself. -/
theorem marked_append_of_new {last : Property} (hlast : last.overridden = false)
    (hnew : first? Property.key candidates last.key = none) :
    (firsts Property.key candidates ++ [last]).map (marked (candidates ++ [last])) =
      (firsts Property.key candidates).map (marked candidates) ++ [last] := by
  have hkeys := first?_eq_none_iff.mp hnew
  have hself : marked (candidates ++ [last]) last = last := by
    rw [marked_append_singleton, if_neg fun h ↦ not_goesAlong_self last h.2]
    have hnone : ¬ ∃ field ∈ candidates, field.key = last.key ∧ GoesAlong last field :=
      fun ⟨field, hfield, hkey, _⟩ ↦ hkeys field hfield hkey
    simp only [marked, hnone, decide_false]
    exact Property.unmarked_of_not_overridden hlast
  rw [List.map_append, List.map_singleton, hself]
  congr 1
  refine List.map_congr_left fun property hproperty ↦ ?_
  rw [marked_append_singleton, if_neg]
  exact fun h ↦ hkeys property (firsts_subset Property.key candidates hproperty) h.1.symm

/-- What is kept of declarations that carry no mark: the first one of every identifier, marked if a
field goes along with it. -/
theorem kept_foldl_add (h : ∀ candidate ∈ candidates, candidate.overridden = false) :
    (candidates.foldl add {}).kept = (firsts Property.key candidates).map (marked candidates) := by
  induction candidates using List.reverseRecOn with
  | nil => rfl
  | append_singleton candidates last ih =>
    have hkept := ih fun candidate hcandidate ↦ h candidate (List.mem_append_left _ hcandidate)
    rw [List.foldl_append, List.foldl_cons, List.foldl_nil]
    simp only [add, hkept, find?_marked]
    cases hfirst : first? Property.key candidates last.key with
    | none =>
      rw [firsts_append_of_none hfirst, marked_append_of_new (h last (by simp)) hfirst]
      rfl
    | some first =>
      rw [firsts_append_of_some hfirst, Option.map_some]
      by_cases hgoes : GoesAlong first last
      · rw [← markOverridden_marked hfirst hgoes]
        simp [merges_marked, hgoes]
      · rw [marked_append_of_not_goesAlong hfirst hgoes]
        simp [merges_marked, hgoes]

/-- The pairs of declarations that collide, when marks do not count: those that follow the first one
of their identifier and do not go along with it. -/
theorem collisions_foldl_add (h : ∀ candidate ∈ candidates, candidate.overridden = false) :
    (candidates.foldl add {}).collisions.map (fun pair ↦ (pair.1.unmarked, pair.2)) =
      (followers Property.key candidates).filter fun pair ↦ ¬ GoesAlong pair.1 pair.2 := by
  induction candidates using List.reverseRecOn with
  | nil => rfl
  | append_singleton candidates last ih =>
    have hunmarked : ∀ candidate ∈ candidates, candidate.overridden = false :=
      fun candidate hcandidate ↦ h candidate (List.mem_append_left _ hcandidate)
    rw [List.foldl_append, List.foldl_cons, List.foldl_nil]
    simp only [add, kept_foldl_add hunmarked, find?_marked]
    cases hfirst : first? Property.key candidates last.key with
    | none =>
      rw [followers_append_of_none hfirst, ← ih hunmarked]
      rfl
    | some first =>
      rw [followers_append_of_some hfirst, List.filter_append, ← ih hunmarked]
      by_cases hgoes : GoesAlong first last
      · simp [merges_marked, hgoes]
      · have hsame : first.unmarked = first :=
          Property.unmarked_of_not_overridden (hunmarked first (mem_of_first? hfirst))
        simp [merges_marked, hgoes, hsame]

end

/-- Further declarations add to what collides. -/
theorem collisions_prefix_foldl_add (candidates : List Property) (unified : Unification) :
    unified.collisions <+: (candidates.foldl add unified).collisions := by
  induction candidates generalizing unified with
  | nil => exact List.prefix_rfl
  | cons candidate rest ih =>
    refine List.IsPrefix.trans ?_ (ih (add unified candidate))
    simp only [add]
    split
    · exact List.prefix_rfl
    · split
      · exact List.prefix_rfl
      · exact List.prefix_append ..

end Unification

namespace Builder

open Unification

/-- All declarations, in the order in which they are unified: the parameters, of each name the first
place and the last content, and then the fields. -/
def declarations (builder : Builder) : List Property :=
  ((firsts Parameter.name builder.parameters).map fun parameter ↦
    Property.ofParameter (latest Parameter.name builder.parameters parameter)) ++
  builder.fields.map (Property.ofField builder.bodyRequired)

theorem parameterProperties_eq (builder : Builder) :
    builder.parameterProperties = (firsts Parameter.name builder.parameters).map fun parameter ↦
      Property.ofParameter (latest Parameter.name builder.parameters parameter) := by
  rw [parameterProperties, Keyed.ofList_eq_firsts, List.map_map, firsts_map, List.map_map]
  refine List.map_congr_left fun parameter _ ↦ ?_
  rw [Function.comp_apply, Function.comp_apply,
    latest_map Prod.fst fun parameter : Parameter ↦
      (parameter.name, Property.ofParameter parameter)]

theorem candidates_eq_declarations (builder : Builder) :
    builder.candidates = builder.declarations := by
  rw [candidates, declarations, parameterProperties_eq]

/-- A declaration comes from a parameter or from a field. -/
theorem mem_declarations {builder : Builder} {property : Property}
    (h : property ∈ builder.declarations) :
    (∃ parameter ∈ builder.parameters, property = Property.ofParameter parameter) ∨
      ∃ field ∈ builder.fields, property = Property.ofField builder.bodyRequired field := by
  rcases List.mem_append.mp h with hparameter | hfield
  · obtain ⟨parameter, hmem, rfl⟩ := List.mem_map.mp hparameter
    exact Or.inl ⟨_, latest_mem Parameter.name (firsts_subset Parameter.name _ hmem), rfl⟩
  · obtain ⟨field, hmem, rfl⟩ := List.mem_map.mp hfield
    exact Or.inr ⟨field, hmem, rfl⟩

theorem not_overridden_of_mem_declarations {builder : Builder} {property : Property}
    (h : property ∈ builder.declarations) : property.overridden = false := by
  rcases mem_declarations h with ⟨_, _, rfl⟩ | ⟨_, _, rfl⟩ <;> rfl

theorem properties_eq_firsts (builder : Builder) :
    builder.properties =
      (firsts Property.key builder.declarations).map (marked builder.declarations) := by
  rw [properties, unification, candidates_eq_declarations]
  exact kept_foldl_add fun _ ↦ not_overridden_of_mem_declarations

theorem collisions_eq_followers (builder : Builder) :
    builder.collisions.map (fun pair ↦ (pair.1.unmarked, pair.2)) =
      (followers Property.key builder.declarations).filter
        fun pair ↦ ¬ GoesAlong pair.1 pair.2 := by
  rw [collisions, unification, candidates_eq_declarations]
  exact collisions_foldl_add fun _ ↦ not_overridden_of_mem_declarations

section

variable {builder : Builder} (h : builder.parameters = [])

include h

theorem declarations_of_no_parameters :
    builder.declarations = builder.fields.map (Property.ofField builder.bodyRequired) := by
  rw [declarations, h]
  rfl

/-- Without parameters all declarations collide that follow others of their identifiers. -/
theorem collisions_of_no_parameters :
    builder.collisions.map (fun pair ↦ (pair.1.unmarked, pair.2)) =
      followers Property.key builder.declarations := by
  rw [collisions_eq_followers]
  refine List.filter_eq_self.mpr fun pair hpair ↦ decide_eq_true ?_
  have hfirst := mem_of_first? (first?_of_mem_followers Property.key hpair)
  rw [declarations_of_no_parameters h] at hfirst
  obtain ⟨field, _, hfield⟩ := List.mem_map.mp hfirst
  exact not_goesAlong_of_isField (hfield ▸ Property.isField_ofField _ field) _

/-- Without parameters the declarations collide where two fields share an identifier. -/
theorem collisions_eq_nil_iff :
    builder.collisions = [] ↔ (builder.fields.map fun field ↦ fieldIdent field.name).Nodup := by
  rw [← List.map_eq_nil_iff, collisions_of_no_parameters h, followers_eq_nil_iff,
    declarations_of_no_parameters h, List.map_map, Property.key_comp_ofField]

end

/-- What collides among the declarations that are looked at collides among all of them. -/
theorem collisions_examined_prefix (builder : Builder) :
    builder.examined.collisions <+: builder.collisions := by
  have hsplit : builder.examined.fields ++
      builder.fields.dropWhile ObjectField.hasKnownChildren = builder.fields :=
    List.takeWhile_append_dropWhile
  have hcandidates : builder.candidates = builder.examined.candidates ++
      (builder.fields.dropWhile ObjectField.hasKnownChildren).map
        (Property.ofField builder.bodyRequired) := by
    conv_lhs => rw [candidates, ← hsplit, List.map_append, ← List.append_assoc]
    rfl
  rw [collisions, collisions, unification, unification, hcandidates, List.foldl_append]
  exact collisions_prefix_foldl_add _ _

/-- The properties of a builder have identifiers of their own. -/
theorem nodup_keys_properties (builder : Builder) :
    (builder.properties.map Property.key).Nodup := by
  rw [properties_eq_firsts, List.map_map, key_comp_marked]
  exact nodup_keys_firsts Property.key builder.declarations

theorem eq_of_key_eq {builder : Builder} {property other : Property}
    (hproperty : property ∈ builder.properties) (hother : other ∈ builder.properties)
    (h : property.key = other.key) : property = other :=
  List.inj_on_of_nodup_map builder.nodup_keys_properties hproperty hother h

/-- A property is a declaration, up to its mark. -/
theorem unmarked_mem_declarations {builder : Builder} {property : Property}
    (h : property ∈ builder.properties) : property.unmarked ∈ builder.declarations := by
  rw [properties_eq_firsts] at h
  obtain ⟨first, hfirst, rfl⟩ := List.mem_map.mp h
  have hmem := firsts_subset Property.key _ hfirst
  rwa [unmarked_marked,
    Property.unmarked_of_not_overridden (not_overridden_of_mem_declarations hmem)]

/-- A property comes from a parameter or from a field, up to its mark. -/
theorem origin_of_mem_properties {builder : Builder} {property : Property}
    (h : property ∈ builder.properties) :
    (∃ parameter ∈ builder.parameters, property.unmarked = Property.ofParameter parameter) ∨
      ∃ field ∈ builder.fields, property.unmarked = Property.ofField builder.bodyRequired field :=
  mem_declarations (unmarked_mem_declarations h)

/-- A property that is a parameter comes from one, up to its mark. -/
theorem exists_parameter_of_isParameter {builder : Builder} {property : Property}
    (h : property ∈ builder.properties) (hkind : property.kind.isParameter = true) :
    ∃ parameter ∈ builder.parameters, property.unmarked = Property.ofParameter parameter := by
  refine (origin_of_mem_properties h).resolve_right ?_
  rintro ⟨field, _, horigin⟩
  have hfield := Property.isField_ofField builder.bodyRequired field
  rw [← horigin, Property.kind_unmarked, PropertyKind.isField, hkind] at hfield
  exact Bool.false_ne_true hfield

/-- A required parameter of a builder is declared as required. -/
theorem exists_parameter_of_required {builder : Builder} {property : Property}
    (h : property ∈ builder.properties) (hkind : property.kind = .requiredParameter) :
    ∃ parameter ∈ builder.parameters,
      parameter.required = true ∧ parameter.name = property.name := by
  rcases origin_of_mem_properties h with ⟨parameter, hmem, horigin⟩ | ⟨field, _, horigin⟩
  · refine ⟨parameter, hmem, ?_, (congrArg Property.name horigin).symm⟩
    have hrequired := congrArg Property.kind horigin
    rw [Property.kind_unmarked, hkind] at hrequired
    by_contra hoptional
    simp [Property.ofParameter, hoptional] at hrequired
  · have hfield := congrArg Property.kind horigin
    rw [Property.kind_unmarked, hkind, Property.ofField] at hfield
    split at hfield <;> cases hfield

/-- A required field of a builder is declared as required, and the builder has a body for it. -/
theorem exists_field_of_required {builder : Builder} {property : Property}
    (h : property ∈ builder.properties) (hkind : property.kind = .requiredField) :
    builder.bodyRequired = true ∧
      ∃ field ∈ builder.fields, field.isRequired = true ∧ field.name = property.name := by
  rcases origin_of_mem_properties h with ⟨parameter, _, horigin⟩ | ⟨field, hmem, horigin⟩
  · have hparameter := congrArg Property.kind horigin
    rw [Property.kind_unmarked, hkind, Property.ofParameter] at hparameter
    split at hparameter <;> cases hparameter
  · have hrequired := congrArg Property.kind horigin
    rw [Property.kind_unmarked, hkind, Property.ofField] at hrequired
    have hboth : (builder.bodyRequired && field.isRequired) = true := by
      by_contra hoptional
      simp [hoptional] at hrequired
    rw [Bool.and_eq_true] at hboth
    exact ⟨hboth.1, field, hmem, hboth.2, (congrArg Property.name horigin).symm⟩

/-- A dropped declaration has the identifier of what it lost to, which is kept. -/
theorem exists_kept_of_mem_collisions {builder : Builder} {pair : Property × Property}
    (h : pair ∈ builder.collisions) :
    ∃ property ∈ builder.properties,
      property.key = pair.2.key ∧ property.unmarked = pair.1.unmarked := by
  have hfollower : (pair.1.unmarked, pair.2) ∈ followers Property.key builder.declarations := by
    refine List.mem_of_mem_filter (p := fun pair ↦ ¬ GoesAlong pair.1 pair.2) ?_
    rw [← collisions_eq_followers]
    exact List.mem_map.mpr ⟨pair, h, rfl⟩
  have hfirst := first?_of_mem_followers Property.key hfollower
  have hkey := key_of_first? hfirst
  refine ⟨marked builder.declarations pair.1.unmarked, ?_, ?_, unmarked_marked ..⟩
  swap
  · rw [key_marked, hkey]
  rw [properties_eq_firsts]
  rw [← first?_firsts] at hfirst
  exact List.mem_map_of_mem (mem_of_first? hfirst)

/-- Where nothing collides, every declaration is kept or goes along with what is kept. -/
theorem exists_kept_of_no_collisions {builder : Builder} (h : builder.collisions = [])
    {declaration : Property} (hmem : declaration ∈ builder.declarations) :
    ∃ property ∈ builder.properties, property.key = declaration.key ∧
      (property.unmarked = declaration ∨
        property.overridden = true ∧ GoesAlong property declaration) := by
  have hperm := perm_firsts_followers Property.key builder.declarations
  rw [properties_eq_firsts]
  rcases List.mem_append.mp (hperm.mem_iff.mpr hmem) with hfirst | hfollower
  · refine ⟨_, List.mem_map_of_mem hfirst, key_marked .., Or.inl ?_⟩
    rw [unmarked_marked,
      Property.unmarked_of_not_overridden (not_overridden_of_mem_declarations hmem)]
  · obtain ⟨⟨first, follower⟩, hpair, rfl⟩ := List.mem_map.mp hfollower
    have hfirst := first?_of_mem_followers Property.key hpair
    have hgoes : GoesAlong first follower := by
      by_contra hnot
      have hcollisions := builder.collisions_eq_followers
      rw [h, List.map_nil] at hcollisions
      refine List.eq_nil_iff_forall_not_mem.mp hcollisions.symm (first, follower) ?_
      exact List.mem_filter.mpr ⟨hpair, decide_eq_true hnot⟩
    have hkey : first.key = follower.key := key_of_first? hfirst
    have hkept : first ∈ firsts Property.key builder.declarations :=
      mem_of_first? (by rwa [first?_firsts])
    refine ⟨_, List.mem_map_of_mem hkept, hkey, Or.inr ⟨?_, hgoes⟩⟩
    exact decide_eq_true ⟨follower, hmem, hkey.symm, hgoes⟩

/-- The declarations that go along with the first one of their identifier. -/
def mergedFields (builder : Builder) : List Property :=
  ((followers Property.key builder.declarations).filter fun pair ↦
    GoesAlong pair.1 pair.2).map Prod.snd

/-- Each declaration is kept, merged or reported as a collision, and it is only one of these. -/
theorem perm_declarations (builder : Builder) :
    (builder.properties.map Property.unmarked ++ builder.mergedFields ++
      builder.collisions.map Prod.snd).Perm builder.declarations := by
  have hkept : builder.properties.map Property.unmarked =
      firsts Property.key builder.declarations := by
    rw [properties_eq_firsts, List.map_map]
    refine (List.map_congr_left fun property hproperty ↦ ?_).trans (List.map_id _)
    exact Property.unmarked_of_not_overridden
      (not_overridden_of_mem_declarations (firsts_subset Property.key _ hproperty))
  have hdropped : builder.collisions.map Prod.snd =
      ((followers Property.key builder.declarations).filter fun pair ↦
        ¬ GoesAlong pair.1 pair.2).map Prod.snd := by
    rw [← collisions_eq_followers, List.map_map]
    rfl
  have hsplit : (builder.mergedFields ++ builder.collisions.map Prod.snd).Perm
      ((followers Property.key builder.declarations).map Prod.snd) := by
    rw [hdropped, mergedFields, ← List.map_append]
    refine List.Perm.map Prod.snd ?_
    simpa using List.filter_append_perm
      (fun pair : Property × Property ↦ decide (GoesAlong pair.1 pair.2))
      (followers Property.key builder.declarations)
  rw [hkept, List.append_assoc]
  exact (hsplit.append_left _).trans (perm_firsts_followers Property.key builder.declarations)

/-- Unification under a lenient policy. It is not refused where the children of all fields are
known. What is kept is the first declaration of every identifier, in order, marked if a field goes
along with it. What collides are the other declarations that do not go along with the first one of
their identifier, each behind the kept declaration of its identifier. So what is kept has
identifiers of its own, and each declaration is kept, merged or reported once. -/
theorem unification_by_occurrence (builder : Builder) (hpolicy : builder.collisionPolicy = .drop) :
    ((∀ field ∈ builder.fields, field.hasKnownChildren = true) →
      builder.accepted builder.unification = .ok builder.unification) ∧
    builder.properties =
      (firsts Property.key builder.declarations).map (marked builder.declarations) ∧
    builder.collisions.map (fun pair ↦ (pair.1.unmarked, pair.2)) =
      (followers Property.key builder.declarations).filter (fun pair ↦ ¬ GoesAlong pair.1 pair.2) ∧
    (∀ pair ∈ builder.collisions, ∃ property ∈ builder.properties,
      property.key = pair.2.key ∧ property.unmarked = pair.1.unmarked) ∧
    (builder.properties.map Property.key).Nodup ∧
    (builder.properties.map Property.unmarked ++ builder.mergedFields ++
      builder.collisions.map Prod.snd).Perm builder.declarations :=
  ⟨fun hknown ↦ accepted_of_drop hpolicy hknown builder.unification, builder.properties_eq_firsts,
    builder.collisions_eq_followers, fun _ ↦ exists_kept_of_mem_collisions,
    builder.nodup_keys_properties, builder.perm_declarations⟩

/-- A builder with six declarations of one identifier: a parameter that is replaced, another
parameter, and four fields of which two have the type of the first parameter. -/
def petSearch : Builder where
  object := "Pet"
  fields :=
    [{ name := "pet_id", tyPath := "i64" }, { name := "PetID", tyPath := "String" },
      { name := "pet-id", tyPath := "String" }, { name := "petId", tyPath := "bool" }]
  sharedParams := [{ name := "petId", tyPath := "i64" }, { name := "limit", tyPath := "i32" }]
  ownParams :=
    [{ name := "petId", tyPath := "String", required := true },
      { name := "PET_ID", tyPath := "String" }]

theorem unification_by_occurrence_petSearch :
    petSearch.collisionPolicy = .drop ∧
      (∀ field ∈ petSearch.fields, field.hasKnownChildren = true) ∧
      petSearch.accepted petSearch.unification = .ok petSearch.unification ∧
      petSearch.properties =
        [{ name := "petId", ty := "String", kind := .requiredParameter, overridden := true,
            location := some .query },
          { name := "limit", ty := "i32", kind := .optionalParameter, location := some .query }] ∧
      petSearch.collisions.map (fun pair ↦ (pair.1.name, pair.2.name)) =
        [("petId", "PET_ID"), ("petId", "pet_id"), ("petId", "petId")] := by
  obtain ⟨haccepted, hkept, hcollisions, -⟩ := unification_by_occurrence petSearch rfl
  refine ⟨rfl, by decide, haccepted (by decide), hkept.trans (by decide +kernel), ?_⟩
  have hnames := congrArg (List.map fun pair ↦ (pair.1.name, pair.2.name)) hcollisions
  rw [List.map_map] at hnames
  exact hnames.trans (by decide +kernel)

end Builder

end TypestateBuilders
