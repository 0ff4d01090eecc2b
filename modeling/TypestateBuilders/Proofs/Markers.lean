import TypestateBuilders.Proofs.Unification
import TypestateBuilders.Builder.Marker

/-!
# Marker types and type parameters

The two marker types of a property are never one type (`present_ne_missing`), and a marker type that
is addressed by its path is never a type parameter of the builder (`path_present_ne_generic`): most
parameters are shorter than the path, and one that was renamed has another ending. Where a builder
is generic over dynamically typed values, no marker takes the parameter that stands for these
(`generic_ne_any`).
-/

set_option autoImplicit false
set_option relaxedAutoImplicit false

namespace TypestateBuilders

open Naming

/-- A fresh name is not taken. -/
theorem freshName_notMem (taken : List String) (name : String) : freshName taken name ∉ taken := by
  fun_induction freshName taken name with
  | case1 name htaken ih => exact ih
  | case2 name hfree => exact hfree

/-- A fresh name ends like the name it was made from, if that has the ending of renamed ones. -/
theorem exists_freshName_eq_append (taken : List String) (name : String) :
    ∃ start, freshName taken (name ++ markerEnding) = start ++ markerEnding := by
  generalize hlong : name ++ markerEnding = long
  fun_induction freshName taken long generalizing name with
  | case1 long htaken ih => exact ih long rfl
  | case2 long hfree => exact ⟨name, hlong.symm⟩

namespace Builder

variable (builder : Builder) (name : String)

theorem present_ne_missing (path : String) (marker : Marker) :
    path ++ marker.present ≠ path ++ marker.missing := by
  intro h
  have hlength := congrArg String.length h
  have hexists : "Exists".length = 6 := rfl
  have hmissing : "Missing".length = 7 := rfl
  simp only [Marker.present, Marker.missing, existsName, missingName,
    String.length_append] at hlength
  omega

/-- Whether the type parameter of a property needs another name than its markers are formed from. -/
def isRenamed : Bool :=
  builder.needsAny && markerIdent name = anyParameter

theorem generic_of_renamed (h : builder.isRenamed name = true) :
    (builder.marker name).generic =
      freshName builder.takenParams (anyParameter ++ markerEnding) := by
  rw [isRenamed] at h
  simp only [Marker.generic, marker, h, if_true, Option.getD_some]

theorem generic_of_not_renamed (h : ¬ builder.isRenamed name = true) :
    (builder.marker name).generic = markerIdent name := by
  rw [isRenamed] at h
  simp only [Marker.generic, marker, h, Bool.false_eq_true, if_false, Option.getD_none]

/-- The path of a marker type of a property is not the type parameter of the property. -/
theorem path_present_ne_generic :
    genericsPath builder.helpers ++ (builder.marker name).present ≠
      (builder.marker name).generic := by
  by_cases hrenamed : builder.isRenamed name = true
  · -- A renamed parameter may be as long as the path, but it ends in another character.
    obtain ⟨start, hfresh⟩ := exists_freshName_eq_append builder.takenParams anyParameter
    rw [generic_of_renamed builder name hrenamed, hfresh]
    intro h
    have hlast := congrArg (fun text : String ↦ text.toList.getLast?) h
    simp [Marker.present, existsName, markerEnding] at hlast
  · rw [generic_of_not_renamed builder name hrenamed]
    intro h
    have hlength := congrArg String.length h
    have hexists : "Exists".length = 6 := rfl
    simp only [Marker.present, marker, existsName, String.length_append] at hlength
    omega

/-- No marker has the parameter for dynamically typed values as its type parameter. -/
theorem generic_ne_any (hany : builder.needsAny = true) :
    (builder.marker name).generic ≠ anyParameter := by
  by_cases hrenamed : builder.isRenamed name = true
  · have hfree := freshName_notMem builder.takenParams (anyParameter ++ markerEnding)
    rw [generic_of_renamed builder name hrenamed]
    exact fun h ↦ hfree (by rw [h]; exact List.mem_cons_self ..)
  · rw [generic_of_not_renamed builder name hrenamed]
    simpa [isRenamed, hany] using hrenamed

/-- A fresh name is not that of the markers of a required property. -/
theorem freshName_ne_markerIdent {property : Property}
    (hproperty : property ∈ builder.requiredProperties) :
    freshName builder.takenParams name ≠ markerIdent property.name := by
  intro h
  refine freshName_notMem builder.takenParams name ?_
  rw [h]
  exact List.mem_cons_of_mem _ (List.mem_map.mpr ⟨property, hproperty, rfl⟩)

/-- The required properties have identifiers of their own. -/
theorem nodup_keys_requiredProperties :
    (builder.requiredProperties.map Property.key).Nodup :=
  (List.filter_sublist.map Property.key).nodup builder.nodup_keys_properties

/-- The required properties have names of their own. -/
theorem nodup_names_requiredProperties :
    (builder.requiredProperties.map Property.name).Nodup := by
  refine List.Nodup.of_map fieldIdent ?_
  have hkey : fieldIdent ∘ Property.name = Property.key :=
    funext fun property ↦ by rw [Function.comp_apply, Property.key]
  rw [List.map_map, hkey]
  exact builder.nodup_keys_requiredProperties

/-- The type arguments with one property set differ from the generic ones at the place of this
property, and nowhere else. -/
theorem exists_typeArguments_changeOne {property : Property}
    (hproperty : property ∈ builder.requiredProperties) :
    ∃ before after, builder.typeArguments .generic none =
        before ++ (builder.marker property.name).generic :: after ∧
      builder.typeArguments (.changeOne property.name) none =
        before ++ (genericsPath builder.helpers ++ (builder.marker property.name).present) ::
          after := by
  obtain ⟨before, after, hsplit⟩ := List.append_of_mem hproperty
  have hnames := builder.nodup_names_requiredProperties
  rw [hsplit, List.map_append, List.map_cons, List.nodup_middle, List.nodup_cons,
    List.mem_append, not_or] at hnames
  have hothers : ∀ others : List Property, property.name ∉ others.map Property.name →
      (others.map fun other ↦ builder.marker other.name).map
          (builder.markerArgument (.changeOne property.name)) =
        (others.map fun other ↦ builder.marker other.name).map Marker.generic := by
    intro others hfresh
    refine List.map_congr_left fun marker hmarker ↦ ?_
    obtain ⟨other, hother, rfl⟩ := List.mem_map.mp hmarker
    exact if_neg fun hname ↦ hfresh (List.mem_map.mpr ⟨other, hother, hname⟩)
  refine ⟨(before.map fun other ↦ builder.marker other.name).map Marker.generic,
    (after.map fun other ↦ builder.marker other.name).map Marker.generic ++
      if builder.needsAny then [anyArgument none] else [], ?_, ?_⟩
  · have hgeneric : builder.markerArgument .generic = Marker.generic := rfl
    rw [typeArguments, argumentsFor, hgeneric, markers, hsplit]
    simp
  · rw [typeArguments, argumentsFor, markers, hsplit, List.map_append, List.map_append,
      hothers before hnames.1.1, List.map_cons, List.map_cons, hothers after hnames.1.2]
    simp [markerArgument, marker]

end Builder

end TypestateBuilders
