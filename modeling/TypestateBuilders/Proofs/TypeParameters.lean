import TypestateBuilders.Proofs.Markers
import TypestateBuilders.Proofs.Words

/-!
# When type parameters are unique

The required properties of a builder have identifiers of their own, in snake case. Their type
parameters are named in Pascal case, which does not show where a word begins that starts with a
digit. So the type parameters of a builder are unique exactly when the names of its required
properties have stems of their own (`Builder.nodup_typeArguments_iff`). The parameter that stands
for dynamically typed values never adds to this: a marker that would share its name is renamed, and
its new name is that of no other marker (`Builder.generic_eq_iff`).

Identifiers of their own are not enough: fields named `line1` and `line_1` are told apart, and both
markers are `Line1` (`Builder.exists_repeated_typeArgument`).
-/

set_option autoImplicit false
set_option relaxedAutoImplicit false

namespace TypestateBuilders.Builder

open Naming

variable {builder : Builder}

theorem isRenamed_congr {name other : String} (h : markerIdent name = markerIdent other) :
    builder.isRenamed name = builder.isRenamed other := by
  rw [isRenamed, isRenamed, h]

theorem markerIdent_of_renamed {name : String} (h : builder.isRenamed name = true) :
    markerIdent name = anyParameter :=
  of_decide_eq_true (Bool.and_eq_true_iff.mp h).2

/-- Two required properties share a type parameter exactly when their names share their stems. -/
theorem generic_eq_iff {property other : Property}
    (hproperty : property ∈ builder.requiredProperties)
    (hother : other ∈ builder.requiredProperties) :
    (builder.marker property.name).generic = (builder.marker other.name).generic ↔
      stems property.name = stems other.name := by
  have hfresh : ∀ required ∈ builder.requiredProperties,
      freshName builder.takenParams (anyParameter ++ markerEnding) ≠ markerIdent required.name :=
    fun _ hrequired ↦ freshName_ne_markerIdent builder _ hrequired
  rw [← markerIdent_eq_iff]
  by_cases hfirst : builder.isRenamed property.name = true
  · rw [generic_of_renamed builder _ hfirst]
    by_cases hsecond : builder.isRenamed other.name = true
    · -- Both would have the name of the parameter for dynamically typed values.
      rw [generic_of_renamed builder _ hsecond]
      exact iff_of_true rfl
        ((markerIdent_of_renamed hfirst).trans (markerIdent_of_renamed hsecond).symm)
    · rw [generic_of_not_renamed builder _ hsecond]
      refine iff_of_false (hfresh other hother) fun hsame ↦ hsecond ?_
      rw [← isRenamed_congr hsame, hfirst]
  · rw [generic_of_not_renamed builder _ hfirst]
    by_cases hsecond : builder.isRenamed other.name = true
    · rw [generic_of_renamed builder _ hsecond]
      refine iff_of_false (hfresh property hproperty).symm fun hsame ↦ hfirst ?_
      rw [isRenamed_congr hsame, hsecond]
    · rw [generic_of_not_renamed builder _ hsecond]

/-- The names of type parameters are those of the markers, and that for dynamically typed values. -/
theorem typeArguments_generic (builder : Builder) :
    builder.typeArguments .generic none =
      builder.requiredProperties.map (fun property ↦ (builder.marker property.name).generic) ++
        if builder.needsAny then [anyParameter] else [] := by
  rw [typeArguments, argumentsFor, markers, List.map_map]
  rfl

/-- The type parameters of a builder are unique exactly when the names of its required properties
have stems of their own. -/
theorem nodup_typeArguments_iff (builder : Builder) :
    (builder.typeArguments .generic none).Nodup ↔
      (builder.requiredProperties.map fun property ↦ stems property.name).Nodup := by
  have hmarkers : (builder.requiredProperties.map fun property ↦
        (builder.marker property.name).generic).Nodup ↔
      (builder.requiredProperties.map fun property ↦ stems property.name).Nodup := by
    rw [List.Nodup, List.Nodup, List.pairwise_map, List.pairwise_map]
    exact List.Pairwise.iff_of_mem fun hproperty hother ↦
      not_congr (generic_eq_iff hproperty hother)
  rw [typeArguments_generic, ← hmarkers]
  by_cases hany : builder.needsAny = true
  · rw [if_pos hany, List.nodup_append]
    refine ⟨fun h ↦ h.1, fun h ↦ ⟨h, List.nodup_singleton _, ?_⟩⟩
    intro name hname _ hlast
    obtain ⟨property, _, rfl⟩ := List.mem_map.mp hname
    rw [List.mem_singleton.mp hlast]
    exact generic_ne_any builder property.name hany
  · rw [if_neg hany, List.append_nil]

/-- A builder for an address in two lines, whose fields have identifiers of their own. -/
def addressBuilder : Builder where
  object := "Address"
  fields := [{ name := "line1", tyPath := "String", isRequired := true },
    { name := "line_1", tyPath := "String", isRequired := true }]
  bodyRequired := true

theorem exists_repeated_typeArgument :
    (addressBuilder.properties.map Property.key).Nodup ∧ addressBuilder.collisions = [] ∧
      addressBuilder.typeArguments .generic none = ["Line1", "Line1"] ∧
      ¬ ∀ builder : Builder, (builder.typeArguments .generic none).Nodup := by
  have hrepeated : addressBuilder.typeArguments .generic none = ["Line1", "Line1"] := by
    decide +kernel
  refine ⟨by decide +kernel, by decide +kernel, hrepeated, fun hunique ↦ ?_⟩
  exact absurd (hrepeated ▸ hunique addressBuilder) (by decide)

end TypestateBuilders.Builder
