import TypestateBuilders.Proofs.SlotNames

/-!
# Unit builders

A builder struct without slots is written as a unit struct. Whether the data is split off into a
container is decided on the parameters as they are declared, and what the structs hold on the
properties that unification keeps. These two fit together because unification cannot lose the last
parameter: parameters are declared before fields, and the first declaration of an identifier is kept
(`keptParameters_eq_nil_iff`). So a container holds a parameter at least, and a builder struct is
without slots exactly if there is no body, no parameter for dynamically typed values, and nothing to
keep or to track (`Builder.unit_builders`).
-/

set_option autoImplicit false
set_option relaxedAutoImplicit false

namespace TypestateBuilders.Builder

open Occurrence Unification

section

variable {builder : Builder} {layout : Layout}

/-! ### Parameters that are kept -/

/-- Where there are parameters, one of them is the first declaration. -/
theorem exists_declarations_eq_cons (h : builder.parameters ≠ []) :
    ∃ parameter rest, builder.declarations = Property.ofParameter parameter :: rest := by
  obtain ⟨first, others, hparameters⟩ := List.exists_cons_of_ne_nil h
  unfold declarations
  rw [hparameters, firsts_cons, List.map_cons, List.cons_append]
  exact ⟨_, _, rfl⟩

/-- A builder keeps a parameter as soon as one is declared, whatever is replaced, merged or
dropped. -/
theorem keptParameters_eq_nil_iff : builder.keptParameters = [] ↔ builder.parameters = [] := by
  constructor
  · intro hkept
    by_contra hparameters
    obtain ⟨parameter, rest, hdeclarations⟩ := exists_declarations_eq_cons hparameters
    have hfirst : marked builder.declarations (Property.ofParameter parameter) ∈
        builder.properties := by
      rw [properties_eq_firsts]
      apply List.mem_map_of_mem
      rw [hdeclarations, firsts_cons]
      exact List.mem_cons_self
    exact List.filter_eq_nil_iff.mp hkept _ hfirst (Property.isParameter_ofParameter parameter)
  · intro hparameters
    refine List.filter_eq_nil_iff.mpr fun property hproperty hkind ↦ ?_
    obtain ⟨parameter, hmem, _⟩ := exists_parameter_of_isParameter hproperty hkind
    rw [hparameters] at hmem
    exact List.not_mem_nil hmem

/-- A container is needed only beside parameters. -/
theorem parameters_ne_nil_of_needsContainer (h : builder.needsContainer = true) :
    builder.parameters ≠ [] := by
  intro hnone
  unfold needsContainer at h
  rw [hnone] at h
  simp at h

/-- Nothing is stored exactly if no parameter is kept and nothing is required. -/
theorem hasStoredProperty_eq_false_iff :
    builder.hasStoredProperty = false ↔
      builder.keptParameters = [] ∧ builder.requiredProperties = [] := by
  unfold hasStoredProperty keptParameters requiredProperties
  rw [List.any_eq_false, List.filter_eq_nil_iff, List.filter_eq_nil_iff, ← forall₂_and]
  simp only [Bool.or_eq_true, not_or]

/-! ### Structs without slots -/

theorem dataNames_eq_nil_iff :
    builder.dataNames = [] ↔ builder.bodyRequired = false ∧ builder.keptParameters = [] := by
  unfold dataNames bodySlots
  rw [List.append_eq_nil_iff, List.map_eq_nil_iff, List.map_eq_nil_iff]
  cases builder.bodyRequired <;> simp

/-- A builder struct has no slots exactly if its data is not split off, and there are neither data
nor markers, nor a parameter for dynamically typed values that needs a slot. -/
theorem outer_eq_nil_iff (h : builder.layout = .ok layout) :
    layout.outer = [] ↔ builder.needsContainer = false ∧ builder.dataNames = [] ∧
      builder.requiredProperties = [] ∧ builder.anySlots = [] := by
  have hempty := (perm_map_name_outer h).isEmpty_eq
  rw [Bool.eq_iff_iff, List.isEmpty_iff, List.isEmpty_iff, List.map_eq_nil_iff] at hempty
  rw [hempty, List.append_eq_nil_iff, List.append_eq_nil_iff, List.map_eq_nil_iff,
    List.map_eq_nil_iff]
  cases builder.needsContainer <;> simp

/-- A builder struct has no slots exactly if the builder has no body, is not generic over
dynamically typed values, and has nothing to store. -/
theorem isUnit_iff (h : builder.layout = .ok layout) :
    layout.isUnit = true ↔
      builder.bodyRequired = false ∧ builder.needsAny = false ∧
        builder.hasStoredProperty = false := by
  unfold Layout.isUnit
  rw [List.isEmpty_iff, outer_eq_nil_iff h, dataNames_eq_nil_iff, hasStoredProperty_eq_false_iff]
  constructor
  · rintro ⟨_, ⟨hbody, hkept⟩, hrequired, hany⟩
    refine ⟨hbody, ?_, hkept, hrequired⟩
    by_contra hneeds
    simp [anySlots, hbody, hneeds] at hany
  · rintro ⟨hbody, hneeds, hkept, hrequired⟩
    refine ⟨?_, ⟨hbody, hkept⟩, hrequired, by simp [anySlots, hneeds]⟩
    rw [Bool.eq_false_iff]
    intro hcontainer
    exact parameters_ne_nil_of_needsContainer hcontainer (keptParameters_eq_nil_iff.mp hkept)

/-- The container of a builder keeps a parameter at least. -/
theorem container_ne_nil (h : builder.layout = .ok layout)
    (hcontainer : builder.needsContainer = true) : layout.container ≠ [] := by
  intro hnone
  have hnames := map_name_container h
  rw [hnone, if_pos hcontainer, List.map_nil] at hnames
  have hkept := (dataNames_eq_nil_iff.mp hnames.symm).2
  exact parameters_ne_nil_of_needsContainer hcontainer (keptParameters_eq_nil_iff.mp hkept)

/-- Without required properties and without a parameter for dynamically typed values a builder type
has no arguments. -/
theorem typeArguments_eq_nil (hrequired : builder.requiredProperties = [])
    (hneeds : builder.needsAny = false) (mode : ArgumentMode) (anyValue : Option String) :
    builder.typeArguments mode anyValue = [] := by
  unfold typeArguments argumentsFor markers
  rw [hrequired, hneeds]
  rfl

/-- When a builder is written as a unit struct: exactly if it has no body, is not generic over
dynamically typed values, and neither keeps a parameter nor tracks a required property. Then it
needs no container, and its type has no arguments and no angle brackets in any mode. And a container
that is needed has a slot. -/
theorem unit_builders (h : builder.layout = .ok layout) :
    (layout.isUnit = true ↔
      builder.bodyRequired = false ∧ builder.needsAny = false ∧
        builder.hasStoredProperty = false) ∧
    (layout.isUnit = true → builder.needsContainer = false ∧
      ∀ mode anyValue, builder.generics mode anyValue = "" ∧
        (builder.typeArguments mode anyValue).length = 0) ∧
    layout.needsContainer = builder.needsContainer ∧
    (builder.needsContainer = true → layout.container ≠ []) := by
  refine ⟨isUnit_iff h, fun hunit ↦ ?_, ?_, container_ne_nil h⟩
  · have hslots := List.isEmpty_iff.mp hunit
    obtain ⟨_, hneeds, hstored⟩ := (isUnit_iff h).mp hunit
    refine ⟨((outer_eq_nil_iff h).mp hslots).1, fun mode anyValue ↦ ?_⟩
    have harguments := typeArguments_eq_nil (hasStoredProperty_eq_false_iff.mp hstored).2 hneeds
      mode anyValue
    unfold generics
    rw [harguments]
    exact ⟨rfl, rfl⟩
  · rw [(layout_eq_layoutOf h).1]
    unfold layoutOf
    cases builder.needsContainer <;> rfl

end

/-- A builder that removes a pet, of which nothing has to be known. -/
def removalBuilder : Builder where
  object := "Pet"
  fields := [{ name := "name", tyPath := "String", isRequired := true }]
  method := some .delete

/-- A builder that finds pets. A parameter of all operations at the path must be given, but the
operation replaces it by one that may be left out. -/
def listingBuilder : Builder where
  object := "Pet"
  method := some .get
  sharedParams := [{ name := "limit", tyPath := "i64", required := true }]
  ownParams := [{ name := "limit", tyPath := "i64" }]

/-- The layout of `listingBuilder`. -/
def listingLayout : Layout where
  needsContainer := true
  outer := [⟨"inner", "PetGetBuilderContainer", defaultInit⟩]
  container := [⟨"param_limit", "Option<i64>", "None"⟩]

theorem unit_builders_removal :
    removalBuilder.layout = .ok { needsContainer := false, outer := [], container := [] } ∧
      removalBuilder.hasStoredProperty = false ∧
      (∀ mode anyValue, removalBuilder.generics mode anyValue = "") ∧
      listingBuilder.layout = .ok listingLayout ∧ listingBuilder.requiredProperties = [] ∧
      listingBuilder.hasStoredProperty = true ∧ listingLayout.container ≠ [] := by
  have hremoval : removalBuilder.layout =
      .ok { needsContainer := false, outer := [], container := [] } := by decide +kernel
  have hlisting : listingBuilder.layout = .ok listingLayout := by decide +kernel
  obtain ⟨hunit, hbare, _, _⟩ := unit_builders hremoval
  obtain ⟨hshut, _, _, hcontainer⟩ := unit_builders hlisting
  refine ⟨hremoval, (hunit.mp rfl).2.2, fun mode anyValue ↦ ((hbare rfl).2 mode anyValue).1,
    hlisting, by decide +kernel, ?_, hcontainer rfl⟩
  rw [← Bool.not_eq_false]
  intro hstored
  exact absurd (hshut.mpr ⟨rfl, rfl, hstored⟩) (by decide)

end TypestateBuilders.Builder
