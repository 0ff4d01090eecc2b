import TypestateBuilders.Proofs.Storage
import TypestateBuilders.Proofs.TypeParameters

/-!
# Every type parameter is used

A struct may not declare a type parameter that none of its fields uses. The parameters of a builder
are listed from its markers, and its slots from its properties; they agree, in number and in order
(`Builder.parameters_used`). The slots that carry markers have the parameters of the markers as
arguments, one each (`map_ty_markerSlots`). The parameter for dynamically typed values stands last
among the arguments in every mode. It is used by the body, where there is one: in the builder struct
itself, or in the container that the struct then hands it to. Otherwise there is a slot for it alone
(`exists_anySlot`).
-/

set_option autoImplicit false
set_option relaxedAutoImplicit false

namespace TypestateBuilders.Builder

/-! ### Arguments -/

/-- The type parameters that a builder declares for its markers. -/
def markerParameters (builder : Builder) : List String :=
  builder.markers.map Marker.generic

theorem markerParameters_eq (builder : Builder) :
    builder.markerParameters =
      builder.requiredProperties.map fun property ↦ (builder.marker property.name).generic := by
  rw [markerParameters, markers, List.map_map]
  rfl

/-- One argument for each required property, and then that for dynamically typed values. -/
theorem exists_typeArguments_eq (builder : Builder) (mode : ArgumentMode)
    (anyValue : Option String) :
    ∃ arguments, builder.typeArguments mode anyValue =
        arguments ++ (if builder.needsAny then [anyArgument anyValue] else []) ∧
      arguments.length = builder.requiredProperties.length := by
  refine ⟨builder.markers.map (builder.markerArgument mode), rfl, ?_⟩
  rw [List.length_map, markers, List.length_map]

theorem length_typeArguments (builder : Builder) (mode : ArgumentMode) (anyValue : Option String) :
    (builder.typeArguments mode anyValue).length =
      builder.requiredProperties.length + if builder.needsAny then 1 else 0 := by
  obtain ⟨arguments, harguments, hlength⟩ := builder.exists_typeArguments_eq mode anyValue
  rw [harguments, List.length_append, hlength]
  split <;> rfl

theorem drop_typeArguments (builder : Builder) (mode : ArgumentMode) (anyValue : Option String) :
    (builder.typeArguments mode anyValue).drop builder.requiredProperties.length =
      if builder.needsAny then [anyArgument anyValue] else [] := by
  obtain ⟨arguments, harguments, hlength⟩ := builder.exists_typeArguments_eq mode anyValue
  rw [harguments, ← hlength, List.drop_left]

theorem typeArguments_eq_markerParameters (builder : Builder) :
    builder.typeArguments .generic none =
      builder.markerParameters ++ if builder.needsAny then [anyParameter] else [] := by
  rw [typeArguments_generic, markerParameters_eq]

/-! ### Slots of markers -/

/-- A slot without size, whose type has one argument. -/
def phantomSlot (name parameter : String) : Slot :=
  ⟨name, phantomData ++ angled [parameter], phantomData⟩

/-- Whether a slot has no size. -/
def isPhantom (slot : Slot) : Bool :=
  slot.init = phantomData

variable {builder : Builder} {layout : Layout}

theorem filter_isPhantom_bodySlots (builder : Builder) :
    builder.bodySlots.filter isPhantom = [] := by
  rw [bodySlots]
  split <;> rfl

theorem filter_isPhantom_markerSlots (builder : Builder) (property : Property) :
    (builder.markerSlots property).filter isPhantom = builder.markerSlots property := by
  rw [markerSlots]
  split <;> rfl

/-- What keeps a parameter has a size. -/
theorem filter_isPhantom_storedSlots (h : builder.layout = .ok layout) {property : Property}
    (hproperty : property ∈ builder.properties) :
    (builder.storedSlots property).filter isPhantom = [] := by
  by_cases hkind : property.kind.isParameter = true
  · obtain ⟨_, _, hstored⟩ :=
      storedSlots_of_parameter ((layout_eq_layoutOf h).2 property hproperty) hkind
    rw [hstored]
    rfl
  · rw [storedSlots_of_field hkind]
    rfl

/-- The slots without size carry the markers, apart from the one for dynamically typed values that
may stand behind all others. -/
theorem outer_eq_append_anySlots (h : builder.layout = .ok layout) :
    ∃ slots, layout.outer = slots ++ builder.anySlots ∧
      slots.filter isPhantom = builder.properties.flatMap builder.markerSlots := by
  have hmarkers : ∀ property ∈ builder.properties,
      (builder.storedSlots property ++ builder.markerSlots property).filter isPhantom =
        builder.markerSlots property := by
    intro property hproperty
    rw [List.filter_append, filter_isPhantom_storedSlots h hproperty, List.nil_append,
      filter_isPhantom_markerSlots]
  rw [(layout_eq_layoutOf h).1, layoutOf]
  cases builder.needsContainer with
  | true =>
    refine ⟨builder.innerSlot :: builder.properties.flatMap builder.markerSlots, ?_, ?_⟩
    · rw [if_pos rfl, List.flatMap_map]
    · have hinner : ¬ isPhantom builder.innerSlot = true := by
        simp [isPhantom, innerSlot, defaultInit, phantomData]
      rw [List.filter_cons_of_neg hinner, List.filter_flatMap]
      exact List.flatMap_congr fun property _ ↦ builder.filter_isPhantom_markerSlots property
  | false =>
    refine ⟨builder.bodySlots ++ builder.properties.flatMap fun property ↦
      builder.storedSlots property ++ builder.markerSlots property, ?_, ?_⟩
    · rw [if_neg Bool.false_ne_true, List.flatMap_map]
    · rw [List.filter_append, filter_isPhantom_bodySlots, List.nil_append, List.filter_flatMap]
      exact List.flatMap_congr hmarkers

theorem map_ty_markerSlots (builder : Builder) :
    (builder.properties.flatMap builder.markerSlots).map Slot.ty =
      builder.markerParameters.map fun parameter ↦ phantomData ++ angled [parameter] := by
  rw [markerParameters_eq, List.map_map]
  apply map_flatMap_of_one
  intro property _
  rw [markerSlots]
  split <;> rfl

/-! ### The parameter for dynamically typed values -/

/-- The slot of a builder struct that uses the parameter for dynamically typed values: that of the
body, that of the container, or one for it alone. -/
def UsesAny (builder : Builder) (slot : Slot) : Prop :=
  slot.name = "body" ∧ slot.ty = "self::" ++ builder.object ++ angled [anyParameter] ∨
    slot.name = "inner" ∧ slot.ty = builder.containerName ++ angled [anyParameter] ∨
    slot = phantomSlot "_any" anyParameter ∧ builder.bodyRequired = false

theorem exists_bodySlot_of_any (hany : builder.needsAny = true)
    (hbody : builder.bodyRequired = true) :
    ∃ slot ∈ builder.bodySlots, slot.name = "body" ∧
      slot.ty = "self::" ++ builder.object ++ angled [anyParameter] := by
  rw [bodySlots, if_pos hbody, hany]
  exact ⟨_, List.mem_singleton_self _, rfl, rfl⟩

/-- A builder that is generic over dynamically typed values has a slot that uses the parameter. -/
theorem exists_usesAny (h : builder.layout = .ok layout) (hany : builder.needsAny = true) :
    ∃ slot ∈ layout.outer, builder.UsesAny slot := by
  rw [(layout_eq_layoutOf h).1, layoutOf]
  cases hbody : builder.bodyRequired with
  | false =>
    have halone : phantomSlot "_any" anyParameter ∈ builder.anySlots := by
      rw [anySlots, hany, hbody]
      exact List.mem_singleton_self _
    refine ⟨_, ?_, Or.inr (Or.inr ⟨rfl, hbody⟩)⟩
    split
    · exact List.mem_append_right _ halone
    · exact List.mem_append_right _ halone
  | true =>
    cases builder.needsContainer with
    | true =>
      refine ⟨builder.innerSlot, List.mem_cons_self, Or.inr (Or.inl ⟨rfl, ?_⟩)⟩
      rw [innerSlot, hany, hbody]
      rfl
    | false =>
      obtain ⟨slot, hslot, hnamed⟩ := exists_bodySlot_of_any hany hbody
      refine ⟨slot, ?_, Or.inl hnamed⟩
      exact List.mem_append_left _ (List.mem_append_left _ hslot)

/-- A container that is generic uses its parameter for its body. -/
theorem container_usesAny (h : builder.layout = .ok layout)
    (hgenerics : layout.containerGenerics ≠ "") :
    layout.containerGenerics = angled [anyParameter] ∧
      ∃ slot ∈ layout.container, slot.ty = "self::" ++ builder.object ++ angled [anyParameter] := by
  rw [(layout_eq_layoutOf h).1, layoutOf] at hgenerics ⊢
  cases hcontainer : builder.needsContainer with
  | false =>
    rw [hcontainer] at hgenerics
    exact absurd rfl hgenerics
  | true =>
    rw [hcontainer, if_pos rfl, anyGeneric] at hgenerics
    have hboth : (builder.needsAny && builder.bodyRequired) = true := by
      by_contra hnot
      exact hgenerics (if_neg hnot)
    obtain ⟨hany, hbody⟩ := Bool.and_eq_true_iff.mp hboth
    obtain ⟨slot, hslot, _, hty⟩ := exists_bodySlot_of_any hany hbody
    refine ⟨?_, slot, List.mem_append_left _ hslot, hty⟩
    rw [if_pos rfl, anyGeneric, if_pos hboth]

/-- The declared type parameters are exactly those that are used. In every mode there is one
argument for each required property, and that for dynamically typed values comes last and is the
same in all modes. The slots that carry markers have the parameters of the markers as arguments, in
order; behind all other slots there is one more without size exactly if the builder is generic over
dynamically typed values and has no body. That parameter is used by the body, the container or this
slot. So every parameter is the argument of the type of some slot, and a container that is generic
uses its parameter as well. -/
theorem parameters_used (h : builder.layout = .ok layout) :
    (∀ mode anyValue,
      (builder.typeArguments mode anyValue).length =
          builder.requiredProperties.length + (if builder.needsAny then 1 else 0) ∧
        (builder.typeArguments mode anyValue).drop builder.requiredProperties.length =
          if builder.needsAny then [anyArgument anyValue] else []) ∧
    (∃ slots,
      layout.outer = slots ++ (if builder.needsAny && !builder.bodyRequired then
        [phantomSlot "_any" anyParameter] else []) ∧
      (slots.filter isPhantom).map Slot.ty =
        ((builder.typeArguments .generic none).take builder.requiredProperties.length).map
          fun parameter ↦ phantomData ++ angled [parameter]) ∧
    (builder.needsAny = true → ∃ slot ∈ layout.outer, builder.UsesAny slot) ∧
    (∀ parameter ∈ builder.typeArguments .generic none,
      ∃ slot ∈ layout.outer, ∃ head, slot.ty = head ++ angled [parameter]) ∧
    (layout.containerGenerics ≠ "" → layout.containerGenerics = angled [anyParameter] ∧
      ∃ slot ∈ layout.container,
        slot.ty = "self::" ++ builder.object ++ angled [anyParameter]) := by
  obtain ⟨slots, houter, hphantom⟩ := outer_eq_append_anySlots h
  have hmarkers : (slots.filter isPhantom).map Slot.ty =
      builder.markerParameters.map fun parameter ↦ phantomData ++ angled [parameter] := by
    rw [hphantom, map_ty_markerSlots]
  refine ⟨fun mode anyValue ↦ ⟨builder.length_typeArguments mode anyValue,
    builder.drop_typeArguments mode anyValue⟩, ⟨slots, houter, ?_⟩, exists_usesAny h,
    fun parameter hparameter ↦ ?_, container_usesAny h⟩
  · have hlength : builder.requiredProperties.length = builder.markerParameters.length := by
      rw [markerParameters_eq, List.length_map]
    rw [hmarkers, typeArguments_eq_markerParameters, hlength, List.take_left]
  · rw [typeArguments_eq_markerParameters] at hparameter
    rcases List.mem_append.mp hparameter with hmarker | hlast
    · have hty : phantomData ++ angled [parameter] ∈ (slots.filter isPhantom).map Slot.ty :=
        hmarkers ▸ List.mem_map_of_mem hmarker
      obtain ⟨slot, hslot, hsame⟩ := List.mem_map.mp hty
      refine ⟨slot, ?_, phantomData, hsame⟩
      rw [houter]
      exact List.mem_append_left _ (List.mem_of_mem_filter hslot)
    · split at hlast
      · rename_i hany
        obtain rfl := List.mem_singleton.mp hlast
        obtain ⟨slot, hslot, ⟨_, hty⟩ | ⟨_, hty⟩ | ⟨rfl, _⟩⟩ := exists_usesAny h hany
        · exact ⟨slot, hslot, _, hty⟩
        · exact ⟨slot, hslot, _, hty⟩
        · exact ⟨_, hslot, phantomData, rfl⟩
      · exact absurd hlast List.not_mem_nil

/-- A builder for a search that must be told what it searches for and where, in any of some places.
It answers dynamically typed values and sends no body. -/
def searchBuilder : Builder where
  object := "Search"
  method := some .get
  ownParams := [{ name := "query", tyPath := "String", required := true },
    { name := "limit", tyPath := "i64" }, { name := "any", tyPath := "String", required := true }]
  needsAny := true

/-- The layout of `searchBuilder`. -/
def searchLayout : Layout where
  needsContainer := true
  outer := [⟨"inner", "SearchGetBuilderContainer", defaultInit⟩,
    phantomSlot "_param_query" "Query", phantomSlot "_param_any" "AnyMarker",
    phantomSlot "_any" anyParameter]
  container := [⟨"param_query", "Option<String>", "None"⟩, ⟨"param_limit", "Option<i64>", "None"⟩,
    ⟨"param_any", "Option<String>", "None"⟩]

theorem parameters_used_search :
    searchBuilder.layout = .ok searchLayout ∧
      searchBuilder.typeArguments .generic none = ["Query", "AnyMarker", "Any"] ∧
      (searchBuilder.typeArguments .replaceAll (some "Value")).length = 3 ∧
      ∀ parameter ∈ searchBuilder.typeArguments .generic none,
        ∃ slot ∈ searchLayout.outer, ∃ head, slot.ty = head ++ angled [parameter] := by
  have hlayout : searchBuilder.layout = .ok searchLayout := by decide +kernel
  obtain ⟨harguments, _, _, hused, _⟩ := parameters_used hlayout
  refine ⟨hlayout, by decide +kernel, ?_, hused⟩
  exact (harguments .replaceAll (some "Value")).1.trans (by decide +kernel)

end TypestateBuilders.Builder
