import TypestateBuilders.Proofs.Storage

/-!
# Names of slots

The slots of a builder struct and of its container are named in six ways: `inner` and `body`, the
slots of parameters and of their markers, those of the markers of fields, and the one for the
parameter for dynamically typed values. Slots with data and slots of markers are told apart by the
first characters of their names, and among slots of one kind the identifiers of the properties tell
them apart. So the names of a container are unique.

The names of a builder struct are unique exactly when no required field is named like a required
parameter behind the word `param` (`Builder.nodup_slotNames_iff`): both markers have one slot name
then, although the properties have identifiers of their own (`Builder.exists_repeated_slotName`).
-/

set_option autoImplicit false
set_option relaxedAutoImplicit false

namespace TypestateBuilders.Builder

/-! ### Names in lists -/

/-- Names that open with a character stay apart from names that do not. -/
theorem nodup_append_iff_of_heads {first second : List String} {c : Char} (hfirst : first.Nodup)
    (hothers : ∀ name ∈ first, name.toList.head? ≠ some c)
    (hopened : ∀ name ∈ second, name.toList.head? = some c) :
    (first ++ second).Nodup ↔ second.Nodup := by
  rw [List.nodup_append]
  constructor
  · exact fun h ↦ h.2.1
  · intro hsecond
    refine ⟨hfirst, hsecond, ?_⟩
    rintro name hname _ hsame rfl
    exact hothers name hname (hopened name hsame)

section

variable {builder : Builder} {layout : Layout}

/-! ### Slots of markers -/

theorem map_name_markerSlots (builder : Builder) :
    (builder.properties.flatMap builder.markerSlots).map Slot.name =
      builder.requiredProperties.map Property.markerSlot := by
  apply map_flatMap_of_one
  intro property _
  rw [markerSlots]
  split <;> rfl

theorem markerSlot_of_field {property : Property} (h : property.kind = .requiredField) :
    property.markerSlot = "_" ++ property.ident := by
  rw [Property.markerSlot, h]
  rfl

theorem markerSlot_of_parameter {property : Property} (h : property.kind = .requiredParameter) :
    property.markerSlot = "_" ++ ("param_" ++ property.ident) := by
  rw [Property.markerSlot, h, ← String.append_assoc]
  rfl

/-- A required property is a field or a parameter. -/
theorem kind_of_mem_requiredProperties {property : Property}
    (h : property ∈ builder.requiredProperties) :
    property.kind = .requiredField ∨ property.kind = .requiredParameter := by
  have hrequired : property.kind.isRequired = true := (List.mem_filter.mp h).2
  cases hkind : property.kind with
  | requiredField => exact Or.inl rfl
  | requiredParameter => exact Or.inr rfl
  | optionalField => rw [hkind] at hrequired; cases hrequired
  | optionalParameter => rw [hkind] at hrequired; cases hrequired

/-- No required field is named like a required parameter behind the word `param`. -/
def HasSeparateMarkers (builder : Builder) : Prop :=
  ∀ field ∈ builder.requiredProperties, ∀ parameter ∈ builder.requiredProperties,
    field.kind = .requiredField → parameter.kind = .requiredParameter →
      field.ident ≠ "param_" ++ parameter.ident

/-- Markers of properties with identifiers of their own have slots of one name only if they are
those of a parameter and of a field that is named after it. -/
theorem nodup_markerSlots_iff :
    (builder.requiredProperties.map Property.markerSlot).Nodup ↔ builder.HasSeparateMarkers := by
  have hnodup : builder.requiredProperties.Nodup :=
    List.Nodup.of_map Property.key builder.nodup_keys_requiredProperties
  rw [List.nodup_map_iff_inj_on hnodup]
  constructor
  · intro hinj field hfield parameter hparameter hkind hkind' hident
    have hsame : field = parameter := by
      apply hinj field hfield parameter hparameter
      rw [markerSlot_of_field hkind, markerSlot_of_parameter hkind', hident]
    rw [hsame, hkind'] at hkind
    cases hkind
  · intro hseparate property hproperty other hother hslot
    have hfromIdent : property.ident = other.ident → property = other := by
      intro hident
      apply eq_of_valueSlot_eq (List.mem_of_mem_filter hproperty) (List.mem_of_mem_filter hother)
      rw [Property.valueSlot, Property.valueSlot, hident]
    rcases kind_of_mem_requiredProperties hproperty with hkind | hkind <;>
      rcases kind_of_mem_requiredProperties hother with hkind' | hkind'
    · rw [markerSlot_of_field hkind, markerSlot_of_field hkind'] at hslot
      exact hfromIdent ((String.append_right_inj _).mp hslot)
    · rw [markerSlot_of_field hkind, markerSlot_of_parameter hkind'] at hslot
      exact absurd ((String.append_right_inj _).mp hslot)
        (hseparate property hproperty other hother hkind hkind')
    · rw [markerSlot_of_parameter hkind, markerSlot_of_field hkind'] at hslot
      exact absurd ((String.append_right_inj _).mp hslot.symm)
        (hseparate other hother property hproperty hkind' hkind)
    · rw [markerSlot_of_parameter hkind, markerSlot_of_parameter hkind'] at hslot
      exact hfromIdent ((String.append_right_inj _).mp ((String.append_right_inj _).mp hslot))

/-- The slot for dynamically typed values is there only if no field has a marker, and markers of
parameters have other slots. -/
theorem nodup_markerSlots_append_anySlots_iff :
    (builder.requiredProperties.map Property.markerSlot ++ builder.anySlots.map Slot.name).Nodup ↔
      (builder.requiredProperties.map Property.markerSlot).Nodup := by
  by_cases hany : (builder.needsAny && !builder.bodyRequired) = true
  · rw [anySlots, if_pos hany, List.nodup_append]
    refine ⟨fun h ↦ h.1, fun h ↦ ⟨h, List.nodup_singleton _, ?_⟩⟩
    intro name hname other hother hsame
    obtain ⟨property, hproperty, rfl⟩ := List.mem_map.mp hname
    rw [List.mem_singleton.mp hother] at hsame
    rcases kind_of_mem_requiredProperties hproperty with hkind | hkind
    · obtain ⟨hbody, _⟩ := exists_field_of_required (List.mem_of_mem_filter hproperty) hkind
      rw [hbody, Bool.not_true, Bool.and_false] at hany
      cases hany
    · rw [markerSlot_of_parameter hkind] at hsame
      have hvalue : property.valueSlot = "any" := (String.append_right_inj "_").mp hsame
      have hhead := head?_valueSlot property
      rw [hvalue] at hhead
      exact absurd hhead (by decide)
  · rw [anySlots, if_neg hany, List.map_nil, List.append_nil]

theorem head?_of_mem_markerNames {name : String}
    (h : name ∈ builder.requiredProperties.map Property.markerSlot ++
      builder.anySlots.map Slot.name) : name.toList.head? = some '_' := by
  rcases List.mem_append.mp h with hmarker | hany
  · rw [← map_name_markerSlots] at hmarker
    obtain ⟨slot, hslot, rfl⟩ := List.mem_map.mp hmarker
    obtain ⟨property, _, hproperty⟩ := List.mem_flatMap.mp hslot
    exact head?_of_mem_markerSlots hproperty
  · obtain ⟨slot, hslot, rfl⟩ := List.mem_map.mp hany
    exact head?_of_mem_anySlots hslot

/-! ### Slots with data -/

/-- The properties that come from parameters. -/
def keptParameters (builder : Builder) : List Property :=
  builder.properties.filter fun property ↦ property.kind.isParameter

theorem map_name_storedSlots (h : builder.layout = .ok layout) :
    (builder.properties.flatMap builder.storedSlots).map Slot.name =
      builder.keptParameters.map Property.valueSlot := by
  apply map_flatMap_of_one
  intro property hproperty
  by_cases hkind : property.kind.isParameter = true
  · obtain ⟨_, _, hstored⟩ :=
      storedSlots_of_parameter ((layout_eq_layoutOf h).2 property hproperty) hkind
    rw [hstored, if_pos hkind]
    rfl
  · rw [storedSlots_of_field hkind, if_neg hkind]
    rfl

/-- The names of the slots of the body and of parameters. -/
def dataNames (builder : Builder) : List String :=
  builder.bodySlots.map Slot.name ++ builder.keptParameters.map Property.valueSlot

theorem nodup_dataNames (builder : Builder) : builder.dataNames.Nodup := by
  have hbody : (builder.bodySlots.map Slot.name).Nodup := by
    rw [bodySlots]
    split
    · exact List.nodup_singleton _
    · exact List.nodup_nil
  rw [dataNames, nodup_append_iff_of_heads (c := 'p') hbody]
  · have hnodup : builder.keptParameters.Nodup :=
      (List.Nodup.of_map Property.key builder.nodup_keys_properties).filter _
    rw [List.nodup_map_iff_inj_on hnodup]
    intro property hproperty other hother
    exact eq_of_valueSlot_eq (List.mem_of_mem_filter hproperty) (List.mem_of_mem_filter hother)
  · intro name hname
    obtain ⟨slot, hslot, rfl⟩ := List.mem_map.mp hname
    rw [name_of_mem_bodySlots hslot]
    decide
  · intro name hname
    obtain ⟨property, _, rfl⟩ := List.mem_map.mp hname
    exact head?_valueSlot property

theorem head?_of_mem_dataNames {name : String} (h : name ∈ builder.dataNames) :
    name.toList.head? ≠ some '_' := by
  rcases List.mem_append.mp h with hbody | hvalue
  · obtain ⟨slot, hslot, rfl⟩ := List.mem_map.mp hbody
    rw [name_of_mem_bodySlots hslot]
    decide
  · obtain ⟨property, _, rfl⟩ := List.mem_map.mp hvalue
    rw [head?_valueSlot]
    decide

/-! ### Layouts -/

/-- The container holds the slots of the body and of parameters, and nothing where there is none. -/
theorem map_name_container (h : builder.layout = .ok layout) :
    layout.container.map Slot.name = if builder.needsContainer then builder.dataNames else [] := by
  rw [(layout_eq_layoutOf h).1, layoutOf]
  cases builder.needsContainer with
  | true =>
    show ((builder.bodySlots ++ _ : List Slot).map Slot.name) = builder.dataNames
    rw [List.map_append, List.flatMap_map, map_name_storedSlots h, dataNames]
  | false => rfl

/-- The builder struct holds the slot of the container or those of the data, and slots of
markers. -/
theorem perm_map_name_outer (h : builder.layout = .ok layout) :
    (layout.outer.map Slot.name).Perm
      ((if builder.needsContainer then ["inner"] else builder.dataNames) ++
        (builder.requiredProperties.map Property.markerSlot ++
          builder.anySlots.map Slot.name)) := by
  rw [(layout_eq_layoutOf h).1, layoutOf]
  cases builder.needsContainer with
  | true =>
    apply List.Perm.of_eq
    show ((builder.innerSlot :: _ ++ builder.anySlots : List Slot).map Slot.name) = _
    rw [List.flatMap_map, List.map_append, List.map_cons, map_name_markerSlots]
    rfl
  | false =>
    -- The slots of a property stand side by side; here they are put together by kind.
    have hparts : (builder.properties.flatMap fun property ↦
        builder.storedSlots property ++ builder.markerSlots property).Perm
        (builder.properties.flatMap builder.storedSlots ++
          builder.properties.flatMap builder.markerSlots) :=
      (List.flatMap_append_perm _ _ _).symm
    have hnames := hparts.map Slot.name
    rw [List.map_append, map_name_storedSlots h, map_name_markerSlots] at hnames
    show ((builder.bodySlots ++ _ ++ builder.anySlots : List Slot).map Slot.name).Perm
      (builder.dataNames ++ _)
    rw [List.flatMap_map, List.map_append, List.map_append, dataNames, List.append_assoc,
      List.append_assoc, ← List.append_assoc (builder.keptParameters.map _)]
    exact (hnames.append_right _).append_left _

/-- Names of slots are unique in the container of a builder. They are unique in the builder struct
exactly when no required field is named like a required parameter behind the word `param`. -/
theorem nodup_slotNames_iff (h : builder.layout = .ok layout) :
    ((layout.outer.map Slot.name).Nodup ↔ builder.HasSeparateMarkers) ∧
      (layout.container.map Slot.name).Nodup := by
  constructor
  · rw [(perm_map_name_outer h).nodup_iff, nodup_append_iff_of_heads (c := '_'),
      nodup_markerSlots_append_anySlots_iff, nodup_markerSlots_iff]
    · split
      · exact List.nodup_singleton _
      · exact builder.nodup_dataNames
    · intro name hname
      split at hname
      · rw [List.mem_singleton.mp hname]
        decide
      · exact head?_of_mem_dataNames hname
    · exact fun name ↦ head?_of_mem_markerNames
  · rw [map_name_container h]
    split
    · exact builder.nodup_dataNames
    · exact List.nodup_nil

end

/-- A builder for an order that is found by a parameter and must have an item, and of which a field
is named like the slot of the parameter. -/
def orderBuilder : Builder where
  object := "Order"
  fields := [{ name := "paramId", tyPath := "String" },
    { name := "item", tyPath := "String", isRequired := true }]
  bodyRequired := true
  method := some .put
  ownParams := [{ name := "id", tyPath := "i64", required := true, location := .path }]

/-- The layout of `orderBuilder`. -/
def orderLayout : Layout where
  needsContainer := true
  outer := [⟨"inner", "OrderPutBuilderContainer", defaultInit⟩,
    ⟨"_param_id", "core::marker::PhantomData<Id>", phantomData⟩,
    ⟨"_item", "core::marker::PhantomData<Item>", phantomData⟩]
  container := [⟨"body", "self::Order", defaultInit⟩, ⟨"param_id", "Option<i64>", "None"⟩]

theorem nodup_slotNames_iff_order :
    orderBuilder.layout = .ok orderLayout ∧ (orderLayout.outer.map Slot.name).Nodup ∧
      (orderLayout.container.map Slot.name).Nodup := by
  have hlayout : orderBuilder.layout = .ok orderLayout := by decide +kernel
  have hseparate : orderBuilder.HasSeparateMarkers := by
    unfold HasSeparateMarkers
    decide +kernel
  obtain ⟨houter, hcontainer⟩ := nodup_slotNames_iff hlayout
  exact ⟨hlayout, houter.mpr hseparate, hcontainer⟩

/-- A builder for an order of which the field that is named like the slot is required. -/
def strictOrderBuilder : Builder :=
  { orderBuilder with fields := [{ name := "paramId", tyPath := "String", isRequired := true }] }

/-- The layout of `strictOrderBuilder`. -/
def strictOrderLayout : Layout :=
  { orderLayout with
    outer := [⟨"inner", "OrderPutBuilderContainer", defaultInit⟩,
      ⟨"_param_id", "core::marker::PhantomData<Id>", phantomData⟩,
      ⟨"_param_id", "core::marker::PhantomData<ParamId>", phantomData⟩] }

/-- The markers of two properties with identifiers of their own can have slots of one name. -/
theorem exists_repeated_slotName :
    (strictOrderBuilder.properties.map Property.key).Nodup ∧ strictOrderBuilder.collisions = [] ∧
      strictOrderBuilder.layout = .ok strictOrderLayout ∧
      strictOrderLayout.outer.map Slot.name = ["inner", "_param_id", "_param_id"] ∧
      ¬ ∀ (builder : Builder) (layout : Layout), builder.layout = .ok layout →
        (layout.outer.map Slot.name).Nodup ∧ (layout.container.map Slot.name).Nodup := by
  have hlayout : strictOrderBuilder.layout = .ok strictOrderLayout := by decide +kernel
  have hrepeated : strictOrderLayout.outer.map Slot.name = ["inner", "_param_id", "_param_id"] :=
    rfl
  refine ⟨by decide +kernel, by decide +kernel, hlayout, hrepeated, fun hunique ↦ ?_⟩
  obtain ⟨houter, _⟩ := hunique strictOrderBuilder strictOrderLayout hlayout
  rw [hrepeated] at houter
  exact absurd houter (by decide)

end TypestateBuilders.Builder
