import TypestateBuilders.Proofs.Setters

/-!
# Reinterpreted builders

A setter that sets a marker reinterprets its builder as one of another type. That is sound when the
builder struct holds a single slot with data, whose type does not depend on the markers. This module
shows that it does so whenever a setter reinterprets or the struct is a transparent wrapper
(`layout_reinterpretable`): the container is the only slot with data beside those of markers
(`filter_outer_of_container`), and where there is none the builder has no parameters and holds its
body alone (`filter_outer_of_body`). A setter reinterprets exactly when the type that it returns
differs from the builder's own, which shows in the text of the type (`type_changeOne_ne_generic`).
-/

set_option autoImplicit false
set_option relaxedAutoImplicit false

namespace TypestateBuilders.Builder

open Outcome

/-! ### Slots with data -/

/-- Whether a slot has a size, which slots of markers have not. -/
def holdsData (slot : Slot) : Bool :=
  slot.init ≠ phantomData

/-- The arguments of the type of a body or container. -/
def dataArguments (usesAny : Bool) : List String :=
  if usesAny then [anyParameter] else []

theorem anyGeneric_eq (usesAny : Bool) :
    anyGeneric usesAny = bracketed (dataArguments usesAny) := by
  cases usesAny <;> rfl

/-- Where some items of a list have one slot each and the others have none, what is seen of the
slots is seen of these items. -/
theorem map_flatMap_of_one {ι α β : Type} {items : List ι} {slots : ι → List α} {view : α → β}
    {holds : ι → Bool} {viewOf : ι → β}
    (h : ∀ item ∈ items, (slots item).map view = if holds item then [viewOf item] else []) :
    (items.flatMap slots).map view = (items.filter holds).map viewOf := by
  induction items with
  | nil => rfl
  | cons item rest ih =>
    obtain ⟨hitem, hrest⟩ := List.forall_mem_cons.mp h
    rw [List.flatMap_cons, List.map_append, hitem, ih hrest]
    by_cases hholds : holds item = true
    · rw [if_pos hholds, List.filter_cons_of_pos hholds]
      rfl
    · rw [if_neg hholds, List.filter_cons_of_neg hholds]
      rfl

section

variable (builder : Builder)

theorem filter_markerSlots (property : Property) :
    (builder.markerSlots property).filter holdsData = [] := by
  rw [markerSlots]
  split
  · simp [holdsData]
  · rfl

theorem filter_anySlots : builder.anySlots.filter holdsData = [] := by
  rw [anySlots]
  split
  · simp [holdsData]
  · rfl

theorem filter_flatMap_markerSlots {α : Type} (items : List α) (property : α → Property) :
    (items.flatMap fun item ↦ builder.markerSlots (property item)).filter holdsData = [] := by
  rw [List.filter_flatMap, List.flatMap_eq_nil_iff]
  exact fun item _ ↦ builder.filter_markerSlots (property item)

theorem filter_bodySlots : builder.bodySlots.filter holdsData = builder.bodySlots := by
  rw [bodySlots]
  split
  · simp [holdsData, defaultInit, phantomData]
  · rfl

/-- With a container the only slot that holds data is that of the container. -/
theorem filter_outer_of_container (stored : List (Property × List Slot))
    (hcontainer : builder.needsContainer = true) :
    (builder.layoutOf stored).outer.filter holdsData = [builder.innerSlot] := by
  have hinner : holdsData builder.innerSlot = true := by
    simp [holdsData, innerSlot, defaultInit, phantomData]
  rw [layoutOf, if_pos hcontainer, List.cons_append, List.filter_cons_of_pos hinner,
    List.filter_append, filter_flatMap_markerSlots, filter_anySlots, List.append_nil]

/-- Without a container and without parameters the only slots that hold data are those of the
body. -/
theorem filter_outer_of_body {stored : List (Property × List Slot)}
    (hcontainer : builder.needsContainer = false) (hstored : ∀ entry ∈ stored, entry.2 = []) :
    (builder.layoutOf stored).outer.filter holdsData = builder.bodySlots := by
  have hslots : stored.flatMap (fun entry ↦ entry.2 ++ builder.markerSlots entry.1) =
      stored.flatMap fun entry ↦ builder.markerSlots entry.1 :=
    List.flatMap_congr fun entry hentry ↦ by rw [hstored entry hentry, List.nil_append]
  rw [layoutOf, hcontainer, if_neg Bool.false_ne_true, hslots, List.filter_append,
    List.filter_append, filter_bodySlots, filter_flatMap_markerSlots, filter_anySlots,
    List.append_nil, List.append_nil]

end

section

variable {builder : Builder} {layout : Layout}

/-- The slots that keep a property, where these are known. -/
def storedSlots (builder : Builder) (property : Property) : List Slot :=
  (builder.valueSlots property).toOption.getD []

/-- A layout is made of the slots of the properties, in order. -/
theorem layout_eq_layoutOf (h : builder.layout = .ok layout) :
    layout = builder.layoutOf (builder.properties.map fun property ↦
        (property, builder.storedSlots property)) ∧
      ∀ property ∈ builder.properties,
        builder.valueSlots property = .ok (builder.storedSlots property) := by
  obtain ⟨_, _, hslots⟩ := bind_eq_ok.mp h
  obtain ⟨stored, hstored, hlayout⟩ := bind_eq_ok.mp hslots
  have hsteps := mapM_eq_ok.mp (mapError_eq_ok.mp hstored)
  have hknown : ∀ property entry,
      (builder.valueSlots property).map (fun slots ↦ (property, slots)) = .ok entry →
      entry = (property, builder.storedSlots property) ∧
        builder.valueSlots property = .ok (builder.storedSlots property) := by
    intro property entry hentry
    obtain ⟨slots, hvalue, rfl⟩ := map_eq_ok.mp hentry
    rw [storedSlots, hvalue]
    exact ⟨rfl, rfl⟩
  have hentries : List.Forall₂ (fun entry other ↦ entry = other) stored
      (builder.properties.map fun property ↦ (property, builder.storedSlots property)) := by
    rw [List.forall₂_map_right_iff]
    exact hsteps.flip.imp fun entry property hentry ↦ (hknown property entry hentry).1
  have hsame : stored = builder.properties.map fun property ↦
      (property, builder.storedSlots property) := by
    rwa [List.forall₂_eq_eq_eq] at hentries
  refine ⟨hsame ▸ (Except.ok.inj hlayout).symm, fun property hproperty ↦ ?_⟩
  obtain ⟨entry, _, hentry⟩ := exists_answer (mapError_eq_ok.mp hstored) hproperty
  exact (hknown property entry hentry).2

/-- A layout is worked out from the slots of the properties. -/
theorem layout_eq_ok (h : builder.layout = .ok layout) :
    ∃ stored, layout = builder.layoutOf stored ∧ ∀ entry ∈ stored,
      entry.1 ∈ builder.properties ∧ builder.valueSlots entry.1 = .ok entry.2 := by
  obtain ⟨hlayout, hvalues⟩ := layout_eq_layoutOf h
  refine ⟨_, hlayout, fun entry hentry ↦ ?_⟩
  obtain ⟨property, hproperty, rfl⟩ := List.mem_map.mp hentry
  exact ⟨hproperty, hvalues property hproperty⟩

/-- A builder with a required property that needs no container has a body and no parameters. -/
theorem no_parameters_of_required (hcontainer : builder.needsContainer = false)
    {property : Property} (hproperty : property ∈ builder.requiredProperties) :
    builder.bodyRequired = true ∧ builder.parameters = [] := by
  obtain ⟨hmem, hrequired⟩ := List.mem_filter.mp hproperty
  rw [needsContainer, Bool.or_eq_false_iff] at hcontainer
  cases hkind : property.kind with
  | requiredParameter =>
    obtain ⟨parameter, hparameter, hdeclared, _⟩ := exists_parameter_of_required hmem hkind
    exact absurd hdeclared (List.any_eq_false.mp hcontainer.1 parameter hparameter)
  | requiredField =>
    obtain ⟨hbody, field, hfield, hdeclared, _⟩ := exists_field_of_required hmem hkind
    have hany : builder.fields.any ObjectField.isRequired = true :=
      List.any_eq_true.mpr ⟨field, hfield, hdeclared⟩
    simpa [hbody, hany] using hcontainer.2
  | optionalParameter => simp [hkind, PropertyKind.isRequired] at hrequired
  | optionalField => simp [hkind, PropertyKind.isRequired] at hrequired

/-- A builder without parameters keeps no parameter. -/
theorem valueSlots_of_no_parameters (hparameters : builder.parameters = []) {property : Property}
    (hproperty : property ∈ builder.properties) : builder.valueSlots property = .ok [] := by
  rcases origin_of_mem_properties hproperty with ⟨parameter, hmem, _⟩ | ⟨field, _, horigin⟩
  · simp [hparameters] at hmem
  · have hkind := congrArg Property.kind horigin
    rw [Property.kind_unmarked, Property.ofField] at hkind
    have hfield : property.kind.isParameter = false := by
      rw [hkind]
      split <;> rfl
    rw [valueSlots, hfield, if_neg Bool.false_ne_true]

end

/-! ### The text of a type -/

/-- One item among others stands in a joined text between two texts that depend on the others
alone. -/
theorem exists_intercalate_eq (separator : String) (before after : List String) :
    ∃ start rest, ∀ item : String,
      separator.intercalate (before ++ item :: after) = start ++ item ++ rest := by
  have hafter : ∃ rest, ∀ item : String, separator.intercalate (item :: after) = item ++ rest := by
    cases after with
    | nil => exact ⟨"", fun item ↦ by simp⟩
    | cons next others =>
      exact ⟨separator ++ separator.intercalate (next :: others), fun item ↦ by
        rw [String.intercalate_cons_cons, String.append_assoc]⟩
  obtain ⟨rest, hrest⟩ := hafter
  by_cases hbefore : before = []
  · exact ⟨"", rest, fun item ↦ by rw [hbefore, List.nil_append, hrest, String.empty_append]⟩
  · exact ⟨separator.intercalate before ++ separator, rest, fun item ↦ by
      rw [String.intercalate_append_of_ne_nil hbefore (by simp), hrest, ← String.append_assoc]⟩

theorem bracketed_append_cons (before after : List String) (item : String) :
    bracketed (before ++ item :: after) = angled (before ++ item :: after) := by
  cases before <;> rfl

/-- Setting a required property shows in the text of the type. -/
theorem type_changeOne_ne_generic (builder : Builder) {property : Property}
    (hproperty : property ∈ builder.requiredProperties) :
    builder.type (.changeOne property.name) ≠ builder.type .generic := by
  obtain ⟨before, after, hgeneric, hchanged⟩ := builder.exists_typeArguments_changeOne hproperty
  obtain ⟨start, rest, hjoined⟩ := exists_intercalate_eq ", " before after
  rw [type, type, generics, generics, hgeneric, hchanged, bracketed_append_cons,
    bracketed_append_cons, angled, angled, hjoined, hjoined]
  intro h
  simp only [String.append_right_inj, String.append_left_inj] at h
  exact builder.path_present_ne_generic property.name h

/-- A builder type is not the word that stands for the type itself. -/
theorem type_ne_self (builder : Builder) (mode : ArgumentMode) : builder.type mode ≠ "Self" := by
  intro h
  have hlength := congrArg String.length h
  have hbuilder : "Builder".length = 7 := rfl
  have hself : "Self".length = 4 := rfl
  simp only [type, name, String.length_append] at hlength
  omega

/-- The type that a setter returns, with the word for the builder's own type resolved. -/
def returnType (builder : Builder) (setter : Setter) : String :=
  if setter.ret = "Self" then builder.type .generic else setter.ret

/-- A setter reinterprets exactly when it returns another type than the builder's own. -/
theorem tail_eq_transmute_iff {builder : Builder} {layout : Layout} {addComments : Bool}
    {setters : List Setter} (h : builder.setters layout addComments = .ok setters) {setter : Setter}
    (hsetter : setter ∈ setters) :
    setter.tail = transmute ↔ builder.returnType setter ≠ builder.type .generic := by
  obtain ⟨property, hproperty, docLines, body, rfl⟩ := exists_property_of_mem_setters h hsetter
  rw [tail_setterOf, returnType]
  by_cases hrequired : property.kind.isRequired = true
  · rw [if_pos hrequired, ret_setterOf_of_required _ _ _ _ hrequired,
      if_neg (builder.type_ne_self _)]
    have hmem : property ∈ builder.requiredProperties := List.mem_filter.mpr ⟨hproperty, hrequired⟩
    exact ⟨fun _ ↦ builder.type_changeOne_ne_generic hmem, fun _ ↦ rfl⟩
  · rw [if_neg hrequired, ret_setterOf_of_optional _ _ _ _ _ hrequired, if_pos rfl]
    exact ⟨fun htail ↦ absurd htail (by decide), fun hne ↦ absurd rfl hne⟩

/-- Reinterpreting is sound. Where a builder has a required property, so that a setter reinterprets
it, or where its struct is a transparent wrapper, that struct has one slot with data: the container
or the body. The type of this slot has no argument or the one for dynamically typed values, which is
no type parameter of a marker then. And a setter reinterprets the builder exactly when it returns
another type than the builder's own. -/
theorem layout_reinterpretable {builder : Builder} {layout : Layout}
    (h : builder.layout = .ok layout) :
    ((builder.requiredProperties ≠ [] ∨ layout.needsContainer = true) →
      ∃ slot arguments, (layout.outer.filter fun slot ↦ slot.init ≠ phantomData) = [slot] ∧
        (slot.name = "inner" ∧ slot.ty = builder.containerName ++ bracketed arguments ∨
          slot.name = "body" ∧ slot.ty = "self::" ++ builder.object ++ bracketed arguments) ∧
        (arguments = [] ∨ arguments = [anyParameter] ∧
          ∀ marker ∈ builder.markers, marker.generic ≠ anyParameter)) ∧
    ∀ addComments setters, builder.setters layout addComments = .ok setters →
      (builder.requiredProperties ≠ [] → ∃ setter ∈ setters, setter.tail = transmute) ∧
      ∀ setter ∈ setters,
        (setter.tail = transmute ↔ builder.returnType setter ≠ builder.type .generic) := by
  have harguments : ∀ usesAny, (usesAny = true → builder.needsAny = true) →
      (dataArguments usesAny = [] ∨ dataArguments usesAny = [anyParameter] ∧
        ∀ marker ∈ builder.markers, marker.generic ≠ anyParameter) := by
    intro usesAny hany
    cases usesAny with
    | false => exact Or.inl rfl
    | true =>
      refine Or.inr ⟨rfl, fun marker hmarker ↦ ?_⟩
      obtain ⟨property, _, rfl⟩ := List.mem_map.mp hmarker
      exact builder.generic_ne_any property.name (hany rfl)
  obtain ⟨stored, rfl, hstored⟩ := layout_eq_ok h
  refine ⟨fun hreinterpreted ↦ ?_, fun addComments setters hsetters ↦
    ⟨fun hrequired ↦ ?_, fun setter hsetter ↦ tail_eq_transmute_iff hsetters hsetter⟩⟩
  · cases hcontainer : builder.needsContainer with
    | true =>
      refine ⟨builder.innerSlot, dataArguments (builder.needsAny && builder.bodyRequired),
        builder.filter_outer_of_container stored hcontainer, Or.inl ⟨rfl, ?_⟩,
        harguments _ fun hboth ↦ (Bool.and_eq_true_iff.mp hboth).1⟩
      rw [innerSlot, anyGeneric_eq]
    | false =>
      have hplain : (builder.layoutOf stored).needsContainer = false := by
        rw [layoutOf, hcontainer]
        rfl
      have hrequired := hreinterpreted.resolve_right (by rw [hplain]; exact Bool.false_ne_true)
      obtain ⟨property, hproperty⟩ := List.exists_mem_of_ne_nil _ hrequired
      obtain ⟨hbody, hparameters⟩ := no_parameters_of_required hcontainer hproperty
      have hempty : ∀ entry ∈ stored, entry.2 = [] := fun entry hentry ↦ by
        obtain ⟨hmem, hslots⟩ := hstored entry hentry
        rw [valueSlots_of_no_parameters hparameters hmem] at hslots
        exact (Except.ok.inj hslots).symm
      refine ⟨_, dataArguments builder.needsAny,
        (builder.filter_outer_of_body hcontainer hempty).trans (by rw [bodySlots, if_pos hbody]),
        Or.inr ⟨rfl, ?_⟩, harguments _ id⟩
      rw [anyGeneric_eq]
  · obtain ⟨property, hproperty⟩ := List.exists_mem_of_ne_nil _ hrequired
    obtain ⟨setter, hsetter, docLines, body, rfl⟩ := exists_setter_of_required hsetters hproperty
    exact ⟨_, hsetter, by rw [tail_setterOf, if_pos (List.mem_filter.mp hproperty).2]⟩

/-- A builder of an object whose only field is named like the parameter for dynamically typed
values. -/
def noteBuilder : Builder where
  object := "Note"
  fields := [{ name := "any", tyPath := "Any", isRequired := true, needsAny := true }]
  bodyRequired := true
  needsAny := true

/-- The layout of `noteBuilder`: a body, and the slot of a marker that had to be renamed. -/
def noteLayout : Layout where
  needsContainer := false
  outer :=
    [⟨"body", "self::Note<Any>", defaultInit⟩,
      ⟨"_any", "core::marker::PhantomData<AnyMarker>", phantomData⟩]
  container := []

theorem layout_reinterpretable_note :
    noteBuilder.layout = .ok noteLayout ∧ noteBuilder.requiredProperties ≠ [] ∧
      ∃ slot arguments, (noteLayout.outer.filter fun slot ↦ slot.init ≠ phantomData) = [slot] ∧
        (slot.name = "inner" ∧ slot.ty = noteBuilder.containerName ++ bracketed arguments ∨
          slot.name = "body" ∧ slot.ty = "self::" ++ noteBuilder.object ++ bracketed arguments) ∧
        (arguments = [] ∨ arguments = [anyParameter] ∧
          ∀ marker ∈ noteBuilder.markers, marker.generic ≠ anyParameter) := by
  have hlayout : noteBuilder.layout = .ok noteLayout := by decide +kernel
  have hrequired : noteBuilder.requiredProperties ≠ [] := by decide
  exact ⟨hlayout, hrequired, (layout_reinterpretable hlayout).1 (Or.inl hrequired)⟩

end TypestateBuilders.Builder
