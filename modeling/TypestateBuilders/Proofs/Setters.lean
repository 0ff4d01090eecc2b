import Mathlib.Data.List.ReduceOption
import TypestateBuilders.Proofs.Outcome
import TypestateBuilders.Proofs.Markers
import TypestateBuilders.Builder.Setter

/-!
# Which setters there are

Every setter of a builder is the setter of one of its properties (`exists_property_of_mem_setters`),
named by the property's identifier, so no two setters have one name (`nodup_names_setters`). Every
required property has a setter (`exists_setter_of_required`): a required field has a body that it is
put into. A setter returns the builder type with the marker of its property switched, or the
builder as it is.
-/

set_option autoImplicit false
set_option relaxedAutoImplicit false

namespace TypestateBuilders.Builder

open Naming Outcome

section

variable (builder : Builder) (markers : List Marker) (property : Property) (docLines : List String)
  (body : SetterBody)

theorem name_setterOf : (builder.setterOf markers property docLines body).name = property.key := by
  rw [setterOf]

theorem ret_setterOf_of_required (h : property.kind.isRequired = true) :
    (builder.setterOf builder.markers property docLines body).ret =
      builder.type (.changeOne property.name) := by
  rw [setterOf, setterType, if_pos h, type, generics, typeArguments]

theorem ret_setterOf_of_optional (h : ¬ property.kind.isRequired = true) :
    (builder.setterOf markers property docLines body).ret = "Self" := by
  rw [setterOf, setterType, if_neg h]

theorem tail_setterOf :
    (builder.setterOf markers property docLines body).tail =
      if property.kind.isRequired then transmute else "self" := by
  rw [setterOf]

end

section

variable {builder : Builder} {layout : Layout} {addComments : Bool} {setters : List Setter}

/-- What is found out about the setter of a property: it has a body or there is none. -/
theorem setter?_eq_ok {data : String} {markers : List Marker} {property : Property}
    {found : Option Setter} (h : builder.setter? data markers addComments property = .ok found) :
    ∃ body?, builder.setterBody? data property = .ok body? ∧
      ∃ docLines, found = body?.map (builder.setterOf markers property docLines) := by
  obtain ⟨body?, hbody, hfound⟩ := bind_eq_ok.mp h
  refine ⟨body?, mapError_eq_ok.mp hbody, ?_⟩
  cases body? with
  | none => exact ⟨[], (Except.ok.inj hfound).symm⟩
  | some body =>
    simp only at hfound
    split at hfound
    all_goals
      obtain ⟨docLines, _, hsetter⟩ := bind_eq_ok.mp hfound
      exact ⟨docLines, (Except.ok.inj hsetter).symm⟩

/-- The setters are those that are found for the properties. -/
theorem setters_eq_ok (h : builder.setters layout addComments = .ok setters) :
    ∃ found, builder.properties.mapM (builder.setter? ("self." ++ layout.dataPath) builder.markers
      addComments) = .ok found ∧ setters = found.reduceOption := by
  obtain ⟨_, _, hfound⟩ := bind_eq_ok.mp h
  obtain ⟨found, hmap, hsetters⟩ := bind_eq_ok.mp hfound
  exact ⟨found, hmap, (Except.ok.inj hsetters).symm⟩

/-- Every setter is that of a property, and does what its body says. -/
theorem exists_body_of_mem_setters (h : builder.setters layout addComments = .ok setters)
    {setter : Setter} (hsetter : setter ∈ setters) :
    ∃ property ∈ builder.properties, ∃ docLines body,
      builder.setterBody? ("self." ++ layout.dataPath) property = .ok (some body) ∧
        setter = builder.setterOf builder.markers property docLines body := by
  obtain ⟨found, hmap, rfl⟩ := setters_eq_ok h
  obtain ⟨property, hproperty, hfound⟩ := exists_input hmap (List.reduceOption_mem_iff.mp hsetter)
  obtain ⟨body?, hbody, docLines, hsome⟩ := setter?_eq_ok hfound
  obtain ⟨body, rfl, rfl⟩ := Option.map_eq_some_iff.mp hsome.symm
  exact ⟨property, hproperty, docLines, body, hbody, rfl⟩

/-- Every setter is that of a property. -/
theorem exists_property_of_mem_setters (h : builder.setters layout addComments = .ok setters)
    {setter : Setter} (hsetter : setter ∈ setters) :
    ∃ property ∈ builder.properties, ∃ docLines body,
      setter = builder.setterOf builder.markers property docLines body := by
  obtain ⟨property, hproperty, docLines, body, _, rfl⟩ := exists_body_of_mem_setters h hsetter
  exact ⟨property, hproperty, docLines, body, rfl⟩

/-- A property with something to put its value into has a setter. -/
theorem exists_setter_of_body (h : builder.setters layout addComments = .ok setters)
    {property : Property} (hproperty : property ∈ builder.properties)
    (hbody : builder.setterBody? ("self." ++ layout.dataPath) property ≠ .ok none) :
    ∃ setter ∈ setters, ∃ docLines body,
      builder.setterBody? ("self." ++ layout.dataPath) property = .ok (some body) ∧
        setter = builder.setterOf builder.markers property docLines body := by
  obtain ⟨found, hmap, rfl⟩ := setters_eq_ok h
  obtain ⟨setter?, hsetter?, hfound⟩ := exists_answer hmap hproperty
  obtain ⟨body?, hanswer, docLines, rfl⟩ := setter?_eq_ok hfound
  cases body? with
  | none => exact absurd hanswer hbody
  | some body =>
    exact ⟨_, List.reduceOption_mem_iff.mpr hsetter?, docLines, body, hanswer, rfl⟩

theorem exists_setter_named (h : builder.setters layout addComments = .ok setters)
    {property : Property} (hproperty : property ∈ builder.properties)
    (hbody : builder.setterBody? ("self." ++ layout.dataPath) property ≠ .ok none) :
    ∃ setter ∈ setters, setter.name = property.key := by
  obtain ⟨_, hsetter, _, _, _, rfl⟩ := exists_setter_of_body h hproperty hbody
  exact ⟨_, hsetter, name_setterOf ..⟩

/-- Setters stand in the order of their properties, each under the property's identifier. -/
theorem names_sublist (h : builder.setters layout addComments = .ok setters) :
    (setters.map Setter.name).Sublist (builder.properties.map Property.key) := by
  obtain ⟨found, hmap, rfl⟩ := setters_eq_ok h
  have hsteps := mapM_eq_ok.mp hmap
  clear h hmap
  generalize builder.properties = properties at hsteps ⊢
  induction hsteps with
  | nil => exact List.Sublist.slnil
  | cons hfirst _ ih =>
    obtain ⟨body?, _, docLines, rfl⟩ := setter?_eq_ok hfirst
    cases body? with
    | none =>
      rw [Option.map_none, List.reduceOption_cons_of_none, List.map_cons]
      exact ih.cons _
    | some body =>
      rw [Option.map_some, List.reduceOption_cons_of_some, List.map_cons, List.map_cons,
        name_setterOf]
      exact ih.cons_cons _

/-- No two setters have one name. -/
theorem nodup_names_setters (h : builder.setters layout addComments = .ok setters) :
    (setters.map Setter.name).Nodup :=
  (names_sublist h).nodup builder.nodup_keys_properties

/-- A field whose identifier is looked for is found, or an earlier one that has it. -/
theorem exists_objectField {name : String} {field : ObjectField} (hfield : field ∈ builder.fields)
    (hkey : fieldIdent field.name = fieldIdent name) :
    ∃ found ∈ builder.fields, builder.objectField? name = some found ∧
      fieldIdent found.name = fieldIdent name := by
  have hsome : (builder.objectField? name).isSome = true :=
    List.find?_isSome.mpr ⟨field, hfield, by rw [hkey, beq_self_eq_true]⟩
  obtain ⟨found, hfound⟩ := Option.isSome_iff_exists.mp hsome
  have hsame : fieldIdent found.name = fieldIdent name := by simpa using List.find?_some hfound
  exact ⟨found, List.mem_of_find?_eq_some hfound, hfound, hsame⟩

/-- A parameter has a slot of its own to put its value into. -/
theorem setterBody?_ne_none_of_parameter {data : String} {property : Property}
    (hkind : property.kind.isParameter = true) : builder.setterBody? data property ≠ .ok none := by
  rw [setterBody?, if_pos hkind]
  intro h
  obtain ⟨body, _, hsome⟩ := map_eq_ok.mp h
  cases hsome

/-- A field that is found has its value put into the body. -/
theorem setterBody?_ne_none_of_field {data : String} {property : Property} {field : ObjectField}
    (hkind : ¬ property.kind.isParameter = true) (hbody : builder.bodyRequired = true)
    (hfield : builder.objectField? property.name = some field) :
    builder.setterBody? data property ≠ .ok none := by
  rw [setterBody?, if_neg hkind, if_pos hbody, hfield]
  intro h
  obtain ⟨body, _, hsome⟩ := map_eq_ok.mp h
  cases hsome

/-- A required property has something to put its value into. -/
theorem setterBody?_ne_none {data : String} {property : Property}
    (hproperty : property ∈ builder.requiredProperties) :
    builder.setterBody? data property ≠ .ok none := by
  obtain ⟨hmem, hrequired⟩ := List.mem_filter.mp hproperty
  cases hkind : property.kind with
  | requiredParameter => exact setterBody?_ne_none_of_parameter (by rw [hkind]; rfl)
  | requiredField =>
    obtain ⟨hbody, field, hfield, _, hname⟩ := exists_field_of_required hmem hkind
    obtain ⟨_, _, hfound, _⟩ := exists_objectField hfield (congrArg fieldIdent hname)
    exact setterBody?_ne_none_of_field (by rw [hkind]; exact Bool.false_ne_true) hbody hfound
  | optionalParameter => simp [hkind, PropertyKind.isRequired] at hrequired
  | optionalField => simp [hkind, PropertyKind.isRequired] at hrequired

/-- Every required property has a setter. -/
theorem exists_setter_of_required (h : builder.setters layout addComments = .ok setters)
    {property : Property} (hproperty : property ∈ builder.requiredProperties) :
    ∃ setter ∈ setters, ∃ docLines body,
      setter = builder.setterOf builder.markers property docLines body := by
  obtain ⟨setter, hsetter, docLines, body, _, hsame⟩ :=
    exists_setter_of_body h (List.mem_of_mem_filter hproperty) (setterBody?_ne_none hproperty)
  exact ⟨setter, hsetter, docLines, body, hsame⟩

end

end TypestateBuilders.Builder
