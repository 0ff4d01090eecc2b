import TypestateBuilders.Proofs.Assignments
import TypestateBuilders.Proofs.Builders
import TypestateBuilders.Proofs.Typestate

/-!
# Required fields of the body

Where nothing collides, a required field of the body is a required property of its builder, or it
goes along with a parameter of its type (`Builder.exists_property_of_required_field`). In both cases
the setter of the property writes the field, unless the parameter is taken in another type than it
has. A finished builder has had the setters of all its required properties called, so it has written
the field (`Generator.required_field_written`).

The property of a field that goes along with a parameter is the parameter, and it is required only
if the parameter is. So where the parameter is optional, a builder can be finished without the field
(`Generator.exists_unmarked_required_field`).
-/

set_option autoImplicit false
set_option relaxedAutoImplicit false

namespace TypestateBuilders

open Naming Outcome Unification

namespace Builder

variable {builder : Builder} {field : ObjectField} {property : Property}

/-- Where nothing collides, a required field of the body is a required property, or it goes along
with a parameter of its type. -/
theorem exists_property_of_required_field (hbody : builder.bodyRequired = true)
    (hcollisions : builder.collisions = []) (hfield : field ∈ builder.fields)
    (hrequired : field.isRequired = true) :
    ∃ property ∈ builder.properties, property.key = fieldIdent field.name ∧
      (property.kind = .requiredField ∨ property.kind.isParameter = true ∧
        property.overridden = true ∧ property.ty = field.tyPath) := by
  have hmem : Property.ofField builder.bodyRequired field ∈ builder.declarations :=
    List.mem_append_right _ (List.mem_map_of_mem hfield)
  obtain ⟨property, hproperty, hkey, hkept⟩ := exists_kept_of_no_collisions hcollisions hmem
  refine ⟨property, hproperty, hkey, ?_⟩
  rcases hkept with hsame | ⟨hoverridden, hparameter, _, hty⟩
  · refine Or.inl ?_
    rw [← Property.kind_unmarked, hsame, Property.ofField, hbody, hrequired]
    rfl
  · exact Or.inr ⟨hparameter, hoverridden, hty.symm⟩

/-- The setter of such a property writes the field, unless it takes values of another type than the
field has. -/
theorem writes_required_field (layout : Layout) (hbody : builder.bodyRequired = true)
    (hfield : field ∈ builder.fields) (hkey : property.key = fieldIdent field.name)
    (horigin : property.kind = .requiredField ∨ property.kind.isParameter = true ∧
      property.overridden = true ∧ property.ty = field.tyPath)
    (hkeeps : property.kind.isParameter = true → builder.keepsType property = true) :
    layout.dataPath ++ bodyPlace field.name ∈ builder.placesOf layout property := by
  obtain ⟨found, _, hfound, hname⟩ := exists_objectField hfield hkey.symm
  have hwritten : builder.writtenField? property = some found := by
    rw [writtenField?]
    rcases horigin with hkind | ⟨hkind, hoverridden, _⟩
    · rw [if_neg (by rw [hkind]; exact Bool.false_ne_true), hfound]
    · rw [if_pos hkind, if_pos (hkeeps hkind), mergedField?, hoverridden, hbody]
      exact hfound
  have hplace : bodyPlace found.name = bodyPlace field.name := by
    rw [bodyPlace, bodyPlace, hname]
    exact congrArg _ hkey
  rw [placesOf, hwritten, ← hplace]
  exact List.mem_append_right _ (List.mem_singleton_self _)

/-- Such a property has a setter. -/
theorem exists_setter_of_required_field {layout : Layout} {addComments : Bool}
    {setters : List Setter} (hsetters : builder.setters layout addComments = .ok setters)
    (hbody : builder.bodyRequired = true) (hfield : field ∈ builder.fields)
    (hproperty : property ∈ builder.properties) (hkey : property.key = fieldIdent field.name) :
    ∃ setter ∈ setters, setter.name = property.key := by
  obtain ⟨found, _, hfound, _⟩ := exists_objectField hfield hkey.symm
  have hbody : builder.setterBody? ("self." ++ layout.dataPath) property ≠ .ok none := by
    by_cases hkind : property.kind.isParameter = true
    · exact setterBody?_ne_none_of_parameter hkind
    · exact setterBody?_ne_none_of_field hkind hbody hfound
  exact exists_setter_named hsetters hproperty hbody

end Builder

namespace Generator

open Builder

/-- Required fields of the body. Where nothing collides, the builder of an object or operation that
sends a body has a property with the identifier of each required field: the field itself, which is a
required property, or a parameter of its type that it goes along with. The property has a setter,
which writes the field unless it is a parameter that is taken in another type. If the property is
required, no chain of calls leads to a finished builder without having written the field. -/
theorem required_field_written {generator : Generator} {object : ApiObject} {builder : Builder}
    (hbuilder : builder ∈ generator.builders object) (hbody : builder.bodyRequired = true)
    (hcollisions : builder.collisions = []) {layout : Layout} {addComments : Bool}
    {setters : List Setter} (hsetters : builder.setters layout addComments = .ok setters)
    {field : ObjectField} (hfield : field ∈ object.fields) (hrequired : field.isRequired = true) :
    ∃ property ∈ builder.properties, property.key = fieldIdent field.name ∧
      (property.kind = .requiredField ∧ property ∈ builder.requiredProperties ∨
        property.kind.isParameter = true ∧ property.overridden = true ∧
          property.ty = field.tyPath) ∧
      (∃ setter ∈ setters, setter.name = property.key) ∧
      ((property.kind.isParameter = true → builder.keepsType property = true) →
        (∀ setter ∈ setters, setter.name = property.key →
          layout.dataPath ++ "body." ++ fieldIdent field.name ∈ setter.assigned) ∧
        (property ∈ builder.requiredProperties → ∀ calls : List Setter,
          (∀ setter ∈ calls, setter ∈ setters) → ∀ anyValue : Option String,
          (builder.argumentsAfter calls).take builder.markers.length =
            (builder.typeArguments .changeAll anyValue).take builder.markers.length →
          ∃ setter ∈ calls,
            layout.dataPath ++ "body." ++ fieldIdent field.name ∈ setter.assigned)) := by
  rw [← fields_of_mem_builders hbuilder] at hfield
  obtain ⟨property, hproperty, hkey, horigin⟩ :=
    exists_property_of_required_field hbody hcollisions hfield hrequired
  have hkind : property.kind = .requiredField ∧ property ∈ builder.requiredProperties ∨
      property.kind.isParameter = true ∧ property.overridden = true ∧
        property.ty = field.tyPath := by
    refine horigin.imp_left fun hkind ↦ ⟨hkind, List.mem_filter.mpr ⟨hproperty, ?_⟩⟩
    rw [hkind]
    rfl
  refine ⟨property, hproperty, hkey, hkind,
    exists_setter_of_required_field hsetters hbody hfield hproperty hkey, fun hkeeps ↦ ?_⟩
  have hwrites := writes_required_field layout hbody hfield hkey horigin hkeeps
  have hassigned : ∀ setter ∈ setters, setter.name = property.key →
      layout.dataPath ++ "body." ++ fieldIdent field.name ∈ setter.assigned := by
    intro setter hsetter hname
    rw [(assigned_of_name hsetters hsetter hproperty hname).1, String.append_assoc]
    exact hwrites
  refine ⟨hassigned, fun hmarked calls hcalls anyValue hfinished ↦ ?_⟩
  rw [argumentsAfter_eq, take_markersWhen_eq_iff] at hfinished
  obtain ⟨setter, hcall, hname⟩ :=
    (builder.isSetBy_iff calls hmarked).mp (hfinished property hmarked)
  exact ⟨setter, hcall, hassigned setter (hcalls setter hcall) hname⟩

/-- An operation that replaces a pet, and takes its name as an optional parameter too. -/
def replacePet : Operation where
  bodyRequired := true
  params := [{ name := "name", tyPath := "String" }]

/-- A pet with two required fields, which one operation replaces. -/
def replacedPet : ApiObject where
  name := "Pet"
  fields := [{ name := "id", tyPath := "i64", isRequired := true },
    { name := "name", tyPath := "String", isRequired := true }]
  paths := [("/pets", { operations := [(.put, replacePet)] })]

/-- The builder of the operation. -/
def replaceBuilder : Builder :=
  standard.operationBuilder replacedPet 0 "/pets" [] .put replacePet

/-- Its setters. -/
def replaceSetters : List Setter :=
  [⟨"name", [], "impl Into<String>", "Self", "self",
      ["let value: String = value.into();", "self.inner.param_name = Some(value.clone());",
        "self.inner.body.name = value;"]⟩,
    ⟨"id", [], "impl Into<i64>", "PetPutBuilder<crate::generics::IdExists>", transmute,
      ["self.inner.body.id = value.into();"]⟩]

theorem replaceBuilder_mem_builders : replaceBuilder ∈ standard.builders replacedPet := by
  have hpaths : replacedPet.paths = [("/pets", { operations := [(.put, replacePet)] })] := rfl
  exact operationBuilder_mem_builders standard hpaths (List.mem_singleton_self _)

theorem setters_replaceBuilder :
    replaceBuilder.setters ⟨true, [], [], ""⟩ false = .ok replaceSetters := by
  decide +kernel

theorem required_field_written_replacedPet :
    replaceBuilder ∈ standard.builders replacedPet ∧ replaceBuilder.bodyRequired = true ∧
      replaceBuilder.collisions = [] ∧
      replaceBuilder.setters ⟨true, [], [], ""⟩ false = .ok replaceSetters ∧
      ∀ calls : List Setter, (∀ setter ∈ calls, setter ∈ replaceSetters) →
        (replaceBuilder.argumentsAfter calls).take replaceBuilder.markers.length =
          (replaceBuilder.typeArguments .changeAll none).take replaceBuilder.markers.length →
        ∃ setter ∈ calls, "inner.body." ++ fieldIdent "id" ∈ setter.assigned := by
  have hcollisions : replaceBuilder.collisions = [] := by decide +kernel
  have hkinds : ∀ property ∈ replaceBuilder.properties, property.key = fieldIdent "id" →
      property.kind = .requiredField := by decide +kernel
  obtain ⟨property, hproperty, hkey, _, _, hwritten⟩ :=
    required_field_written replaceBuilder_mem_builders rfl hcollisions setters_replaceBuilder
      (List.mem_cons_self ..) rfl
  have hkind : property.kind = .requiredField := hkinds property hproperty hkey
  have hmarked : property ∈ replaceBuilder.requiredProperties :=
    List.mem_filter.mpr ⟨hproperty, by rw [hkind]; rfl⟩
  have hfield : ¬ property.kind.isParameter = true := by rw [hkind]; exact Bool.false_ne_true
  refine ⟨replaceBuilder_mem_builders, rfl, hcollisions, setters_replaceBuilder, ?_⟩
  intro calls hcalls hfinished
  exact (hwritten fun hparameter ↦ absurd hparameter hfield).2 hmarked calls hcalls none hfinished

/-- A required field that goes along with an optional parameter belongs to no required property, and
the builder can be finished without it. -/
theorem exists_unmarked_required_field :
    replaceBuilder ∈ standard.builders replacedPet ∧ replaceBuilder.bodyRequired = true ∧
      replaceBuilder.collisions = [] ∧
      replaceBuilder.setters ⟨true, [], [], ""⟩ false = .ok replaceSetters ∧
      ∃ field ∈ replacedPet.fields, field.isRequired = true ∧
        (∀ property ∈ replaceBuilder.requiredProperties, ∀ setter ∈ replaceSetters,
          setter.name = property.key → "inner.body." ++ fieldIdent field.name ∉ setter.assigned) ∧
        ∃ calls, (∀ setter ∈ calls, setter ∈ replaceSetters) ∧
          replaceBuilder.argumentsAfter calls = replaceBuilder.typeArguments .changeAll none ∧
          ∀ setter ∈ calls, "inner.body." ++ fieldIdent field.name ∉ setter.assigned := by
  refine ⟨replaceBuilder_mem_builders, rfl, by decide +kernel, setters_replaceBuilder,
    { name := "name", tyPath := "String", isRequired := true }, by decide, rfl, by decide +kernel,
    replaceSetters.drop 1, fun _ ↦ List.mem_of_mem_drop, by decide +kernel, by decide +kernel⟩

end Generator

end TypestateBuilders
