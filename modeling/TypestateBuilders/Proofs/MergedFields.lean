import TypestateBuilders.Proofs.LeafRenderings
import TypestateBuilders.Proofs.Storage

/-!
# Fields that go along with parameters

A parameter is marked as overridden exactly if some field of the object has its identifier and its
type (`Builder.overridden_iff`). Such a field has no setter of its own, so where the object is sent
as the body it has to be written by the setter of the parameter.

This setter keeps the parameter's type unless the type is a file or an array
(`Builder.keepsType_iff_of_parameter`), and it writes the field only if it keeps the type. So a file
or an array that goes along with a parameter is written by no setter at all
(`Builder.merged_field_written_iff`).

The setter looks for the field by the identifier, and finds the owner of the identifier. This is the
field that the struct declares, but not always the one that goes along with the parameter. The value
is converted into the parameter's type. So what is written has the declared type if the owner goes
along, and does not hold dynamically typed objects (`Generator.merged_write_well_typed_iff`).
-/

set_option autoImplicit false
set_option relaxedAutoImplicit false

namespace TypestateBuilders

open Naming Outcome Occurrence

namespace Builder

open Unification

variable {builder : Builder} {layout : Layout} {property : Property}

/-! ### Marked parameters -/

/-- A property is marked if it is a parameter and a field goes along with it: one that has its
identifier and its type. -/
theorem overridden_iff (hproperty : property ∈ builder.properties) :
    property.overridden = true ↔ property.kind.isParameter = true ∧
      ∃ field ∈ builder.fields, field.ident = property.key ∧ field.tyPath = property.ty := by
  rw [properties_eq_firsts] at hproperty
  obtain ⟨first, _, rfl⟩ := List.mem_map.mp hproperty
  have hmarked : (marked builder.declarations first).overridden = true ↔
      ∃ field ∈ builder.declarations, field.key = first.key ∧ GoesAlong first field :=
    decide_eq_true_iff
  rw [hmarked]
  constructor
  · rintro ⟨declaration, hdeclaration, hkey, hparameter, hfield, hty⟩
    rcases mem_declarations hdeclaration with ⟨parameter, _, rfl⟩ | ⟨field, hmem, rfl⟩
    · rw [PropertyKind.isField, Property.isParameter_ofParameter] at hfield
      exact absurd hfield (by decide)
    · exact ⟨hparameter, field, hmem, hkey, hty⟩
  · rintro ⟨hparameter, field, hmem, hkey, hty⟩
    refine ⟨Property.ofField builder.bodyRequired field, ?_, hkey, hparameter,
      Property.isField_ofField _ field, hty⟩
    exact List.mem_append_right _ (List.mem_map_of_mem hmem)

/-- A parameter needs a file exactly if its type is that of files. -/
theorem needsFile_of_parameter (hproperty : property ∈ builder.properties)
    (hkind : property.kind.isParameter = true) :
    property.needsFile = decide (property.ty = fileMarker) := by
  obtain ⟨parameter, _, horigin⟩ := exists_parameter_of_isParameter hproperty hkind
  have hneeds : property.needsFile = decide (parameter.tyPath = fileMarker) :=
    congrArg Property.needsFile horigin
  have hty : property.ty = parameter.tyPath := congrArg Property.ty horigin
  rw [hneeds, hty]

/-- The setter of a parameter keeps the parameter's type unless this is a file or an array: its path
names the container of sequences. -/
theorem keepsType_iff_of_parameter (hproperty : property ∈ builder.properties)
    (hkind : property.kind.isParameter = true) :
    builder.keepsType property = true ↔
      property.ty ≠ fileMarker ∧ ¬ vecName <:+: property.ty.toList := by
  rw [keepsType_iff, needsFile_of_parameter hproperty hkind, wrapDelimited_eq_self_iff,
    decide_eq_false_iff_not]

/-! ### The field that is written -/

/-- A field that is found under an identifier owns it. -/
theorem mem_owners_of_objectField? {name : String} {field : ObjectField}
    (h : builder.objectField? name = some field) :
    field ∈ owners builder.fields ∧ field.ident = fieldIdent name := by
  have hfound : first? ObjectField.ident builder.fields (fieldIdent name) = some field := by
    rw [← h]
    rfl
  exact ⟨mem_of_first? (by rwa [owners, first?_firsts]), key_of_first? hfound⟩

theorem objectField?_of_mergedField? {field : ObjectField}
    (h : builder.mergedField? property = some field) :
    property.overridden = true ∧ builder.bodyRequired = true ∧
      builder.objectField? property.name = some field := by
  rw [mergedField?] at h
  split at h
  · rename_i hboth
    rw [Bool.and_eq_true] at hboth
    exact ⟨hboth.1, hboth.2, h⟩
  · cases h

/-- The setter of a parameter writes the field that goes along with the parameter, if it keeps the
parameter's type. -/
theorem writtenField?_eq_some_iff_of_parameter (hkind : property.kind.isParameter = true)
    {field : ObjectField} :
    builder.writtenField? property = some field ↔
      builder.keepsType property = true ∧ builder.mergedField? property = some field := by
  rw [writtenField?, if_pos hkind, Option.ite_none_right_eq_some]

/-- What a setter writes into the body has the identifier of the setter's property. -/
theorem ident_of_writtenField? {field : ObjectField}
    (h : builder.writtenField? property = some field) : field.ident = property.key := by
  have hfound : builder.objectField? property.name = some field := by
    by_cases hkind : property.kind.isParameter = true
    · have hmerged := ((writtenField?_eq_some_iff_of_parameter hkind).mp h).2
      exact (objectField?_of_mergedField? hmerged).2.2
    · rwa [writtenField?, if_neg hkind] at h
  exact (mem_owners_of_objectField? hfound).2

/-- A setter assigns a field of the body if it has the field's identifier, and writes a field. -/
theorem bodyPlace_mem_placesOf_iff {name : String} :
    layout.dataPath ++ bodyPlace name ∈ builder.placesOf layout property ↔
      fieldIdent name = property.key ∧ (builder.writtenField? property).isSome = true := by
  have hplace : ∀ other, layout.dataPath ++ bodyPlace name = layout.dataPath ++ bodyPlace other ↔
      fieldIdent name = fieldIdent other := by
    intro other
    rw [String.append_right_inj, bodyPlace, bodyPlace, String.append_right_inj]
  rw [mem_placesOf_iff, Option.isSome_iff_exists]
  constructor
  · rintro (⟨_, hslot⟩ | ⟨field, hwritten, hsame⟩)
    · exact absurd ((String.append_right_inj _).mp hslot) (bodyPlace_ne_valueSlot name property)
    · exact ⟨((hplace _).mp hsame).trans (ident_of_writtenField? hwritten), field, hwritten⟩
  · rintro ⟨hkey, field, hwritten⟩
    have hident := ident_of_writtenField? hwritten
    exact Or.inr ⟨field, hwritten, (hplace _).mpr (hkey.trans hident.symm)⟩

/-- The setter of a marked parameter writes a field if it keeps the parameter's type. -/
theorem isSome_writtenField?_iff (hproperty : property ∈ builder.properties)
    (hbody : builder.bodyRequired = true) (hoverridden : property.overridden = true) :
    (builder.writtenField? property).isSome = true ↔ builder.keepsType property = true := by
  obtain ⟨hkind, field, hmem, hkey, _⟩ := (overridden_iff hproperty).mp hoverridden
  have hfield : fieldIdent field.name = fieldIdent property.name := hkey
  obtain ⟨found, _, hfound, _⟩ := exists_objectField hmem hfield
  have hmerged : builder.mergedField? property = some found := by
    rw [mergedField?, hoverridden, hbody]
    exact hfound
  rw [Option.isSome_iff_exists]
  constructor
  · rintro ⟨field, hwritten⟩
    exact ((writtenField?_eq_some_iff_of_parameter hkind).mp hwritten).1
  · intro hkeeps
    exact ⟨found, (writtenField?_eq_some_iff_of_parameter hkind).mpr ⟨hkeeps, hmerged⟩⟩

/-- Where the object is sent as the body, a field that goes along with a parameter is written by the
setter of the parameter exactly if their type is neither a file nor an array, and no other setter
writes it. The slot of the parameter is always written. -/
theorem merged_field_written_iff {addComments : Bool} {setters : List Setter}
    (hsetters : builder.setters layout addComments = .ok setters)
    (hbody : builder.bodyRequired = true) (hproperty : property ∈ builder.properties)
    (hoverridden : property.overridden = true) :
    (∃ field ∈ builder.fields, field.ident = property.key ∧ field.tyPath = property.ty) ∧
    ∃ setter ∈ setters, setter.name = property.key ∧
      layout.dataPath ++ property.valueSlot ∈ setter.assigned ∧
      (layout.dataPath ++ bodyPlace property.name ∈ setter.assigned ↔
        property.ty ≠ fileMarker ∧ ¬ vecName <:+: property.ty.toList) ∧
      ∀ other ∈ setters, layout.dataPath ++ bodyPlace property.name ∈ other.assigned →
        other = setter := by
  obtain ⟨hkind, hfield⟩ := (overridden_iff hproperty).mp hoverridden
  obtain ⟨setter, hsetter, hname⟩ :=
    exists_setter_named hsetters hproperty (setterBody?_ne_none_of_parameter hkind)
  have hassigned := (assigned_of_name hsetters hsetter hproperty hname).1
  refine ⟨hfield, setter, hsetter, hname, ?_, ?_, ?_⟩
  · rw [hassigned]
    exact mem_placesOf_iff.mpr (Or.inl ⟨hkind, rfl⟩)
  · rw [hassigned, bodyPlace_mem_placesOf_iff, isSome_writtenField?_iff hproperty hbody hoverridden,
      keepsType_iff_of_parameter hproperty hkind]
    exact and_iff_right rfl
  · intro other hother hwrites
    obtain ⟨owner, howner, hkey, hplaces, _⟩ := assigned_of_mem_setters hsetters hother
    rw [hplaces] at hwrites
    have hsame : property.key = owner.key := (bodyPlace_mem_placesOf_iff.mp hwrites).1
    exact List.inj_on_of_nodup_map (nodup_names_setters hsetters) hother hsetter
      (hkey.trans (hsame.symm.trans hname.symm))

/-- A builder for a pet with three parameters that fields go along with: a plain one, a file and an
array that is sent in a format. -/
def labelledPet : Builder where
  object := "Pet"
  fields := [{ name := "label", tyPath := "String" }, { name := "photo", tyPath := fileMarker },
    { name := "tags", tyPath := "Vec<String>" }]
  bodyRequired := true
  method := some .put
  relPath := .text "/pets"
  ownParams := [{ name := "label", tyPath := "String" },
    { name := "photo", tyPath := fileMarker, location := .formData },
    { name := "tags", tyPath := "Vec<String>", delimiting := [.csv] }]

/-- The parameters of this builder as its properties. -/
def labelledPetProperties : List Property :=
  [{ name := "label", ty := "String", kind := .optionalParameter, overridden := true,
      location := some .query },
    { name := "photo", ty := fileMarker, kind := .optionalParameter, overridden := true,
      location := some .formData, needsFile := true },
    { name := "tags", ty := "Vec<String>", kind := .optionalParameter, overridden := true,
      delimiting := [.csv], location := some .query }]

/-- The layout of this builder. -/
def labelledPetLayout : Layout where
  needsContainer := false
  outer := [⟨"body", "self::Pet", defaultInit⟩, ⟨"param_label", "Option<String>", "None"⟩,
    ⟨"param_photo", "Option<std::path::PathBuf>", "None"⟩,
    ⟨"param_tags", "Option<crate::util::Delimited<String, crate::util::Csv>>", "None"⟩]
  container := []

/-- The setters of this builder. -/
def labelledPetSetters : List Setter :=
  [⟨"label", [], "impl Into<String>", "Self", "self",
      ["let value: String = value.into();", "self.param_label = Some(value.clone());",
        "self.body.label = Some(value);"]⟩,
    ⟨"photo", [], pathArgument, "Self", "self",
      ["self.param_photo = Some(value.as_ref().into());"]⟩,
    ⟨"tags", [], "crate::util::Delimited<String, crate::util::Csv>", "Self", "self",
      ["self.param_tags = Some(value);"]⟩]

/-- What is generated for this builder; no setter writes the file into the body. -/
theorem labelledPet_generated :
    labelledPet.layout = .ok labelledPetLayout ∧
      labelledPet.setters labelledPetLayout false = .ok labelledPetSetters ∧
      labelledPet.properties = labelledPetProperties ∧
      ∀ setter ∈ labelledPetSetters, bodyPlace "photo" ∉ setter.assigned := by
  decide +kernel

/-- Of the fields that go along with parameters the plain one is written, and the two others are
not. -/
theorem merged_field_written_iff_labelledPet :
    labelledPet.setters labelledPetLayout false = .ok labelledPetSetters ∧
      labelledPet.bodyRequired = true ∧ labelledPet.properties = labelledPetProperties ∧
      ∀ property ∈ labelledPetProperties, property.overridden = true ∧
        ∃ setter ∈ labelledPetSetters, setter.name = property.key ∧
          property.valueSlot ∈ setter.assigned ∧
          (bodyPlace property.name ∈ setter.assigned ↔ property.name = "label") := by
  obtain ⟨_, hsetters, hproperties, _⟩ := labelledPet_generated
  refine ⟨hsetters, rfl, hproperties, fun property hproperty ↦ ?_⟩
  have hoverridden : property.overridden = true := by
    revert property
    decide
  have hplain : property.ty ≠ fileMarker ∧ ¬ vecName <:+: property.ty.toList ↔
      property.name = "label" := by
    revert property
    decide
  obtain ⟨_, setter, hsetter, hname, hslot, hfield, _⟩ :=
    merged_field_written_iff hsetters rfl (hproperties ▸ hproperty) hoverridden
  exact ⟨hoverridden, setter, hsetter, hname, hslot, hfield.trans hplain⟩

/-- A field that goes along with a parameter is not always written: the setter of a file writes the
slot of the parameter alone. -/
theorem exists_merged_field_unwritten :
    ¬ ∀ (builder : Builder) (layout : Layout) (addComments : Bool) (setters : List Setter)
      (property : Property), builder.layout = .ok layout →
        builder.setters layout addComments = .ok setters → builder.bodyRequired = true →
        property ∈ builder.properties → property.overridden = true →
        ∃ setter ∈ setters, setter.name = property.key ∧
          layout.dataPath ++ property.valueSlot ∈ setter.assigned ∧
          layout.dataPath ++ bodyPlace property.name ∈ setter.assigned := by
  intro hwritten
  obtain ⟨hlayout, hsetters, hproperties, hnone⟩ := labelledPet_generated
  have hphoto : ∃ property ∈ labelledPet.properties, property.overridden = true ∧
      property.name = "photo" := by
    rw [hproperties]
    decide
  obtain ⟨property, hproperty, hoverridden, hname⟩ := hphoto
  obtain ⟨setter, hsetter, _, _, hassigned⟩ := hwritten labelledPet labelledPetLayout false
    labelledPetSetters property hlayout hsetters rfl hproperty hoverridden
  rw [hname] at hassigned
  exact hnone setter hsetter hassigned

end Builder

/-! ### The type that is written -/

/-- The statement that converts the value of a setter into a type. -/
def conversionTo (ty : String) : String :=
  "let value: " ++ ty ++ " = value.into();"

theorem conversionTo_inj {ty other : String} :
    conversionTo ty = conversionTo other ↔ ty = other := by
  rw [conversionTo, conversionTo, String.append_left_inj, String.append_right_inj]

/-- Statements that assign something behind `self` convert nothing. -/
theorem conversionTo_ne_of_self (ty rest : String) : conversionTo ty ≠ "self." ++ rest := by
  intro hsame
  have hhead := congrArg (fun text : String ↦ text.toList.head?) hsame
  simp only [conversionTo, String.toList_append] at hhead
  exact absurd (Option.some.inj hhead : 'l' = 's') (by decide)

namespace Wrapper

theorem wrapType_inj {wrapper : Wrapper} {ty other : String} :
    wrapper.wrapType ty = wrapper.wrapType other ↔ ty = other := by
  cases wrapper with
  | pointer => rw [wrapType, wrapType, String.append_left_inj, String.append_right_inj]
  | option => rw [wrapType, wrapType, String.append_left_inj, String.append_right_inj]

theorem foldl_wrapType_inj {wrappers : List Wrapper} {ty other : String} :
    wrappers.foldl (fun inner wrapper ↦ wrapper.wrapType inner) ty =
      wrappers.foldl (fun inner wrapper ↦ wrapper.wrapType inner) other ↔ ty = other := by
  induction wrappers generalizing ty other with
  | nil => exact Iff.rfl
  | cons wrapper rest ih => rw [List.foldl_cons, List.foldl_cons, ih, wrapType_inj]

end Wrapper

namespace Builder

/-- The setter of a parameter that a field goes along with converts the value into the parameter's
type, if this is the type that it takes. -/
theorem parameterSetter_of_merged {builder : Builder} {property : Property} {field : ObjectField}
    (hkeeps : builder.keepsType property = true)
    (hmerged : builder.mergedField? property = some field) (data : String) :
    builder.parameterSetter data property = .ok ⟨intoArgument property.ty,
      [conversionTo property.ty, data ++ property.valueSlot ++ " = Some(value.clone());",
        bodySlot data field ++ " = " ++ field.store "value" ++ ";"]⟩ := by
  obtain ⟨hfile, hwrapped⟩ := keepsType_iff.mp hkeeps
  rw [parameterSetter, hfile, if_neg Bool.false_ne_true, hwrapped, Except.map, hmerged]
  rw [if_neg (not_not.mpr rfl)]
  rfl

/-- What such a setter does. -/
theorem statements_of_merged {builder : Builder} {layout : Layout} {addComments : Bool}
    {setters : List Setter} (hsetters : builder.setters layout addComments = .ok setters)
    {property : Property} (hproperty : property ∈ builder.properties)
    (hkind : property.kind.isParameter = true) {setter : Setter} (hsetter : setter ∈ setters)
    (hname : setter.name = property.key) {field : ObjectField}
    (hkeeps : builder.keepsType property = true)
    (hmerged : builder.mergedField? property = some field) :
    setter.statements = [conversionTo property.ty,
      "self." ++ (layout.dataPath ++ property.valueSlot ++ " = Some(value.clone());"),
      "self." ++ (layout.dataPath ++ bodyPlace field.name ++ " = " ++ field.store "value" ++
        ";")] := by
  obtain ⟨other, hother, docLines, body, hbody, rfl⟩ := exists_body_of_mem_setters hsetters hsetter
  obtain rfl : other = property :=
    eq_of_key_eq hother hproperty ((name_setterOf ..).symm.trans hname)
  rw [setterBody?, if_pos hkind, parameterSetter_of_merged hkeeps hmerged] at hbody
  obtain rfl := Option.some.inj (Except.ok.inj hbody)
  simp only [setterOf, bodySlot, bodyPlace, String.append_assoc]

end Builder

namespace Generator

open Builder

/-- A struct declares one field under the identifier of an owner, and this has a plain type in the
owner's wrappers. -/
def DeclaredAs (declarations : List FieldDeclaration) (owner : ObjectField) (plain : String) :
    Prop :=
  ∃ declaration ∈ declarations, declaration.name = owner.ident ∧
    (∀ other ∈ declarations, other.name = owner.ident → other = declaration) ∧
    declaration.ty = owner.wrappers.foldl (fun inner wrapper ↦ wrapper.wrapType inner) plain

section

variable {generator : Generator} (hdrop : generator.collisionPolicy = .drop) {object : ApiObject}
  {declarations : List FieldDeclaration}
  (hdeclarations :
    (generator.declareFields object.name [] object.fields).outcome = .ok declarations)

include hdrop hdeclarations

/-- The struct of an object declares the owners of identifiers with the types of fields. -/
theorem declaredAs_iff {owner : ObjectField} (howner : owner ∈ owners object.fields)
    {plain : String} :
    DeclaredAs declarations owner plain ↔ fieldType owner.tyPath owner.needsAny = .ok plain := by
  obtain ⟨declaration, hmem, hdeclared, honly⟩ :=
    exists_declaration_of_owner hdrop hdeclarations howner
  obtain ⟨declaredPlain, hplain, hty⟩ := ty_of_declareField hdeclared
  rw [hplain, Except.ok.injEq]
  constructor
  · rintro ⟨other, hother, hname, _, hotherTy⟩
    rw [honly other hother hname, hty] at hotherTy
    exact Wrapper.foldl_wrapType_inj.mp hotherTy
  · rintro rfl
    exact ⟨declaration, hmem, name_of_declareField hdeclared, honly, hty⟩

/-- What the setter of a parameter writes into the body has been converted into the parameter's
type, which is the type of some field with the identifier. The struct declares the owner of the
identifier. If this is such a field, then what is written has the declared type unless the type
holds dynamically typed values in an object. For a plain owner, which is no file and holds no such
values, it has the declared type exactly if the owner has the parameter's type. -/
theorem merged_write_well_typed_iff {builder : Builder}
    (hbuilder : builder ∈ generator.builders object) {layout : Layout} {addComments : Bool}
    {setters : List Setter} (hsetters : builder.setters layout addComments = .ok setters)
    {property : Property} (hproperty : property ∈ builder.properties)
    (hkind : property.kind.isParameter = true) {setter : Setter} (hsetter : setter ∈ setters)
    (hname : setter.name = property.key) {name : String}
    (hassigned : layout.dataPath ++ bodyPlace name ∈ setter.assigned) :
    (∀ ty, conversionTo ty ∈ setter.statements ↔ ty = property.ty) ∧
    (∃ field ∈ object.fields, field.ident = fieldIdent name ∧ field.tyPath = property.ty) ∧
    ∃ owner ∈ owners object.fields, owner.ident = fieldIdent name ∧
      (∃ plain, DeclaredAs declarations owner plain) ∧
      (owner.tyPath = property.ty → (DeclaredAs declarations owner property.ty ↔
        (owner.needsAny = true →
          ∃ leaf, leafType owner.tyPath = .ok leaf ∧ isSimpleType leaf = true))) ∧
      (owner.tyPath ≠ fileMarker → owner.needsAny = false →
        (DeclaredAs declarations owner property.ty ↔ owner.tyPath = property.ty)) := by
  rw [(assigned_of_name hsetters hsetter hproperty hname).1,
    bodyPlace_mem_placesOf_iff] at hassigned
  obtain ⟨hkey, hwritten⟩ := hassigned
  obtain ⟨owner, hwritten⟩ := Option.isSome_iff_exists.mp hwritten
  obtain ⟨hkeeps, hmerged⟩ := (writtenField?_eq_some_iff_of_parameter hkind).mp hwritten
  have hstatements := statements_of_merged hsetters hproperty hkind hsetter hname hkeeps hmerged
  obtain ⟨hoverridden, _, hfound⟩ := objectField?_of_mergedField? hmerged
  obtain ⟨howner, hident⟩ := mem_owners_of_objectField? hfound
  obtain ⟨_, field, hfield, hfieldKey, hfieldTy⟩ := (overridden_iff hproperty).mp hoverridden
  rw [fields_of_mem_builders hbuilder] at howner hfield
  -- The setter keeps the parameter's type, so this is no file.
  have hplainTy : property.ty ≠ fileMarker :=
    ((keepsType_iff_of_parameter hproperty hkind).mp hkeeps).1
  refine ⟨fun ty ↦ ?_, ⟨field, hfield, hfieldKey.trans hkey.symm, hfieldTy⟩, owner, howner,
    hident.trans hkey.symm, ?_, fun hsame ↦ ?_, fun hfile hany ↦ ?_⟩
  · rw [hstatements, List.mem_cons, List.mem_cons, List.mem_singleton, conversionTo_inj]
    refine or_iff_left ?_
    rintro (hslot | hbody)
    · exact conversionTo_ne_of_self ty _ hslot
    · exact conversionTo_ne_of_self ty _ hbody
  · obtain ⟨declaration, _, hdeclared, _⟩ := exists_declaration_of_owner hdrop hdeclarations howner
    obtain ⟨plain, hplain, _⟩ := ty_of_declareField hdeclared
    exact ⟨plain, (declaredAs_iff hdrop hdeclarations howner).mpr hplain⟩
  · rw [declaredAs_iff hdrop hdeclarations howner, fieldType, hsame, if_neg hplainTy]
    cases owner.needsAny with
    | true =>
      rw [if_pos rfl, withAnyGeneric_anyParameter_eq_iff]
      exact ⟨fun h _ ↦ h, fun h ↦ h rfl⟩
    | false => exact iff_of_true rfl nofun
  · rw [declaredAs_iff hdrop hdeclarations howner, fieldType, if_neg hfile, hany,
      if_neg Bool.false_ne_true, Except.ok.injEq]

end

/-- An operation on a pet that sends the pet, and its number as a parameter. -/
def numberPet : Operation where
  bodyRequired := true
  params := [{ name := "id", tyPath := "i64" }]

/-- A pet with this operation. Of its two fields with the identifier of the parameter, the second
one goes along with the parameter. -/
def numberedPet : ApiObject where
  name := "Pet"
  fields := [{ name := "Id", tyPath := "String" }, { name := "id", tyPath := "i64" }]
  paths := [("/pets", { operations := [(.put, numberPet)] })]

/-- The builder of the operation. -/
def numberBuilder : Builder :=
  standard.operationBuilder numberedPet 0 "/pets" [] .put numberPet

/-- Its layout. -/
def numberLayout : Layout where
  needsContainer := false
  outer := [⟨"body", "self::Pet", defaultInit⟩, ⟨"param_id", "Option<i64>", "None"⟩]
  container := []

/-- Its parameter. -/
def numberProperty : Property where
  name := "id"
  ty := "i64"
  kind := .optionalParameter
  overridden := true
  location := some .query

/-- The setter of the parameter. -/
def numberSetter : Setter :=
  ⟨"id", [], "impl Into<i64>", "Self", "self", ["let value: i64 = value.into();",
    "self.param_id = Some(value.clone());", "self.body.id = Some(value);"]⟩

/-- What the struct declares. -/
def numberDeclarations : List FieldDeclaration :=
  [{ name := "id", ty := "Option<String>", rename := some "Id", docLines := [] }]

theorem numberBuilder_mem_builders : numberBuilder ∈ standard.builders numberedPet := by
  have hpaths : numberedPet.paths = [("/pets", { operations := [(.put, numberPet)] })] := rfl
  exact operationBuilder_mem_builders standard hpaths (List.mem_singleton_self _)

/-- What is generated for this builder and its object. -/
theorem numberBuilder_generated :
    numberBuilder.layout = .ok numberLayout ∧
      numberBuilder.setters numberLayout false = .ok [numberSetter] ∧
      numberBuilder.properties = [numberProperty] ∧ numberSetter.name = numberProperty.key ∧
      bodyPlace "id" ∈ numberSetter.assigned ∧
      (standard.declareFields numberedPet.name [] numberedPet.fields).outcome =
        .ok numberDeclarations ∧
      owners numberedPet.fields = [{ name := "Id", tyPath := "String" }] ∧
      fieldIdent "Id" = fieldIdent "id" := by
  decide +kernel

theorem merged_write_well_typed_iff_numberedPet :
    standard.collisionPolicy = .drop ∧ numberBuilder ∈ standard.builders numberedPet ∧
      numberBuilder.setters numberLayout false = .ok [numberSetter] ∧
      (standard.declareFields numberedPet.name [] numberedPet.fields).outcome =
        .ok numberDeclarations ∧
      numberBuilder.properties = [numberProperty] ∧ bodyPlace "id" ∈ numberSetter.assigned ∧
      (∀ ty, conversionTo ty ∈ numberSetter.statements ↔ ty = "i64") ∧
      ∃ owner ∈ owners numberedPet.fields, owner.ident = fieldIdent "id" ∧
        (DeclaredAs numberDeclarations owner "i64" ↔ owner.tyPath = "i64") := by
  obtain ⟨_, hsetters, hproperties, hname, hassigned, hdeclared, howners, _⟩ :=
    numberBuilder_generated
  have hproperty : numberProperty ∈ numberBuilder.properties := by
    rw [hproperties]
    exact List.mem_singleton_self _
  obtain ⟨hconversion, _, owner, howner, hident, _, _, hplain⟩ :=
    merged_write_well_typed_iff rfl hdeclared numberBuilder_mem_builders hsetters hproperty rfl
      (List.mem_singleton_self _) hname hassigned
  have hsame : owner = { name := "Id", tyPath := "String" } := by
    rw [howners] at howner
    exact List.mem_singleton.mp howner
  refine ⟨rfl, numberBuilder_mem_builders, hsetters, hdeclared, hproperties, hassigned, hconversion,
    owner, howner, hident, hplain ?_ ?_⟩
  · rw [hsame]
    decide
  · rw [hsame]

/-- What the setter of a parameter writes does not always have the declared type: the field that
goes along with the parameter is not the one that the struct declares. -/
theorem exists_merged_write_ill_typed :
    ¬ ∀ (generator : Generator) (object : ApiObject) (builder : Builder) (layout : Layout)
      (addComments : Bool) (setters : List Setter) (declarations : List FieldDeclaration)
      (property : Property) (setter : Setter) (name ty : String) (owner : ObjectField),
        generator.collisionPolicy = .drop → builder ∈ generator.builders object →
        builder.layout = .ok layout → builder.setters layout addComments = .ok setters →
        (generator.declareFields object.name [] object.fields).outcome = .ok declarations →
        property ∈ builder.properties → property.kind.isParameter = true → setter ∈ setters →
        setter.name = property.key → layout.dataPath ++ bodyPlace name ∈ setter.assigned →
        conversionTo ty ∈ setter.statements → owner ∈ owners object.fields →
        owner.ident = fieldIdent name → DeclaredAs declarations owner ty := by
  intro hwellTyped
  obtain ⟨hlayout, hsetters, hproperties, hname, hassigned, hdeclared, howners, hident⟩ :=
    numberBuilder_generated
  have hproperty : numberProperty ∈ numberBuilder.properties := by
    rw [hproperties]
    exact List.mem_singleton_self _
  have howner : { name := "Id", tyPath := "String" } ∈ owners numberedPet.fields := by
    rw [howners]
    exact List.mem_singleton_self _
  have hconversion : conversionTo "i64" ∈ numberSetter.statements := by decide
  obtain ⟨declaration, hmem, _, _, hty⟩ := hwellTyped standard numberedPet numberBuilder
    numberLayout false [numberSetter] numberDeclarations numberProperty numberSetter "id" "i64"
    { name := "Id", tyPath := "String" } rfl numberBuilder_mem_builders hlayout hsetters hdeclared
    hproperty rfl (List.mem_singleton_self _) hname hassigned hconversion howner hident
  rw [List.mem_singleton.mp hmem] at hty
  exact absurd hty (by decide)

end Generator

end TypestateBuilders
