import TypestateBuilders.Proofs.PathTemplates
import TypestateBuilders.Proofs.Storage
import TypestateBuilders.Proofs.Typestate

/-!
# Slots that the path unwraps

The expression for the path of a finished builder unwraps the slots of the parameters that are sent
in the path, and of no others (`Builder.filterMap_unwrapped?_pathArguments`). It fails where such a
slot is empty. What fills the slot is the setter of the parameter (`Builder.fills_iff`), and what
makes sure that the setter was called is the marker of the parameter. But where a parameter is sent
and whether it is required are said apart. So a builder cannot be finished with an empty slot that
its path unwraps exactly if all parameters that are sent in the path are required
(`Builder.path_slot_filled_iff_required`).
-/

set_option autoImplicit false
set_option relaxedAutoImplicit false

namespace TypestateBuilders

open Naming Outcome

/-- The place that an argument of the expression for the path unwraps, as the way to it from
`self`. -/
def unwrapped? (argument : String) : Option String := do
  let (_, value) ← Text.cutAt "=self.".toList argument.toList
  let (reference, _) ← Text.cutAt "().expect(".toList value
  let place ← reference.dropSuffix? ".as_ref".toList
  pure (String.ofList place)

theorem unwrapped?_of_place {name place : String} (hname : '=' ∉ name.toList)
    (hplace : '(' ∉ place.toList) (message : String) :
    unwrapped? (name ++ "=self." ++ place ++ ".as_ref().expect(" ++ message) = some place := by
  have htext : (name ++ "=self." ++ place ++ ".as_ref().expect(" ++ message).toList =
      name.toList ++ "=self.".toList ++
        (place.toList ++ ".as_ref".toList ++ "().expect(".toList ++ message.toList) := by
    simp only [String.toList_append, List.append_assoc]
    rfl
  have hreference : '(' ∉ place.toList ++ ".as_ref".toList := by
    rw [List.mem_append, not_or]
    exact ⟨hplace, by decide⟩
  have hvalue : Text.cutAt "=self.".toList (name ++ "=self." ++ place ++ ".as_ref().expect(" ++
      message).toList = some (name.toList,
        place.toList ++ ".as_ref".toList ++ "().expect(".toList ++ message.toList) := by
    rw [htext]
    exact Text.cutAt_append_of_notMem hname _
  have hcut : Text.cutAt "().expect(".toList
      (place.toList ++ ".as_ref".toList ++ "().expect(".toList ++ message.toList) =
        some (place.toList ++ ".as_ref".toList, message.toList) :=
    Text.cutAt_append_of_notMem hreference _
  have hdrop : (place.toList ++ ".as_ref".toList).dropSuffix? ".as_ref".toList =
      some place.toList :=
    List.dropSuffix?_eq_some_iff.mpr ⟨_, rfl, beq_self_eq_true _⟩
  simp only [unwrapped?, hvalue, hcut, hdrop, Option.bind_eq_bind, Option.bind_some,
    String.ofList_toList, Option.pure_def]

namespace Builder

variable {builder : Builder} {layout : Layout} {property : Property}

/-! ### What is unwrapped -/

/-- The argument of a property unwraps the property's slot. -/
theorem unwrapped?_pathArgumentOf (layout : Layout) (property : Property) :
    unwrapped? (pathArgumentOf layout property) = some (layout.dataPath ++ property.valueSlot) := by
  have hkey : '=' ∉ property.key.toList := fun hsign ↦
    absurd (isIdentChar_of_mem_sanitize '=' hsign) (by decide)
  have hpath : '(' ∉ layout.dataPath.toList := by
    rw [Layout.dataPath]
    split <;> decide
  have hplace : '(' ∉ (layout.dataPath ++ property.valueSlot).toList := by
    rw [String.toList_append, List.mem_append, not_or, Property.valueSlot, String.toList_append,
      List.mem_append, not_or]
    exact ⟨hpath, by decide, fun hopen ↦
      absurd (isIdentChar_of_mem_convert '(' hopen) (by decide)⟩
  have htext : pathArgumentOf layout property = property.key ++ "=self." ++
      (layout.dataPath ++ property.valueSlot) ++ ".as_ref().expect(" ++
        ("\"missing parameter " ++ property.name ++ "?\")") := by
    rw [pathArgumentOf]
    simp only [String.append_assoc]
    rfl
  rw [htext]
  exact unwrapped?_of_place hkey hplace _

/-- The expression for the path unwraps the slots of the parameters that are sent in the path. -/
theorem filterMap_unwrapped?_pathArguments (builder : Builder) (layout : Layout) :
    (builder.pathArguments layout).filterMap unwrapped? =
      builder.pathProperties.map fun property ↦ layout.dataPath ++ property.valueSlot := by
  rw [pathArguments, List.filterMap_map, ← List.filterMap_eq_map]
  exact List.filterMap_congr fun property _ ↦ unwrapped?_pathArgumentOf layout property

/-- The expression for the path is some template filled in with its arguments. -/
theorem exists_filledIn {expression : String} (h : builder.pathExpression layout = .ok expression) :
    ∃ template, expression = filledIn template (builder.pathArguments layout) := by
  rw [pathExpression] at h
  split at h
  · rename_i hnone
    refine ⟨builder.pathTemplate.display, (Except.ok.inj h).symm.trans ?_⟩
    rw [pathArguments, hnone, List.map_nil, filledIn, if_pos rfl]
  · rename_i hsome
    obtain ⟨template, _, rfl⟩ := map_eq_ok.mp h
    refine ⟨String.ofList (renamePlaceholders template.toList builder.pathProperties), ?_⟩
    rw [filledIn, if_neg]
    · rfl
    · rw [pathArguments, List.map_eq_nil_iff]
      exact hsome

/-- What is sent in the path is a parameter for the path, and a required property if the parameter
is declared as required. -/
theorem exists_parameter_of_mem_pathProperties (h : property ∈ builder.pathProperties) :
    ∃ parameter ∈ builder.parameters, property.unmarked = Property.ofParameter parameter ∧
      parameter.location = .path ∧
      (property ∈ builder.requiredProperties ↔ parameter.required = true) := by
  obtain ⟨hproperty, hkind⟩ := isParameter_of_mem_pathProperties h
  obtain ⟨parameter, hmem, horigin⟩ := exists_parameter_of_isParameter hproperty hkind
  have hlocation : property.location = some parameter.location :=
    congrArg Property.location horigin
  have hrequired : property.kind.isRequired = parameter.required := by
    rw [← Property.kind_unmarked, horigin, Property.ofParameter]
    cases parameter.required <;> rfl
  refine ⟨parameter, hmem, horigin, ?_, ?_⟩
  · rw [of_decide_eq_true (List.mem_filter.mp h).2] at hlocation
    exact (Option.some.inj hlocation).symm
  · rw [requiredProperties, List.mem_filter, hrequired]
    exact and_iff_right hproperty

/-! ### What fills the slots -/

/-- Whether the arguments for the markers after a chain of calls are those of the finished
builder. -/
def Finishes (builder : Builder) (calls : List Setter) : Prop :=
  (builder.argumentsAfter calls).take builder.markers.length =
    (builder.typeArguments .changeAll none).take builder.markers.length

instance (builder : Builder) (calls : List Setter) : Decidable (builder.Finishes calls) :=
  inferInstanceAs (Decidable (_ = _))

/-- A builder is finished when the setters of all its required properties were called. -/
theorem finishes_iff {calls : List Setter} :
    builder.Finishes calls ↔
      ∀ property ∈ builder.requiredProperties, ∃ setter ∈ calls, setter.name = property.key := by
  rw [Finishes, argumentsAfter_eq, take_markersWhen_eq_iff]
  exact forall₂_congr fun property hproperty ↦ builder.isSetBy_iff calls hproperty

section

variable {addComments : Bool} {setters : List Setter}
  (hsetters : builder.setters layout addComments = .ok setters)
  (hproperty : property ∈ builder.properties) (hkind : property.kind.isParameter = true)

include hsetters hproperty hkind

/-- Of all setters that of a parameter fills the parameter's slot. -/
theorem fills_iff {setter : Setter} (hsetter : setter ∈ setters) :
    layout.dataPath ++ property.valueSlot ∈ setter.assigned ↔ setter.name = property.key := by
  constructor
  · intro hfilled
    obtain ⟨owner, howner, hname, hassigned, _⟩ := assigned_of_mem_setters hsetters hsetter
    rw [hassigned] at hfilled
    rw [hname, eq_of_valueSlot_mem_placesOf hproperty howner hfilled]
  · intro hname
    rw [(assigned_of_name hsetters hsetter hproperty hname).1]
    exact mem_placesOf_iff.mpr (Or.inl ⟨hkind, rfl⟩)

/-- Every chain of calls that finishes a builder fills the slot of a parameter exactly if the
parameter is required. -/
theorem filled_iff_required :
    (∀ calls : List Setter, (∀ setter ∈ calls, setter ∈ setters) → builder.Finishes calls →
      ∃ setter ∈ calls, layout.dataPath ++ property.valueSlot ∈ setter.assigned) ↔
    property ∈ builder.requiredProperties := by
  constructor
  · intro hfilled
    by_contra hoptional
    -- All setters but that of the parameter finish the builder.
    have hfinished : builder.Finishes (setters.filter fun setter ↦ setter.name ≠ property.key) := by
      refine finishes_iff.mpr fun other hother ↦ ?_
      obtain ⟨setter, hsetter, docLines, body, hsame⟩ := exists_setter_of_required hsetters hother
      have hname : setter.name = other.key := by rw [hsame, name_setterOf]
      refine ⟨setter, List.mem_filter.mpr ⟨hsetter, decide_eq_true ?_⟩, hname⟩
      intro hkey
      have hother' : other = property :=
        eq_of_key_eq (List.mem_of_mem_filter hother) hproperty (hname.symm.trans hkey)
      exact hoptional (hother' ▸ hother)
    obtain ⟨setter, hcalled, hfills⟩ :=
      hfilled _ (fun setter hsetter ↦ List.mem_of_mem_filter hsetter) hfinished
    obtain ⟨hsetter, hname⟩ := List.mem_filter.mp hcalled
    exact of_decide_eq_true hname ((fills_iff hsetters hproperty hkind hsetter).mp hfills)
  · intro hrequired calls hcalls hfinished
    obtain ⟨setter, hcalled, hname⟩ := finishes_iff.mp hfinished property hrequired
    exact ⟨setter, hcalled,
      (fills_iff hsetters hproperty hkind (hcalls setter hcalled)).mpr hname⟩

end

/-- What a finished builder unwraps when it is sent. It is sent as the builder whose markers all say
that their properties are set. The expression for its path is a template filled in with arguments
that unwrap the slots of the parameters that are sent in the path. Each of these parameters is a
required property if it is declared as required. Every chain of calls that finishes the builder
fills the slot of such a parameter exactly if the parameter is a required property. -/
theorem path_slot_filled_iff_required {addComments : Bool} {setters : List Setter}
    (hsetters : builder.setters layout addComments = .ok setters) {method : HttpMethod}
    {defaultAny : Value} {sendable : Sendable}
    (hsendable : builder.sendable layout method defaultAny = .ok sendable) :
    (∃ anyArgument, sendable.builderTy = builder.type .changeAll anyArgument) ∧
    (∃ template, sendable.pathExpression = filledIn template (builder.pathArguments layout)) ∧
    ((builder.pathArguments layout).filterMap unwrapped? =
      builder.pathProperties.map fun property ↦ layout.dataPath ++ property.valueSlot) ∧
    ∀ property ∈ builder.pathProperties,
      (∃ parameter ∈ builder.parameters, property.unmarked = Property.ofParameter parameter ∧
        parameter.location = .path ∧
        (property ∈ builder.requiredProperties ↔ parameter.required = true)) ∧
      ((∀ calls : List Setter, (∀ setter ∈ calls, setter ∈ setters) → builder.Finishes calls →
          ∃ setter ∈ calls, layout.dataPath ++ property.valueSlot ∈ setter.assigned) ↔
        property ∈ builder.requiredProperties) := by
  obtain ⟨hty, hexpression⟩ := sendable_eq_ok hsendable
  refine ⟨hty, exists_filledIn hexpression, filterMap_unwrapped?_pathArguments builder layout,
    fun property hsent ↦ ?_⟩
  obtain ⟨hproperty, hkind⟩ := isParameter_of_mem_pathProperties hsent
  exact ⟨exists_parameter_of_mem_pathProperties hsent,
    filled_iff_required hsetters hproperty hkind⟩

end Builder

namespace Generator

open Builder

/-- An operation that finds a pet by two parameters in the path, of which the second one is not
required. -/
def findPet : Operation where
  params := [{ name := "ownerId", tyPath := "i64", required := true, location := .path },
    { name := "petId", tyPath := "i64", location := .path }]

/-- A pet with this operation. -/
def foundPet : ApiObject where
  name := "Pet"
  fields := [{ name := "name", tyPath := "String" }]
  paths := [("/owners/\x7bownerId\x7d/pets/\x7bpetId\x7d", { operations := [(.get, findPet)] })]

/-- The builder of the operation. -/
def findBuilder : Builder :=
  standard.operationBuilder foundPet 0 "/owners/\x7bownerId\x7d/pets/\x7bpetId\x7d" [] .get findPet

/-- Its layout. -/
def findLayout : Layout where
  needsContainer := true
  outer := [⟨"inner", "PetGetBuilderContainer", defaultInit⟩,
    ⟨"_param_owner_id", "core::marker::PhantomData<OwnerId>", phantomData⟩]
  container := [⟨"param_owner_id", "Option<i64>", "None"⟩, ⟨"param_pet_id", "Option<i64>", "None"⟩]

/-- Its setters. -/
def findSetters : List Setter :=
  [⟨"owner_id", [], "impl Into<i64>", "PetGetBuilder<crate::generics::OwnerIdExists>", transmute,
      ["self.inner.param_owner_id = Some(value.into());"]⟩,
    ⟨"pet_id", [], "impl Into<i64>", "Self", "self",
      ["self.inner.param_pet_id = Some(value.into());"]⟩]

theorem findBuilder_mem_builders : findBuilder ∈ standard.builders foundPet := by
  have hpaths : foundPet.paths = [("/owners/\x7bownerId\x7d/pets/\x7bpetId\x7d",
    { operations := [(.get, findPet)] })] := rfl
  exact operationBuilder_mem_builders standard hpaths (List.mem_singleton_self _)

/-- The parameter that is not required. -/
def findProperty : Property where
  name := "petId"
  ty := "i64"
  kind := .optionalParameter
  location := some .path

/-- What is generated for this builder. The first setter alone finishes it. -/
theorem findBuilder_generated :
    findBuilder.layout = .ok findLayout ∧
      findBuilder.setters findLayout false = .ok findSetters ∧
      (findBuilder.sendable findLayout .get (.text "V")).isOk = true ∧
      findBuilder.pathProperties.map (fun property ↦ findLayout.dataPath ++ property.valueSlot) =
        ["inner.param_owner_id", "inner.param_pet_id"] ∧
      (∀ property ∈ findBuilder.pathProperties,
        property ∈ findBuilder.requiredProperties ↔ property.name = "ownerId") ∧
      findProperty ∈ findBuilder.pathProperties ∧
      findBuilder.Finishes (findSetters.take 1) ∧
      ∀ setter ∈ findSetters.take 1,
        findLayout.dataPath ++ findProperty.valueSlot ∉ setter.assigned := by
  decide +kernel

/-- Both slots are unwrapped, and only the first one is certain to be filled. -/
theorem path_slot_filled_iff_required_foundPet :
    findBuilder.setters findLayout false = .ok findSetters ∧
      (∃ sendable, findBuilder.sendable findLayout .get (.text "V") = .ok sendable) ∧
      (findBuilder.pathArguments findLayout).filterMap unwrapped? =
        ["inner.param_owner_id", "inner.param_pet_id"] ∧
      ∀ property ∈ findBuilder.pathProperties,
        (∀ calls : List Setter, (∀ setter ∈ calls, setter ∈ findSetters) →
          findBuilder.Finishes calls →
          ∃ setter ∈ calls, findLayout.dataPath ++ property.valueSlot ∈ setter.assigned) ↔
        property.name = "ownerId" := by
  obtain ⟨_, hsetters, hok, hslots, hrequired, _, _, _⟩ := findBuilder_generated
  obtain ⟨sendable, hsendable⟩ := exists_of_isOk hok
  obtain ⟨_, _, hunwrapped, hfilled⟩ := path_slot_filled_iff_required hsetters hsendable
  refine ⟨hsetters, ⟨sendable, hsendable⟩, hunwrapped.trans hslots, fun property hproperty ↦ ?_⟩
  exact (hfilled property hproperty).2.trans (hrequired property hproperty)

/-- A parameter that is sent in the path but not required belongs to no required property. The
builder is finished without a call of its setter, and unwraps its empty slot when it is sent. -/
theorem exists_unfilled_path_slot :
    findBuilder ∈ standard.builders foundPet ∧ findBuilder.method = some .get ∧
      findBuilder.layout = .ok findLayout ∧
      findBuilder.setters findLayout false = .ok findSetters ∧
      (∃ sendable, findBuilder.sendable findLayout .get (.text "V") = .ok sendable) ∧
      ∃ property ∈ findBuilder.pathProperties, property ∉ findBuilder.requiredProperties ∧
        unwrapped? (pathArgumentOf findLayout property) =
          some (findLayout.dataPath ++ property.valueSlot) ∧
        ∃ calls, (∀ setter ∈ calls, setter ∈ findSetters) ∧ findBuilder.Finishes calls ∧
          ∀ setter ∈ calls, findLayout.dataPath ++ property.valueSlot ∉ setter.assigned := by
  obtain ⟨hlayout, hsetters, hok, _, hrequired, hsent, hfinished, hunfilled⟩ :=
    findBuilder_generated
  have hoptional : findProperty ∉ findBuilder.requiredProperties := fun hmem ↦
    absurd ((hrequired findProperty hsent).mp hmem) (by decide)
  exact ⟨findBuilder_mem_builders, rfl, hlayout, hsetters, exists_of_isOk hok, findProperty, hsent,
    hoptional, unwrapped?_pathArgumentOf .., findSetters.take 1, fun _ ↦ List.mem_of_mem_take,
    hfinished, hunfilled⟩

end Generator

end TypestateBuilders
