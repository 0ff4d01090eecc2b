import TypestateBuilders.Proofs.Setters
import TypestateBuilders.Proofs.Words

/-!
# What setters assign

A statement assigns what stands between `self.` and its first equality sign (`assigned?`). The
setter of a parameter assigns the slot of the parameter, and the setter of a field the field of the
body that has its identifier. The setter of a parameter that a field goes along with assigns both,
as long as it keeps the parameter's type (`Builder.keepsType`): a parameter that is a file, or an
array sent in a format, is taken in another type than the field has. Which field of the body a
setter writes is `Builder.writtenField?`, and `Builder.assigned_of_mem_setters` says that it assigns
this field and the parameter's slot, and nothing else.
-/

set_option autoImplicit false
set_option relaxedAutoImplicit false

namespace TypestateBuilders

open Naming Outcome

/-! ### Statements -/

/-- What a statement assigns, as the way to it from `self`. -/
def assigned? (statement : String) : Option String :=
  if "self.".toList.isPrefixOf statement.toList then
    (Text.cutAt " = ".toList (statement.toList.drop 5)).map fun parts ↦ String.ofList parts.1
  else none

/-- What a setter assigns, in order. -/
def Setter.assigned (setter : Setter) : List String :=
  setter.statements.filterMap assigned?

theorem assigned?_of_place {place rest : String} (h : ' ' ∉ place.toList)
    (hrest : " = ".toList.isPrefixOf rest.toList = true) :
    assigned? ("self." ++ place ++ rest) = some place := by
  obtain ⟨value, hvalue⟩ := List.isPrefixOf_iff_prefix.mp hrest
  have htext : ("self." ++ place ++ rest).toList =
      "self.".toList ++ (place.toList ++ " = ".toList ++ value) := by
    simp only [← hvalue, String.toList_append, List.append_assoc]
  rw [assigned?, htext, if_pos (List.isPrefixOf_iff_prefix.mpr (List.prefix_append ..))]
  have hdrop : ("self.".toList ++ (place.toList ++ " = ".toList ++ value)).drop 5 =
      place.toList ++ " = ".toList ++ value := rfl
  have hcut : Text.cutAt " = ".toList (place.toList ++ " = ".toList ++ value) =
      some (place.toList, value) := Text.cutAt_append_of_notMem h value
  rw [hdrop, hcut, Option.map_some, String.ofList_toList]

/-- A declaration of a variable assigns nothing that is found behind `self`. -/
theorem assigned?_let (ty : String) :
    assigned? ("let value: " ++ ty ++ " = value.into();") = none := by
  rw [assigned?, if_neg]
  rw [String.toList_append, String.toList_append]
  exact Bool.false_ne_true

/-! ### Places -/

theorem blank_notMem_of_identChars {text : List Char} (h : ∀ c ∈ text, isIdentChar c = true) :
    ' ' ∉ text :=
  fun hblank ↦ absurd (h ' ' hblank) (by decide)

theorem blank_notMem_dataPath (layout : Layout) : ' ' ∉ layout.dataPath.toList := by
  rw [Layout.dataPath]
  split <;> decide

/-- The place of a field of the body, from the slots of the data. -/
def bodyPlace (name : String) : String :=
  "body." ++ fieldIdent name

theorem blank_notMem_valuePlace (layout : Layout) (property : Property) :
    ' ' ∉ (layout.dataPath ++ property.valueSlot).toList := by
  rw [String.toList_append, List.mem_append, not_or, Property.valueSlot, String.toList_append,
    List.mem_append, not_or]
  exact ⟨blank_notMem_dataPath layout, by decide,
    blank_notMem_of_identChars isIdentChar_of_mem_convert⟩

theorem blank_notMem_bodyPlace (layout : Layout) (name : String) :
    ' ' ∉ (layout.dataPath ++ bodyPlace name).toList := by
  rw [String.toList_append, List.mem_append, not_or, bodyPlace, String.toList_append,
    List.mem_append, not_or]
  exact ⟨blank_notMem_dataPath layout, by decide,
    blank_notMem_of_identChars isIdentChar_of_mem_sanitize⟩

namespace Builder

/-! ### Setters -/

/-- Whether the setter of a parameter takes values of the parameter's type: the parameter is no
file, and its type is the one that is written into requests. -/
def keepsType (builder : Builder) (property : Property) : Bool :=
  !property.needsFile &&
    match wrapDelimited builder.helpers property.ty property.delimiting with
    | .ok ty => ty = property.ty
    | .error _ => false

theorem keepsType_iff {builder : Builder} {property : Property} :
    builder.keepsType property = true ↔ property.needsFile = false ∧
      wrapDelimited builder.helpers property.ty property.delimiting = .ok property.ty := by
  rw [keepsType, Bool.and_eq_true, Bool.not_eq_true']
  refine and_congr_right fun _ ↦ ?_
  cases wrapDelimited builder.helpers property.ty property.delimiting with
  | ok ty => rw [decide_eq_true_iff, Except.ok.injEq]
  | error fault => exact iff_of_false Bool.false_ne_true fun h ↦ nomatch h

/-- What the setter of a parameter takes and does: for a file, for an array that is sent in a
format, and for a parameter that keeps its type, with or without a field that goes along. -/
theorem parameterSetter_eq_ok {builder : Builder} {data : String} {property : Property}
    {body : SetterBody} (h : builder.parameterSetter data property = .ok body) :
    (property.needsFile = true ∧
      body = ⟨pathArgument, [data ++ property.valueSlot ++ " = Some(value.as_ref().into());"]⟩) ∨
    (property.needsFile = false ∧ ∃ ty,
      wrapDelimited builder.helpers property.ty property.delimiting = .ok ty ∧ ty ≠ property.ty ∧
        body = ⟨ty, [data ++ property.valueSlot ++ " = Some(value);"]⟩) ∨
    (builder.keepsType property = true ∧
      ((∃ field, builder.mergedField? property = some field ∧
          body = ⟨intoArgument property.ty, ["let value: " ++ property.ty ++ " = value.into();",
            data ++ property.valueSlot ++ " = Some(value.clone());",
            bodySlot data field ++ " = " ++ field.store "value" ++ ";"]⟩) ∨
        (builder.mergedField? property = none ∧ body = ⟨intoArgument property.ty,
          [data ++ property.valueSlot ++ " = Some(value.into());"]⟩))) := by
  rw [parameterSetter] at h
  by_cases hfile : property.needsFile = true
  · rw [if_pos hfile] at h
    exact Or.inl ⟨hfile, (Except.ok.inj h).symm⟩
  · obtain ⟨ty, hty, rfl⟩ := map_eq_ok.mp ((if_neg hfile).symm.trans h)
    rw [Bool.not_eq_true] at hfile
    refine Or.inr ?_
    by_cases hsame : ty = property.ty
    · subst hsame
      refine Or.inr ⟨keepsType_iff.mpr ⟨hfile, hty⟩, ?_⟩
      rw [if_neg (not_not.mpr rfl)]
      cases builder.mergedField? property with
      | some field => exact Or.inl ⟨field, rfl, rfl⟩
      | none => exact Or.inr ⟨rfl, rfl⟩
    · exact Or.inl ⟨hfile, ty, hty, hsame, if_pos hsame⟩

/-- The field of the body that the setter of a property writes. -/
def writtenField? (builder : Builder) (property : Property) : Option ObjectField :=
  if property.kind.isParameter then
    if builder.keepsType property then builder.mergedField? property else none
  else builder.objectField? property.name

/-- What the setter of a property assigns. -/
def placesOf (builder : Builder) (layout : Layout) (property : Property) : List String :=
  (if property.kind.isParameter then [layout.dataPath ++ property.valueSlot] else []) ++
    (builder.writtenField? property).toList.map fun field ↦
      layout.dataPath ++ bodyPlace field.name

variable {builder : Builder} {layout : Layout} {property : Property} {body : SetterBody}

theorem assigned?_valueSlot (layout : Layout) (property : Property) {rest : String}
    (hrest : " = ".toList.isPrefixOf rest.toList = true) :
    assigned? ("self." ++ layout.dataPath ++ property.valueSlot ++ rest) =
      some (layout.dataPath ++ property.valueSlot) := by
  have hplace : "self." ++ layout.dataPath ++ property.valueSlot =
      "self." ++ (layout.dataPath ++ property.valueSlot) := String.append_assoc
  rw [hplace]
  exact assigned?_of_place (blank_notMem_valuePlace layout property) hrest

theorem assigned?_bodySlot (layout : Layout) (field : ObjectField) (value : String) :
    assigned? (bodySlot ("self." ++ layout.dataPath) field ++ " = " ++ value ++ ";") =
      some (layout.dataPath ++ bodyPlace field.name) := by
  have hplace : bodySlot ("self." ++ layout.dataPath) field ++ " = " ++ value ++ ";" =
      "self." ++ (layout.dataPath ++ bodyPlace field.name) ++ (" = " ++ (value ++ ";")) := by
    simp only [bodySlot, bodyPlace, String.append_assoc]
  rw [hplace]
  refine assigned?_of_place (blank_notMem_bodyPlace layout field.name) ?_
  rw [String.toList_append]
  exact List.isPrefixOf_iff_prefix.mpr (List.prefix_append ..)

/-- The setter of a parameter assigns the slot of the parameter, and the field that goes along with
it if it keeps the parameter's type. -/
theorem assigned_of_parameterSetter (hkind : property.kind.isParameter = true)
    (h : builder.parameterSetter ("self." ++ layout.dataPath) property = .ok body) :
    body.statements.filterMap assigned? = builder.placesOf layout property := by
  rw [placesOf, writtenField?, if_pos hkind, if_pos hkind]
  rcases parameterSetter_eq_ok h with
    ⟨hfile, rfl⟩ | ⟨_, ty, hty, hother, rfl⟩ | ⟨hkeeps, ⟨field, hfield, rfl⟩ | ⟨hfield, rfl⟩⟩
  · have hslot : assigned? ("self." ++ layout.dataPath ++ property.valueSlot ++
        " = Some(value.as_ref().into());") = _ := assigned?_valueSlot layout property rfl
    have hkeeps : ¬ builder.keepsType property = true := fun hkeeps ↦ by
      rw [(keepsType_iff.mp hkeeps).1] at hfile
      cases hfile
    rw [List.filterMap_cons_some hslot, if_neg hkeeps]
    rfl
  · have hslot : assigned? ("self." ++ layout.dataPath ++ property.valueSlot ++
        " = Some(value);") = _ := assigned?_valueSlot layout property rfl
    have hkeeps : ¬ builder.keepsType property = true := fun hkeeps ↦
      hother (Except.ok.inj (hty.symm.trans (keepsType_iff.mp hkeeps).2))
    rw [List.filterMap_cons_some hslot, if_neg hkeeps]
    rfl
  · have hslot : assigned? ("self." ++ layout.dataPath ++ property.valueSlot ++
        " = Some(value.clone());") = _ := assigned?_valueSlot layout property rfl
    have hbody := assigned?_bodySlot layout field (field.store "value")
    rw [List.filterMap_cons_none (assigned?_let property.ty), List.filterMap_cons_some hslot,
      List.filterMap_cons_some hbody, if_pos hkeeps, hfield]
    rfl
  · have hslot : assigned? ("self." ++ layout.dataPath ++ property.valueSlot ++
        " = Some(value.into());") = _ := assigned?_valueSlot layout property rfl
    rw [List.filterMap_cons_some hslot, if_pos hkeeps, hfield]
    rfl

/-- The setter of a field assigns the field of the body that has its identifier. -/
theorem assigned_of_fieldSetter {field : ObjectField}
    (h : builder.fieldSetter ("self." ++ layout.dataPath) field = .ok body) :
    body.statements.filterMap assigned? = [layout.dataPath ++ bodyPlace field.name] := by
  obtain ⟨⟨argTy, value⟩, _, rfl⟩ := map_eq_ok.mp h
  exact List.filterMap_cons_some (assigned?_bodySlot layout field (field.store value))

theorem assigned_of_setterBody?
    (h : builder.setterBody? ("self." ++ layout.dataPath) property = .ok (some body)) :
    body.statements.filterMap assigned? = builder.placesOf layout property := by
  rw [setterBody?] at h
  by_cases hkind : property.kind.isParameter = true
  · rw [if_pos hkind] at h
    obtain ⟨_, hbody, hsome⟩ := map_eq_ok.mp h
    obtain rfl := Option.some.inj hsome
    exact assigned_of_parameterSetter hkind hbody
  · rw [if_neg hkind] at h
    by_cases hrequired : builder.bodyRequired = true
    · rw [if_pos hrequired] at h
      rw [placesOf, writtenField?, if_neg hkind, if_neg hkind]
      cases hfield : builder.objectField? property.name with
      | some field =>
        rw [hfield] at h
        obtain ⟨_, hbody, hsome⟩ := map_eq_ok.mp h
        obtain rfl := Option.some.inj hsome
        exact assigned_of_fieldSetter hbody
      | none =>
        rw [hfield] at h
        cases h
    · rw [if_neg hrequired] at h
      cases h

/-- Every setter is that of a property, and assigns what belongs to this property. -/
theorem assigned_of_mem_setters {addComments : Bool} {setters : List Setter}
    (h : builder.setters layout addComments = .ok setters) {setter : Setter}
    (hsetter : setter ∈ setters) :
    ∃ property ∈ builder.properties, setter.name = property.key ∧
      setter.assigned = builder.placesOf layout property ∧
      ∃ body, builder.setterBody? ("self." ++ layout.dataPath) property = .ok (some body) ∧
        setter.argTy = body.argTy := by
  obtain ⟨property, hproperty, docLines, body, hbody, rfl⟩ := exists_body_of_mem_setters h hsetter
  refine ⟨property, hproperty, name_setterOf .., ?_, body, hbody, rfl⟩
  rw [Setter.assigned, setterOf]
  exact assigned_of_setterBody? hbody

/-- The setter that has the identifier of a property is the property's. -/
theorem assigned_of_name {addComments : Bool} {setters : List Setter}
    (h : builder.setters layout addComments = .ok setters) {setter : Setter}
    (hsetter : setter ∈ setters) (hproperty : property ∈ builder.properties)
    (hname : setter.name = property.key) :
    setter.assigned = builder.placesOf layout property ∧
      ∃ body, builder.setterBody? ("self." ++ layout.dataPath) property = .ok (some body) ∧
        setter.argTy = body.argTy := by
  obtain ⟨other, hother, hkey, hassigned⟩ := assigned_of_mem_setters h hsetter
  rwa [eq_of_key_eq hother hproperty (hkey.symm.trans hname)] at hassigned

end Builder

end TypestateBuilders
