import Mathlib.Data.List.TakeWhile
import TypestateBuilders.Generator.Run
import TypestateBuilders.Proofs.Setters
import TypestateBuilders.Proofs.Strictness

/-!
# The owners of identifiers

Where fields of an object share an identifier, the first of them owns it (`owners`). Three searches
look for owners: the struct of the object declares one field per identifier, unification keeps the
first declaration of every identifier, and the setter of a property looks for the field that it
writes. All of them find the same fields. The struct declares the owners in order
(`Generator.outcome_declareFields_of_drop`), a builder keeps those owners as properties that no
parameter stands in front of (`Builder.fieldProperties_eq`), and the setter of such a property finds
its owner (`Builder.objectField?_of_mem_owners`). What the owner is wrapped in is written down once
(`ObjectField.wrappers`): its declared type and the value that is stored are wrapped alike.

A strict policy refuses both the struct and the builder of an object at the first field whose
identifier an earlier one has (`FirstRepetition`). The struct is refused unless something in front
of that field cannot be declared, and the builder unless the children of some field up to there are
unknown (`Generator.field_owners_agree`).
-/

set_option autoImplicit false
set_option relaxedAutoImplicit false

namespace TypestateBuilders

open Naming Outcome Occurrence

/-! ### Wrappers -/

/-- What a field is wrapped in. -/
inductive Wrapper
  /-- A pointer. -/
  | pointer
  /-- An option. -/
  | option
  deriving DecidableEq, Repr

namespace Wrapper

/-- A type in a wrapper. -/
def wrapType : Wrapper → String → String
  | pointer, ty => "Box<" ++ ty ++ ">"
  | option, ty => "Option<" ++ ty ++ ">"

/-- A value in a wrapper. -/
def wrapValue : Wrapper → String → String
  | pointer, value => "Box::new(" ++ value ++ ")"
  | option, value => "Some(" ++ value ++ ")"

end Wrapper

namespace ObjectField

/-- The identifier of a field. -/
def ident (field : ObjectField) : String :=
  fieldIdent field.name

/-- What a field is wrapped in, from the inside out. -/
def wrappers (field : ObjectField) : List Wrapper :=
  (if field.boxed then [.pointer] else []) ++ if field.isRequired then [] else [.option]

/-- A stored value is wrapped as its field is. -/
theorem store_eq (field : ObjectField) (value : String) :
    field.store value =
      field.wrappers.foldl (fun inner wrapper ↦ wrapper.wrapValue inner) value := by
  unfold store wrappers
  cases field.boxed <;> cases field.isRequired <;> rfl

end ObjectField

namespace Generator

variable {generator : Generator} {field : ObjectField} {declaration : FieldDeclaration}

/-- A field is declared under its identifier. -/
theorem name_of_declareField (h : generator.declareField field = .ok declaration) :
    declaration.name = fieldIdent field.name := by
  obtain ⟨_, _, h⟩ := bind_eq_ok.mp h
  obtain ⟨_, _, h⟩ := bind_eq_ok.mp h
  rw [← Except.ok.inj h]

/-- A declared type is wrapped as its field is. -/
theorem ty_of_declareField (h : generator.declareField field = .ok declaration) :
    ∃ plain, fieldType field.tyPath field.needsAny = .ok plain ∧
      declaration.ty =
        field.wrappers.foldl (fun inner wrapper ↦ wrapper.wrapType inner) plain := by
  obtain ⟨plain, hplain, hrest⟩ := bind_eq_ok.mp h
  obtain ⟨_, _, hdeclaration⟩ := bind_eq_ok.mp hrest
  refine ⟨plain, mapError_eq_ok.mp hplain, ?_⟩
  rw [← Except.ok.inj hdeclaration]
  unfold ObjectField.wrappers
  cases field.boxed <;> cases field.isRequired <;> rfl

end Generator

/-- A field that is declared adds its identifier to those that are. -/
theorem mem_keys_declared_iff {field : ObjectField} {declared : List (String × String)}
    {ident : String} :
    ident ∈ Keyed.keys ((fieldIdent field.name, field.name) :: declared) ↔
      ident = field.ident ∨ ident ∈ Keyed.keys declared := by
  rw [Keyed.keys, List.map_cons, List.mem_cons, ObjectField.ident, Keyed.keys]

/-! ### Owners -/

/-- The fields that own their identifiers: the first ones that have them. -/
def owners (fields : List ObjectField) : List ObjectField :=
  firsts ObjectField.ident fields

namespace Generator

variable {generator : Generator}

/-- A lenient policy declares the owners of the identifiers that are not declared yet. -/
theorem outcome_declareFields_of_drop (hdrop : generator.collisionPolicy = .drop) (object : String)
    (declared : List (String × String)) (fields : List ObjectField) :
    (generator.declareFields object declared fields).outcome =
      ((owners fields).filter fun field ↦ field.ident ∉ Keyed.keys declared).mapM
        generator.declareField := by
  induction fields generalizing declared with
  | nil => rfl
  | cons field rest ih =>
    rw [owners, firsts_cons]
    cases hfound : Keyed.get? (fieldIdent field.name) declared with
    | some kept =>
      have hdeclared : field.ident ∈ Keyed.keys declared := Keyed.mem_keys_of_get? hfound
      rw [outcome_declareFields_of_declared generator hfound, hdrop,
        List.filter_cons_of_neg (by simpa using hdeclared), List.filter_filter]
      refine (ih declared).trans (congrArg _ (List.filter_congr fun other _ ↦ ?_))
      rw [← Bool.decide_and, decide_eq_decide, iff_self_and]
      intro hnew hsame
      rw [hsame] at hnew
      exact hnew hdeclared
    | none =>
      have hnew : field.ident ∉ Keyed.keys declared := Keyed.get?_eq_none_iff.mp hfound
      have hkeys : ((owners rest).filter fun other ↦
            other.ident ∉ Keyed.keys ((fieldIdent field.name, field.name) :: declared)) =
          (owners rest).filter fun other ↦
            decide (other.ident ∉ Keyed.keys declared) && decide (other.ident ≠ field.ident) := by
        refine List.filter_congr fun other _ ↦ ?_
        rw [← Bool.decide_and, decide_eq_decide, mem_keys_declared_iff, not_or, and_comm]
      rw [outcome_declareFields_of_new generator hfound, ih, hkeys,
        List.filter_cons_of_pos (by simpa using hnew), List.mapM_cons, List.filter_filter]
      rfl

/-- The struct of an object declares the owners of identifiers, in order. -/
theorem outcome_declareFields_eq (hdrop : generator.collisionPolicy = .drop) (object : String)
    (fields : List ObjectField) :
    (generator.declareFields object [] fields).outcome =
      (owners fields).mapM generator.declareField := by
  rw [outcome_declareFields_of_drop hdrop, List.filter_eq_self.mpr fun field _ ↦ ?_]
  exact decide_eq_true List.not_mem_nil

section

variable (hdrop : generator.collisionPolicy = .drop) {object : String} {fields : List ObjectField}
  {declarations : List FieldDeclaration}
  (h : (generator.declareFields object [] fields).outcome = .ok declarations)

include hdrop h

/-- A struct names its fields as their owners are. -/
theorem names_of_declareFields :
    (owners fields).map ObjectField.ident = declarations.map FieldDeclaration.name := by
  rw [outcome_declareFields_eq hdrop] at h
  exact map_eq_of_forall₂
    ((mapM_eq_ok.mp h).imp fun _ _ hfield ↦ (name_of_declareField hfield).symm)

/-- An owner is what a struct declares under its identifier. -/
theorem exists_declaration_of_owner {field : ObjectField} (hfield : field ∈ owners fields) :
    ∃ declaration ∈ declarations, generator.declareField field = .ok declaration ∧
      ∀ other ∈ declarations, other.name = field.ident → other = declaration := by
  have hnames := names_of_declareFields hdrop h
  rw [outcome_declareFields_eq hdrop] at h
  obtain ⟨declaration, hmem, hdeclared⟩ := exists_answer h hfield
  refine ⟨declaration, hmem, hdeclared, fun other hother hname ↦ ?_⟩
  have hnodup : (declarations.map FieldDeclaration.name).Nodup :=
    hnames ▸ nodup_keys_firsts ObjectField.ident fields
  exact List.inj_on_of_nodup_map hnodup hother hmem
    (hname.trans (name_of_declareField hdeclared).symm)

end

end Generator

namespace Builder

open Unification

variable {builder : Builder}

/-- The fields of a builder that own an identifier that no parameter has. -/
def fieldOwners (builder : Builder) : List ObjectField :=
  (owners builder.fields).filter fun field ↦
    ∀ parameter ∈ builder.parameters, fieldIdent parameter.name ≠ field.ident

theorem first?_parameterProperties_eq_none_iff {key : String} :
    first? Property.key builder.parameterProperties key = none ↔
      ∀ parameter ∈ builder.parameters, fieldIdent parameter.name ≠ key := by
  rw [parameterProperties_eq, first?_eq_none_iff, List.forall_mem_map]
  have hkey : ∀ parameter, (Property.ofParameter
      (latest Parameter.name builder.parameters parameter)).key = fieldIdent parameter.name :=
    fun parameter ↦ congrArg fieldIdent (key_latest Parameter.name _ parameter)
  simp only [hkey]
  constructor
  · intro h parameter hparameter
    cases hfirst : first? Parameter.name builder.parameters parameter.name with
    | none => exact absurd rfl (first?_eq_none_iff.mp hfirst parameter hparameter)
    | some first =>
      have hmem : first ∈ firsts Parameter.name builder.parameters :=
        mem_of_first? (by rwa [first?_firsts])
      exact key_of_first? hfirst ▸ h first hmem
  · exact fun h parameter hparameter ↦ h parameter (firsts_subset Parameter.name _ hparameter)

/-- The first declarations of a builder: its parameters, and then the owners of the identifiers that
no parameter has. -/
theorem firsts_declarations (builder : Builder) :
    firsts Property.key builder.declarations =
      firsts Property.key builder.parameterProperties ++
        builder.fieldOwners.map (Property.ofField builder.bodyRequired) := by
  rw [← candidates_eq_declarations, candidates, firsts_append, firsts_map, List.filter_map]
  refine congrArg _ (congrArg _ (List.filter_congr fun field _ ↦ ?_))
  rw [Function.comp_apply, Bool.eq_iff_iff, Option.isNone_iff_eq_none,
    first?_parameterProperties_eq_none_iff, decide_eq_true_iff]
  rfl

/-- The properties of a builder that come from fields are those of the owners of identifiers, in
order, where no parameter stands in front of them. -/
theorem fieldProperties_eq (builder : Builder) :
    (builder.properties.filter fun property ↦ property.kind.isField) =
      builder.fieldOwners.map (Property.ofField builder.bodyRequired) := by
  have hmarked : (fun property : Property ↦ property.kind.isField) ∘ marked builder.declarations =
      fun property ↦ property.kind.isField := rfl
  have hparameters : (firsts Property.key builder.parameterProperties).filter
      (fun property ↦ property.kind.isField) = [] := by
    refine List.filter_eq_nil_iff.mpr fun property hproperty ↦ ?_
    have hmem := firsts_subset Property.key _ hproperty
    rw [parameterProperties_eq] at hmem
    obtain ⟨parameter, _, rfl⟩ := List.mem_map.mp hmem
    simp [PropertyKind.isField, Property.isParameter_ofParameter]
  have hfields : ∀ property ∈ builder.fieldOwners.map (Property.ofField builder.bodyRequired),
      property.kind.isField = true :=
    List.forall_mem_map.mpr fun field _ ↦ Property.isField_ofField _ field
  rw [properties_eq_firsts, List.filter_map, hmarked, firsts_declarations, List.filter_append,
    hparameters, List.nil_append, List.filter_eq_self.mpr hfields, List.map_map]
  exact List.map_congr_left fun field _ ↦ marked_of_isField (Property.isField_ofField _ field) rfl _

/-- Without parameters the properties of a builder are those of the owners of identifiers. -/
theorem properties_of_no_parameters (h : builder.parameters = []) :
    builder.properties = (owners builder.fields).map (Property.ofField builder.bodyRequired) := by
  have hall : ∀ property ∈ builder.properties, property.kind.isField = true := by
    intro property hproperty
    rcases origin_of_mem_properties hproperty with ⟨_, hparameter, _⟩ | ⟨field, _, horigin⟩
    · exact absurd (h ▸ hparameter) List.not_mem_nil
    · rw [← Property.kind_unmarked, horigin]
      exact Property.isField_ofField _ field
  have howners : builder.fieldOwners = owners builder.fields := by
    refine List.filter_eq_self.mpr fun field _ ↦ decide_eq_true fun parameter hparameter ↦ ?_
    exact absurd (h ▸ hparameter) List.not_mem_nil
  rw [← List.filter_eq_self.mpr hall, fieldProperties_eq, howners]

theorem objectField?_of_mem_owners {field : ObjectField} (h : field ∈ owners builder.fields) :
    builder.objectField? field.name = some field := by
  have hfound := first?_of_mem_firsts ObjectField.ident h
  rw [first?] at hfound
  rw [objectField?, ← hfound]
  rfl

/-- What the setter of a field that owns its identifier takes and does. -/
theorem setterBody?_of_owner (hbody : builder.bodyRequired = true) {field : ObjectField}
    (h : field ∈ owners builder.fields) (data : String) :
    builder.setterBody? data (Property.ofField builder.bodyRequired field) =
      (builder.fieldArgument field).map fun (argTy, value) ↦
        some ⟨argTy, [data ++ "body." ++ field.ident ++ " = " ++
          field.wrappers.foldl (fun inner wrapper ↦ wrapper.wrapValue inner) value ++ ";"]⟩ := by
  have hname : (Property.ofField builder.bodyRequired field).name = field.name := rfl
  have hkind : ¬ (Property.ofField builder.bodyRequired field).kind.isParameter = true := by
    simpa [PropertyKind.isField] using Property.isField_ofField builder.bodyRequired field
  rw [setterBody?, if_neg hkind, if_pos hbody, hname, objectField?_of_mem_owners h]
  cases hargument : builder.fieldArgument field with
  | error fault => simp [fieldSetter, hargument, Except.map]
  | ok argument => simp [fieldSetter, hargument, Except.map, ObjectField.store_eq, bodySlot,
      ObjectField.ident]

end Builder

/-! ### Refusals -/

theorem prefix_takeWhile_iff {α : Type} {test : α → Bool} {front items : List α} :
    front <+: items.takeWhile test ↔ front <+: items ∧ ∀ item ∈ front, test item = true := by
  constructor
  · intro h
    exact ⟨h.trans (List.takeWhile_prefix test), fun item hitem ↦
      List.mem_takeWhile_imp (h.subset hitem)⟩
  · rintro ⟨⟨rest, rfl⟩, hall⟩
    rw [List.takeWhile_append_of_pos hall]
    exact List.prefix_append _ _

namespace Generator

variable {generator : Generator}

theorem not_refuses_comment (description : GivenText) :
    ¬ Refuses (generator.comment description) := by
  unfold comment
  split
  · cases description with
    | absent => exact not_refuses_ok _
    | text characters => exact not_refuses_ok _
    | other kind shown truth => exact refuses_error_iff.not.mpr Bool.false_ne_true
  · exact not_refuses_ok _

theorem not_refuses_declareField (field : ObjectField) :
    ¬ Refuses (generator.declareField field) := by
  have htype : ¬ Refuses ((fieldType field.tyPath field.needsAny).mapError Failure.type) := by
    cases fieldType field.tyPath field.needsAny with
    | error fault => exact refuses_error_iff.not.mpr Bool.false_ne_true
    | ok plain => exact not_refuses_ok _
  unfold declareField
  rw [refuses_bind_iff]
  rintro (hplain | ⟨_, _, hrest⟩)
  · exact htype hplain
  · rcases refuses_bind_iff.mp hrest with hcomment | ⟨_, _, hdeclaration⟩
    · exact not_refuses_comment _ hcomment
    · exact not_refuses_ok _ hdeclaration

/-- Whether every field in a list can be declared. -/
def Declares (generator : Generator) (fields : List ObjectField) : Prop :=
  ∀ field ∈ fields, ∃ declaration, generator.declareField field = .ok declaration

/-- A strict policy refuses the first field whose identifier is declared already, where everything
in front of it can be declared. -/
theorem refuses_declareFields_iff (hrefuse : generator.collisionPolicy = .refuse) (object : String)
    (declared : List (String × String)) (fields : List ObjectField) :
    Refuses (generator.declareFields object declared fields).outcome ↔
      ∃ front again, front ++ [again] <+: fields ∧ AreNew declared front ∧
        (again.ident ∈ Keyed.keys declared ∨ again.ident ∈ front.map ObjectField.ident) ∧
        generator.Declares front := by
  induction fields generalizing declared with
  | nil =>
    refine iff_of_false (not_refuses_ok []) ?_
    rintro ⟨front, again, hstart, _⟩
    simpa using List.prefix_nil.mp hstart
  | cons field rest ih =>
    cases hfound : Keyed.get? (fieldIdent field.name) declared with
    | some kept =>
      have hdeclared : field.ident ∈ Keyed.keys declared := Keyed.mem_keys_of_get? hfound
      rw [outcome_declareFields_of_declared generator hfound, hrefuse]
      refine iff_of_true (refuses_error_iff.mpr rfl) ⟨[], field, ?_, ?_, Or.inl hdeclared, nofun⟩
      · exact List.cons_prefix_cons.mpr ⟨rfl, List.nil_prefix⟩
      · exact ⟨List.nodup_nil, nofun⟩
    | none =>
      have hnew : field.ident ∉ Keyed.keys declared := Keyed.get?_eq_none_iff.mp hfound
      have hrest : ∀ declaration, Refuses
          ((generator.declareFields object ((fieldIdent field.name, field.name) :: declared)
            rest).outcome >>= fun others ↦ pure (declaration :: others)) ↔
          Refuses (generator.declareFields object ((fieldIdent field.name, field.name) :: declared)
            rest).outcome := by
        intro declaration
        rw [refuses_bind_iff, or_iff_left]
        exact fun ⟨_, _, hpure⟩ ↦ not_refuses_ok _ hpure
      have hshift : ∀ (again : ObjectField) (front : List ObjectField),
          (again.ident ∈ Keyed.keys ((fieldIdent field.name, field.name) :: declared) ∨
            again.ident ∈ front.map ObjectField.ident) ↔
          (again.ident ∈ Keyed.keys declared ∨
            again.ident ∈ (field :: front).map ObjectField.ident) := by
        intro again front
        rw [mem_keys_declared_iff, List.map_cons, List.mem_cons, or_assoc, or_left_comm]
      rw [outcome_declareFields_of_new generator hfound, refuses_bind_iff,
        or_iff_right (not_refuses_declareField field)]
      simp only [hrest, ih]
      constructor
      · rintro ⟨declaration, hdeclaration, front, again, hstart, hfront, hagain, hdeclares⟩
        refine ⟨field :: front, again, List.cons_prefix_cons.mpr ⟨rfl, hstart⟩,
          areNew_cons.mpr ⟨hnew, hfront⟩, (hshift again front).mp hagain, ?_⟩
        exact List.forall_mem_cons.mpr ⟨⟨declaration, hdeclaration⟩, hdeclares⟩
      · rintro ⟨front, again, hstart, hfront, hagain, hdeclares⟩
        cases front with
        | nil =>
          obtain ⟨rfl, _⟩ := List.cons_prefix_cons.mp hstart
          exact absurd hagain (by simpa using hnew)
        | cons first front =>
          obtain ⟨rfl, hlater⟩ := List.cons_prefix_cons.mp hstart
          obtain ⟨⟨declaration, hdeclaration⟩, hdeclares⟩ := List.forall_mem_cons.mp hdeclares
          exact ⟨declaration, hdeclaration, front, again, hlater, (areNew_cons.mp hfront).2,
            (hshift again front).mpr hagain, hdeclares⟩

/-- Whether a field is the first one that has the identifier of a field in front of it, behind the
fields `front`. -/
def FirstRepetition (fields front : List ObjectField) (again : ObjectField) : Prop :=
  front ++ [again] <+: fields ∧ (front.map ObjectField.ident).Nodup ∧
    again.ident ∈ front.map ObjectField.ident

/-- A strict policy refuses the struct of an object where an identifier is repeated, if everything
in front of it can be written. -/
theorem refuses_renderObject_iff (hrefuse : generator.collisionPolicy = .refuse)
    (object : ApiObject) :
    Refuses (generator.renderObject object).outcome ↔
      (∃ docLines, generator.comment object.description = .ok docLines) ∧
        ∃ front again, FirstRepetition object.fields front again ∧ generator.Declares front := by
  have hfill : ∀ docLines,
      Refuses ((generator.declareFields object.name [] object.fields).outcome >>=
        fun fields ↦ fill .object
          [("name", .text object.name), ("generics", .text (Builder.anyGeneric object.needsAny)),
            ("derives", generator.settings.derives), ("doc_lines", .ofTexts docLines),
            ("fields", .list (fields.map FieldDeclaration.value))]) ↔
      Refuses (generator.declareFields object.name [] object.fields).outcome := by
    intro docLines
    rw [refuses_bind_iff, or_iff_left]
    exact fun ⟨_, _, hfill⟩ ↦ not_refuses_fill _ _ hfill
  have hfields : Refuses (generator.declareFields object.name [] object.fields).outcome ↔
      ∃ front again, FirstRepetition object.fields front again ∧ generator.Declares front := by
    rw [refuses_declareFields_iff hrefuse]
    refine exists_congr fun front ↦ exists_congr fun again ↦ ?_
    constructor
    · rintro ⟨hstart, hfront, hagain, hdeclares⟩
      exact ⟨⟨hstart, hfront.1, hagain.resolve_left List.not_mem_nil⟩, hdeclares⟩
    · rintro ⟨⟨hstart, hfront, hagain⟩, hdeclares⟩
      exact ⟨hstart, ⟨hfront, fun _ _ ↦ List.not_mem_nil⟩, Or.inr hagain, hdeclares⟩
  simp only [renderObject, Logged.outcome_bind, Logged.outcome_lift]
  rw [refuses_bind_iff, or_iff_right (not_refuses_comment _), ← hfields]
  simp only [hfill, exists_and_right]

/-- A strict policy refuses the builder of an object where an identifier is repeated, if the
children of all fields up to there are known. -/
theorem refuses_unify_objectBuilder_iff (hrefuse : generator.collisionPolicy = .refuse)
    (object : ApiObject) :
    Refuses (generator.objectBuilder object).unify.outcome ↔
      ∃ front again, FirstRepetition object.fields front again ∧
        ∀ field ∈ front ++ [again], field.hasKnownChildren = true := by
  have hpolicy : (generator.objectBuilder object).collisionPolicy = .refuse := hrefuse
  have hparameters : (generator.objectBuilder object).examined.parameters = [] := rfl
  rw [Builder.outcome_unify, Builder.refuses_accepted_iff, and_iff_right hpolicy, ne_eq,
    Builder.collisions_eq_nil_iff hparameters, not_nodup_keys_iff]
  refine exists_congr fun front ↦ exists_congr fun again ↦ ?_
  show front ++ [again] <+: object.fields.takeWhile ObjectField.hasKnownChildren ∧ _ ∧ _ ↔ _
  rw [prefix_takeWhile_iff]
  constructor
  · rintro ⟨⟨hstart, hknown⟩, hrepeats⟩
    exact ⟨⟨hstart, hrepeats⟩, hknown⟩
  · rintro ⟨⟨hstart, hrepeats⟩, hknown⟩
    exact ⟨⟨hstart, hknown⟩, hrepeats⟩

/-! ### All searches agree -/

/-- A field is what a property of a builder stands for in every respect: the property was made from
it, the setter of the property looks it up, and the struct of the object declares it, and nothing
else, under the property's identifier. The setter wraps the value as the struct wraps the type. -/
structure Owns (generator : Generator) (object : ApiObject) (builder : Builder)
    (property : Property) (field : ObjectField) : Prop where
  /-- The field is the first one that has its identifier. -/
  first : field ∈ owners object.fields
  /-- The property was made from the field. -/
  origin : property = Property.ofField true field
  /-- The field is found under the name of the property. -/
  found : builder.objectField? property.name = some field
  /-- The struct declares the field under the identifier of the property. -/
  declared : ∀ declarations,
    (generator.declareFields object.name [] object.fields).outcome = .ok declarations →
    ∃ declaration ∈ declarations, generator.declareField field = .ok declaration ∧
      declaration.name = property.key ∧
      (∃ plain, fieldType field.tyPath field.needsAny = .ok plain ∧ declaration.ty =
        field.wrappers.foldl (fun inner wrapper ↦ wrapper.wrapType inner) plain) ∧
      ∀ other ∈ declarations, other.name = property.key → other = declaration
  /-- The setter of the property stores a value for the field. -/
  stored : ∀ layout addComments setters, builder.setters layout addComments = .ok setters →
    ∃ setter ∈ setters, setter.name = property.key ∧
      ∃ argTy value, builder.fieldArgument field = .ok (argTy, value) ∧ setter.argTy = argTy ∧
        setter.statements = ["self." ++ layout.dataPath ++ "body." ++ property.key ++ " = " ++
          field.wrappers.foldl (fun inner wrapper ↦ wrapper.wrapValue inner) value ++ ";"]

theorem exists_owner (hdrop : generator.collisionPolicy = .drop) {object : ApiObject}
    {builder : Builder} (hbuilder : builder ∈ generator.builders object)
    (hbody : builder.bodyRequired = true) {property : Property}
    (hproperty : property ∈ builder.properties) (hkind : property.kind.isParameter = false) :
    ∃ field, Owns generator object builder property field := by
  have hfields := fields_of_mem_builders hbuilder
  have hmem : property ∈ builder.properties.filter fun property ↦ property.kind.isField :=
    List.mem_filter.mpr ⟨hproperty, by simp [PropertyKind.isField, hkind]⟩
  rw [Builder.fieldProperties_eq] at hmem
  obtain ⟨field, hfield, rfl⟩ := List.mem_map.mp hmem
  have howner : field ∈ owners builder.fields := List.mem_of_mem_filter hfield
  refine ⟨field, hfields ▸ howner, by rw [hbody], Builder.objectField?_of_mem_owners howner, ?_, ?_⟩
  · intro declarations hdeclarations
    obtain ⟨declaration, hmem, hdeclared, honly⟩ :=
      exists_declaration_of_owner hdrop hdeclarations (hfields ▸ howner)
    exact ⟨declaration, hmem, hdeclared, name_of_declareField hdeclared,
      ty_of_declareField hdeclared, honly⟩
  · intro layout addComments setters hsetters
    have hanswer := Builder.setterBody?_of_owner hbody howner ("self." ++ layout.dataPath)
    have hsome : builder.setterBody? ("self." ++ layout.dataPath)
        (Property.ofField builder.bodyRequired field) ≠ .ok none :=
      Builder.setterBody?_ne_none_of_field (ne_true_of_eq_false hkind) hbody
        (Builder.objectField?_of_mem_owners howner)
    obtain ⟨setter, hsetter, docLines, body, hfound, rfl⟩ :=
      Builder.exists_setter_of_body hsetters hproperty hsome
    obtain ⟨⟨argTy, value⟩, hargument, hmade⟩ := map_eq_ok.mp (hanswer.symm.trans hfound)
    obtain rfl := Option.some.inj hmade
    exact ⟨_, hsetter, Builder.name_setterOf .., argTy, value, hargument, rfl, rfl⟩

/-- All searches for the owner of an identifier agree. Under a lenient policy the struct of an
object declares the owners in order, and the properties of the object's own builder have their
identifiers. The properties that a builder with a body has from fields are those of the owners, in
order, where no parameter stands in front of them, and each of them is that of its owner in every
respect (`Owns`). A strict policy refuses the struct of an object at the first repetition of an
identifier, if what is in front of it can be written, and the builder of the object if the children
of all fields up to there are known. So where both conditions hold it refuses both or neither. -/
theorem field_owners_agree (generator : Generator) (object : ApiObject) :
    (generator.collisionPolicy = .drop →
      (generator.declareFields object.name [] object.fields).outcome =
          (owners object.fields).mapM generator.declareField ∧
        (∀ declarations,
          (generator.declareFields object.name [] object.fields).outcome = .ok declarations →
          (generator.objectBuilder object).properties.map Property.key =
            declarations.map FieldDeclaration.name) ∧
        ∀ builder ∈ generator.builders object, builder.bodyRequired = true →
          ((∀ field ∈ object.fields, field.hasKnownChildren = true) →
            builder.accepted builder.properties = .ok builder.properties) ∧
          (builder.properties.filter fun property ↦ property.kind.isField) =
            builder.fieldOwners.map (Property.ofField true) ∧
          ∀ property ∈ builder.properties, property.kind.isParameter = false →
            ∃ field, Owns generator object builder property field) ∧
    (generator.collisionPolicy = .refuse →
      (Refuses (generator.renderObject object).outcome ↔
        (∃ docLines, generator.comment object.description = .ok docLines) ∧
          ∃ front again, FirstRepetition object.fields front again ∧ generator.Declares front) ∧
      (Refuses (generator.objectBuilder object).unify.outcome ↔
        ∃ front again, FirstRepetition object.fields front again ∧
          ∀ field ∈ front ++ [again], field.hasKnownChildren = true) ∧
      ((∃ docLines, generator.comment object.description = .ok docLines) →
        (∀ field ∈ object.fields, field.hasKnownChildren = true) →
        (∀ front again, FirstRepetition object.fields front again → generator.Declares front) →
        (Refuses (generator.renderObject object).outcome ↔
          Refuses (generator.objectBuilder object).unify.outcome))) := by
  refine ⟨fun hdrop ↦ ⟨outcome_declareFields_eq hdrop _ _, fun declarations hdeclarations ↦ ?_,
    fun builder hbuilder hbody ↦ ⟨fun hknown ↦ ?_, ?_, fun property hproperty hkind ↦ ?_⟩⟩,
    fun hrefuse ↦ ⟨refuses_renderObject_iff hrefuse object,
      refuses_unify_objectBuilder_iff hrefuse object, fun hcomment hknown hdeclares ↦ ?_⟩⟩
  · have hparameters : (generator.objectBuilder object).parameters = [] := rfl
    rw [Builder.properties_of_no_parameters hparameters, List.map_map,
      Property.key_comp_ofField]
    exact names_of_declareFields hdrop hdeclarations
  · refine Builder.accepted_of_drop (collisionPolicy_of_mem_builders hbuilder ▸ hdrop) ?_ _
    rwa [fields_of_mem_builders hbuilder]
  · rw [Builder.fieldProperties_eq, hbody]
  · exact exists_owner hdrop hbuilder hbody hproperty hkind
  · rw [refuses_renderObject_iff hrefuse, refuses_unify_objectBuilder_iff hrefuse,
      and_iff_right hcomment]
    refine exists_congr fun front ↦ exists_congr fun again ↦ and_congr_right fun hrepeats ↦ ?_
    refine iff_of_true (hdeclares front again hrepeats) fun field hfield ↦ ?_
    exact hknown field (hrepeats.1.subset hfield)

/-- The standard generator with a policy that refuses what shares an identifier. -/
def strict : Generator :=
  { standard with collisionPolicy := .refuse }

/-- A number that is kept behind a pointer. -/
def boxedNumber : ObjectField where
  name := "petId"
  tyPath := "i64"
  boxed := true

/-- A pet with two fields of one identifier. -/
def renamedPet : ApiObject where
  name := "Pet"
  fields := [boxedNumber, { name := "pet_id", tyPath := "String", isRequired := true }]

theorem field_owners_agree_renamedPet :
    standard.collisionPolicy = .drop ∧ strict.collisionPolicy = .refuse ∧
      (∃ declarations,
        (standard.declareFields renamedPet.name [] renamedPet.fields).outcome = .ok declarations ∧
          declarations.map FieldDeclaration.name = ["pet_id"]) ∧
      (∃ field, Owns standard renamedPet (standard.objectBuilder renamedPet)
        (Property.ofField true boxedNumber) field) ∧
      (∃ docLines, strict.comment renamedPet.description = .ok docLines) ∧
      (∀ field ∈ renamedPet.fields, field.hasKnownChildren = true) ∧
      strict.Declares renamedPet.fields ∧
      Refuses (strict.renderObject renamedPet).outcome ∧
      Refuses (strict.objectBuilder renamedPet).unify.outcome := by
  have hdrop : standard.collisionPolicy = .drop := rfl
  have hrefuse : strict.collisionPolicy = .refuse := rfl
  have hknown : ∀ field ∈ renamedPet.fields, field.hasKnownChildren = true := by decide
  have hdeclares : strict.Declares renamedPet.fields := by
    have hall : ∀ field ∈ renamedPet.fields, (strict.declareField field).isOk = true := by
      decide +kernel
    exact fun field hfield ↦ exists_of_isOk (hall field hfield)
  have hdeclared :
      (standard.declareFields renamedPet.name [] renamedPet.fields).outcome.isOk = true := by
    decide +kernel
  obtain ⟨declarations, hdeclarations⟩ := exists_of_isOk hdeclared
  obtain ⟨_, hnames, hbuilders⟩ := (field_owners_agree standard renamedPet).1 hdrop
  have howner := (hbuilders _ (objectBuilder_mem_builders standard renamedPet) rfl).2.2
    (Property.ofField true boxedNumber) (by decide +kernel) rfl
  obtain ⟨_, _, hsame⟩ := (field_owners_agree strict renamedPet).2 hrefuse
  have hcollision : Refuses (strict.objectBuilder renamedPet).unify.outcome :=
    ⟨.collision "PetBuilder" (Property.ofField true boxedNumber)
      (Property.ofField true { name := "pet_id", tyPath := "String", isRequired := true }),
      by decide +kernel, rfl⟩
  refine ⟨hdrop, hrefuse, ⟨declarations, hdeclarations, ?_⟩, howner, ⟨[], rfl⟩, hknown, hdeclares,
    (hsame ⟨[], rfl⟩ hknown fun front again hrepeats field hfield ↦ ?_).mpr hcollision, hcollision⟩
  · rw [← hnames declarations hdeclarations]
    decide +kernel
  · exact hdeclares field (hrepeats.1.subset (List.mem_append_left _ hfield))

/-- A pet with two fields of one identifier behind a field whose type has no known container. -/
def pagedPet : ApiObject where
  name := "Pet"
  fields := [{ name := "owners", tyPath := "Page<Any>", needsAny := true },
    { name := "petId", tyPath := "i64" }, { name := "pet_id", tyPath := "String" }]

/-- The builder of an object can be refused where its struct fails for another cause. -/
theorem exists_refusal_behind_fault :
    strict.collisionPolicy = .refuse ∧
      (∃ failure, (strict.objectBuilder pagedPet).unify.outcome = .error failure ∧
        failure.isOutcome = true) ∧
      ¬ ∃ failure, (strict.renderObject pagedPet).outcome = .error failure ∧
        failure.isOutcome = true := by
  have hcollision : (strict.objectBuilder pagedPet).unify.outcome =
      .error (.collision "PetBuilder" { name := "petId", ty := "i64", kind := .optionalField }
        { name := "pet_id", ty := "String", kind := .optionalField }) := by
    decide +kernel
  have hfault : (strict.renderObject pagedPet).outcome =
      .error (.type (.unknownContainer "Page<Any>")) := by
    decide +kernel
  refine ⟨rfl, ⟨_, hcollision, rfl⟩, ?_⟩
  rintro ⟨failure, hfailure, houtcome⟩
  obtain rfl := Except.error.inj (hfault.symm.trans hfailure)
  exact Bool.false_ne_true houtcome

end Generator

end TypestateBuilders
