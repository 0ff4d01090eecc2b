import TypestateBuilders.Proofs.FieldOwners
import TypestateBuilders.Proofs.Mentions

/-!
# The struct of an object

The text of an object's struct is known line by line (`Generator.renderObject_eq_ok`): the doc
comment, the derived traits, the head, then for each declared field its doc comment, its attribute
and its declaration (`FieldDeclaration.lines`), and the end.

The head names a type parameter if some field of the object holds dynamically typed values, but only
the owners of identifiers are declared. So the struct has the parameter exactly if an owner or a
field that is dropped needs it, and its fields use it where an owner does
(`Generator.struct_generic_iff`). Where the only fields that need it are dropped, the struct has a
parameter that nothing uses (`Generator.exists_unused_parameter`).
-/

set_option autoImplicit false
set_option relaxedAutoImplicit false

namespace TypestateBuilders

open Naming Outcome Occurrence Template

/-! ### Lines of templates -/

namespace Template

variable {scope : Scope}

/-- Parts of a template that are filled in one after the other. -/
theorem nodesLines_cons_of_ok {node : Node} {first : List String}
    (h : node.lines scope = .ok first) (rest : List Node) :
    nodesLines scope (node :: rest) = (nodesLines scope rest).map (first ++ ·) := by
  rw [nodesLines, h]
  rfl

/-- A repetition without empty lines is its bodies, one after the other. -/
theorem lines_each_of_ok {name : String} {source : Reference} {body : List Node} {α : Type}
    {items : List α} {element : α → Value} (block : α → List String)
    (hsource : scope.elements source = .ok (items.map element))
    (hbody : ∀ item ∈ items, nodesLines ((name, element item) :: scope) body = .ok (block item)) :
    (Node.each false name source body).lines scope = .ok (items.flatMap block) := by
  have hjoined : ∀ blocks : List (List String), ([] : List String).intercalate blocks =
      blocks.flatten := by
    intro blocks
    induction blocks with
    | nil => rfl
    | cons first rest ih =>
      rcases rest with _ | ⟨next, rest⟩
      · simp
      · rw [List.intercalate_cons_cons, ih, List.append_nil]
        rfl
  have hblocks : (items.map element).mapM (fun value ↦ nodesLines ((name, value) :: scope) body) =
      .ok (items.map block) := by
    rw [List.mapM_map]
    exact mapM_eq_ok_map block hbody
  rw [Node.lines, List.flatMap_def, ← hjoined]
  exact bind_eq_ok.mpr ⟨_, hsource, bind_eq_ok.mpr ⟨_, hblocks, rfl⟩⟩

/-- The lines of a doc comment stand behind its indent. -/
theorem lines_docComment {reference : Reference} (indent : String) (texts : List String)
    (h : scope.resolve reference = .ok (.ofTexts texts)) :
    (docComment indent reference).lines scope = .ok (texts.map (indent ++ ·)) := by
  have helements : scope.elements reference = .ok (texts.map Value.text) := by
    rw [Scope.elements, h]
    rfl
  rw [docComment, lines_each_of_ok (fun text ↦ [indent ++ text]) helements]
  · rw [List.map_eq_flatMap]
  · intro text _
    have hline : (indented indent (.named "line")).lines (("line", .text text) :: scope) =
        .ok [indent ++ text] := by
      show Except.ok [String.join [indent, text]] = _
      simp [String.join]
    rw [nodesLines_cons_of_ok hline]
    rfl

end Template

/-! ### Lines of a struct -/

namespace FieldDeclaration

/-- The attribute that names a field on the wire. An empty name counts as none. -/
def attributeLines (declaration : FieldDeclaration) : List String :=
  match declaration.rename with
  | some name => if name = "" then [] else ["    #[serde(rename = \"" ++ name ++ "\")]"]
  | none => []

/-- The lines of a field: its doc comment, its attribute and its declaration. -/
def lines (declaration : FieldDeclaration) : List String :=
  declaration.docLines.map ("    " ++ ·) ++ declaration.attributeLines ++
    ["    pub " ++ declaration.name ++ ": " ++ declaration.ty ++ ","]

/-- The part of the template of structs that writes a field. -/
def nodes : List Node :=
  [docComment "    " (.memberOf "field" "doc_lines"),
    .choose (.memberOf "field" "rename")
      [.line [.text "    #[serde(rename = \"", .hole (.memberOf "field" "rename"),
        .text "\")]"]]
      [],
    .line [.text "    pub ", .hole (.memberOf "field" "name"), .text ": ",
      .hole (.memberOf "field" "ty"), .text ","]]

theorem lines_choose (declaration : FieldDeclaration) (scope : Scope) :
    (Node.choose (.memberOf "field" "rename")
      [.line [.text "    #[serde(rename = \"", .hole (.memberOf "field" "rename"),
        .text "\")]"]] []).lines (("field", declaration.value) :: scope) =
      .ok declaration.attributeLines := by
  obtain ⟨name, ty, rename, docLines⟩ := declaration
  cases rename with
  | none => rfl
  | some wire =>
    by_cases hempty : wire = ""
    · subst hempty
      rfl
    · have htrue : (Value.text wire).isTrue = true := by
        simp [Value.isTrue, hempty]
      show (if (Value.text wire).isTrue = true then _ else _) =
        Except.ok (if wire = "" then _ else _)
      rw [if_pos htrue, if_neg hempty]
      rfl

theorem nodesLines_nodes (declaration : FieldDeclaration) (scope : Scope) :
    nodesLines (("field", declaration.value) :: scope) nodes = .ok declaration.lines := by
  have hcomment : (docComment "    " (.memberOf "field" "doc_lines")).lines
      (("field", declaration.value) :: scope) = .ok (declaration.docLines.map ("    " ++ ·)) :=
    lines_docComment "    " _ rfl
  rw [nodes, nodesLines_cons_of_ok hcomment, nodesLines_cons_of_ok (declaration.lines_choose scope),
    lines, List.append_assoc]
  rfl

end FieldDeclaration

/-- The lines of a struct. -/
def structLines (docLines : List String) (derives : List Value) (head : String)
    (declarations : List FieldDeclaration) : List String :=
  docLines ++
    ["#[derive(" ++ ", ".intercalate (derives.map Value.display) ++ ")]",
      "pub struct " ++ head ++ " \x7b"] ++
    declarations.flatMap FieldDeclaration.lines ++ ["\x7d"]

/-- The template of structs lays out these lines, if the traits can be gone through. -/
theorem lines_objectTemplate (name generics : String) (derives : Value) (docLines : List String)
    (declarations : List FieldDeclaration) :
    Template.lines objectTemplate
        [("name", .text name), ("generics", .text generics), ("derives", derives),
          ("doc_lines", .ofTexts docLines),
          ("fields", .list (declarations.map FieldDeclaration.value))] =
      match derives.elements? with
      | some elements => .ok (structLines docLines elements (name ++ generics) declarations)
      | none => .error (.noElements derives.kindName) := by
  generalize hscope : [("name", Value.text name), ("generics", .text generics),
    ("derives", derives), ("doc_lines", .ofTexts docLines),
    ("fields", .list (declarations.map FieldDeclaration.value))] = scope
  have hcomment : (docComment "" (.named "doc_lines")).lines scope = .ok docLines := by
    rw [← hscope, lines_docComment "" docLines rfl]
    simp
  have hfields : (Node.each false "field" (.named "fields") FieldDeclaration.nodes).lines scope =
      .ok (declarations.flatMap FieldDeclaration.lines) := by
    rw [← hscope]
    exact lines_each_of_ok _ rfl fun declaration _ ↦ declaration.nodesLines_nodes _
  have hhead : (Node.line [.text "pub struct ", .hole (.named "name"), .hole (.named "generics"),
      .text " \x7b"]).lines scope = .ok ["pub struct " ++ (name ++ generics) ++ " \x7b"] := by
    rw [← hscope, ← String.append_assoc]
    rfl
  have hderives : (Node.line [.text "#[derive(", .joined ", " (.named "derives"),
      .text ")]"]).lines scope =
      match derives.elements? with
      | some elements => .ok ["#[derive(" ++ ", ".intercalate (elements.map Value.display) ++ ")]"]
      | none => .error (.noElements derives.kindName) := by
    rw [← hscope]
    cases derives <;> rfl
  have htemplate : objectTemplate =
      [docComment "" (.named "doc_lines"),
        .line [.text "#[derive(", .joined ", " (.named "derives"), .text ")]"],
        .line [.text "pub struct ", .hole (.named "name"), .hole (.named "generics"),
          .text " \x7b"],
        .each false "field" (.named "fields") FieldDeclaration.nodes, fixedLine "\x7d"] := rfl
  rw [Template.lines, htemplate, nodesLines_cons_of_ok hcomment]
  cases helements : derives.elements? with
  | none =>
    rw [helements] at hderives
    rw [nodesLines, hderives]
    rfl
  | some elements =>
    rw [helements] at hderives
    rw [nodesLines_cons_of_ok hderives, nodesLines_cons_of_ok hhead, nodesLines_cons_of_ok hfields]
    show Except.ok _ = Except.ok (structLines docLines elements (name ++ generics) declarations)
    rw [structLines]
    simp

namespace Generator

variable {generator : Generator} {object : ApiObject} {text : String}

/-- The struct of an object is written exactly if its fields can be declared and its doc comment and
traits are given, and then its lines are known. -/
theorem renderObject_eq_ok :
    (generator.renderObject object).outcome = .ok text ↔
      ∃ docLines declarations derives, generator.comment object.description = .ok docLines ∧
        (generator.declareFields object.name [] object.fields).outcome = .ok declarations ∧
        generator.settings.derives.elements? = some derives ∧
        text = textOfLines (structLines docLines derives
          (object.name ++ Builder.anyGeneric object.needsAny) declarations) := by
  simp only [renderObject, Logged.outcome_bind, Logged.outcome_lift]
  have hfill : ∀ docLines declarations,
      fill .object
          [("name", .text object.name), ("generics", .text (Builder.anyGeneric object.needsAny)),
            ("derives", generator.settings.derives), ("doc_lines", .ofTexts docLines),
            ("fields", .list (declarations.map FieldDeclaration.value))] = .ok text ↔
        ∃ derives, generator.settings.derives.elements? = some derives ∧
          text = textOfLines (structLines docLines derives
            (object.name ++ Builder.anyGeneric object.needsAny) declarations) := by
    intro docLines declarations
    have htemplate : Name.object.template = objectTemplate := rfl
    rw [fill, htemplate, lines_objectTemplate]
    cases generator.settings.derives.elements? with
    | none =>
      refine iff_of_false (fun h ↦ ?_) ?_
      · cases h
      · rintro ⟨_, hnone, _⟩
        cases hnone
    | some derives => simp [eq_comm]
  constructor
  · intro h
    obtain ⟨docLines, hcomment, h⟩ := bind_eq_ok.mp h
    obtain ⟨declarations, hdeclarations, h⟩ := bind_eq_ok.mp h
    obtain ⟨derives, hderives, htext⟩ := (hfill docLines declarations).mp h
    exact ⟨docLines, declarations, derives, hcomment, hdeclarations, hderives, htext⟩
  · rintro ⟨docLines, declarations, derives, hcomment, hdeclarations, hderives, htext⟩
    refine bind_eq_ok.mpr ⟨docLines, hcomment, bind_eq_ok.mpr ⟨declarations, hdeclarations, ?_⟩⟩
    exact (hfill docLines declarations).mpr ⟨derives, hderives, htext⟩

/-! ### The type parameter -/

/-- Whether the parameter for dynamically typed values is put into a type: the leaf is its slot, or
an object of the generated crate, which takes it as its argument. -/
def HasAnySlot (ty : String) : Prop :=
  leafType ty = .ok anyParameter ∨ HasObjectLeaf ty

/-- A file has no slot for the parameter. -/
theorem not_hasAnySlot_file : ¬ HasAnySlot fileMarker := by
  have hmarker : leafType fileMarker = .ok fileMarker := by decide +kernel
  rintro (hany | ⟨leaf, hleaf, hobject⟩)
  · exact absurd (Except.ok.inj (hmarker.symm.trans hany)) (by decide)
  · obtain rfl := Except.ok.inj (hmarker.symm.trans hleaf)
    exact absurd hobject (by decide)

theorem mentions_any_of_leaf {ty : String} (h : leafType ty = .ok anyParameter) :
    Mentions anyParameter.toList ty.toList := by
  obtain ⟨shape, hshape, hleaf⟩ := map_eq_ok.mp ((leafType_eq ty).symm.trans h)
  have hchars : shape.leafPath = anyParameter.toList := by rw [← hleaf, String.toList_ofList]
  rw [TypeShape.mentions_iff hshape, hchars, mentions_name_iff isName_anyParameter]
  exact Or.inr rfl

theorem mentions_wrapType_iff (wrapper : Wrapper) (inner : String) :
    Mentions anyParameter.toList (wrapper.wrapType inner).toList ↔
      Mentions anyParameter.toList inner.toList := by
  have hwrapped : ∀ container : String, IsName container.toList → anyParameter ≠ container →
      (Mentions anyParameter.toList (container ++ "<" ++ inner ++ ">").toList ↔
        Mentions anyParameter.toList inner.toList) := by
    intro container hname hother
    have htext : (container ++ "<" ++ inner ++ ">").toList =
        container.toList ++ '<' :: (inner.toList ++ ['>']) := by
      simp
    rw [htext, mentions_append_cons_iff (by decide), mentions_concat_iff (by decide),
      mentions_name_iff hname, String.toList_inj, or_iff_right hother]
  cases wrapper with
  | pointer => exact hwrapped "Box" (by decide) (by decide)
  | option => exact hwrapped "Option" (by decide) (by decide)

/-- What wraps a field mentions no type parameter. -/
theorem mentions_wrappers_iff (wrappers : List Wrapper) (plain : String) :
    Mentions anyParameter.toList
        (wrappers.foldl (fun inner wrapper ↦ wrapper.wrapType inner) plain).toList ↔
      Mentions anyParameter.toList plain.toList := by
  induction wrappers generalizing plain with
  | nil => rfl
  | cons wrapper rest ih => rw [List.foldl_cons, ih, mentions_wrapType_iff]

/-- A declared type uses the parameter for dynamically typed values if the field needs it, and
otherwise only if the type of the field is already written with it. -/
theorem mentions_any_declareField_iff {field : ObjectField} {declaration : FieldDeclaration}
    (h : generator.declareField field = .ok declaration)
    (hslot : field.needsAny = true → HasAnySlot field.tyPath) :
    Mentions anyParameter.toList declaration.ty.toList ↔
      field.needsAny = true ∨ Mentions anyParameter.toList field.tyPath.toList := by
  obtain ⟨plain, hplain, hty⟩ := ty_of_declareField h
  rw [hty, mentions_wrappers_iff]
  by_cases hfile : field.tyPath = fileMarker
  · have hneeds : ¬ field.needsAny = true :=
      fun hneeds ↦ not_hasAnySlot_file (hfile ▸ hslot hneeds)
    rw [fieldType, if_pos hfile] at hplain
    rw [← Except.ok.inj hplain, hfile]
    exact iff_of_false (by decide) (not_or.mpr ⟨hneeds, by decide⟩)
  · rw [mentions_fieldType_iff hfile hplain, and_iff_left rfl, or_comm]
    by_cases hneeds : field.needsAny = true
    · refine iff_of_true ?_ (Or.inl hneeds)
      rcases hslot hneeds with hleaf | hobject
      · exact Or.inr (mentions_any_of_leaf hleaf)
      · exact Or.inl ⟨hneeds, hobject⟩
    · rw [or_iff_right fun hboth ↦ hneeds hboth.1, or_iff_right hneeds]

/-- The fields that a struct leaves out, since an earlier field has their identifier. -/
def droppedFields (object : ApiObject) : List ObjectField :=
  (followers ObjectField.ident object.fields).map Prod.snd

/-- An object holds dynamically typed values in a field that its struct declares, or in one that the
struct leaves out. -/
theorem needsAny_iff (object : ApiObject) :
    object.needsAny = true ↔ (∃ field ∈ owners object.fields, field.needsAny = true) ∨
      ∃ field ∈ droppedFields object, field.needsAny = true := by
  have hmem : ∀ field, field ∈ object.fields ↔
      field ∈ owners object.fields ∨ field ∈ droppedFields object := by
    intro field
    rw [← (perm_firsts_followers ObjectField.ident object.fields).mem_iff, List.mem_append, owners,
      droppedFields]
  rw [ApiObject.needsAny, List.any_eq_true]
  simp only [hmem, or_and_right, exists_or]

theorem anyGeneric_eq_angled_iff (needsAny : Bool) :
    Builder.anyGeneric needsAny = angled [anyParameter] ↔ needsAny = true := by
  cases needsAny with
  | true => exact iff_of_true rfl rfl
  | false => exact iff_of_false (by decide) Bool.false_ne_true

/-- When the struct of an object is generic. Its fields are the owners of identifiers, and the type
of a field uses the parameter for dynamically typed values if the field needs it, or is written with
it. The struct declares the parameter exactly if a field that it declares needs it, or one that it
leaves out. So the declared parameter is used unless only fields need it that are left out, and no
other type is written with it. -/
theorem struct_generic_iff (hdrop : generator.collisionPolicy = .drop)
    (hslots : ∀ field ∈ object.fields, field.needsAny = true → HasAnySlot field.tyPath)
    (h : (generator.renderObject object).outcome = .ok text) :
    ∃ docLines derives declarations generics,
      text = textOfLines (structLines docLines derives (object.name ++ generics) declarations) ∧
      List.Forall₂ (fun field declaration ↦ declaration.name = field.ident ∧
          (Mentions anyParameter.toList declaration.ty.toList ↔
            field.needsAny = true ∨ Mentions anyParameter.toList field.tyPath.toList))
        (owners object.fields) declarations ∧
      (generics = "" ∨ generics = angled [anyParameter]) ∧
      (generics = angled [anyParameter] ↔
        (∃ field ∈ owners object.fields, field.needsAny = true) ∨
          ∃ field ∈ droppedFields object, field.needsAny = true) ∧
      ((generics = angled [anyParameter] →
          ∃ declaration ∈ declarations, Mentions anyParameter.toList declaration.ty.toList) ↔
        ((∃ field ∈ droppedFields object, field.needsAny = true) →
          ∃ field ∈ owners object.fields,
            field.needsAny = true ∨ Mentions anyParameter.toList field.tyPath.toList)) := by
  obtain ⟨docLines, declarations, derives, _, hdeclarations, _, htext⟩ := renderObject_eq_ok.mp h
  rw [outcome_declareFields_eq hdrop] at hdeclarations
  have hfields : List.Forall₂ (fun field declaration ↦ declaration.name = field.ident ∧
      (Mentions anyParameter.toList declaration.ty.toList ↔
        field.needsAny = true ∨ Mentions anyParameter.toList field.tyPath.toList))
      (owners object.fields) declarations := by
    have howners : ∀ field ∈ owners object.fields, field ∈ object.fields :=
      fun _ hfield ↦ firsts_subset ObjectField.ident _ hfield
    refine ((List.forall₂_and_left _ _).mpr ⟨howners, mapM_eq_ok.mp hdeclarations⟩).imp ?_
    rintro field declaration ⟨hfield, hdeclared⟩
    exact ⟨name_of_declareField hdeclared,
      mentions_any_declareField_iff hdeclared (hslots field hfield)⟩
  refine ⟨docLines, derives, declarations, _, htext, hfields, ?_, ?_, ?_⟩
  · cases object.needsAny with
    | true => exact Or.inr rfl
    | false => exact Or.inl rfl
  · rw [anyGeneric_eq_angled_iff, needsAny_iff]
  · have hused : (∃ declaration ∈ declarations,
        Mentions anyParameter.toList declaration.ty.toList) ↔ ∃ field ∈ owners object.fields,
          field.needsAny = true ∨ Mentions anyParameter.toList field.tyPath.toList := by
      constructor
      · rintro ⟨declaration, hdeclaration, hmentions⟩
        obtain ⟨field, hfield, _, hiff⟩ := exists_left_of_mem hfields hdeclaration
        exact ⟨field, hfield, hiff.mp hmentions⟩
      · rintro ⟨field, hfield, hneeds⟩
        obtain ⟨declaration, hdeclaration, _, hiff⟩ := exists_right_of_mem hfields hfield
        exact ⟨declaration, hdeclaration, hiff.mpr hneeds⟩
    rw [anyGeneric_eq_angled_iff, needsAny_iff, hused]
    constructor
    · exact fun hlaw hdropped ↦ hlaw (Or.inr hdropped)
    · rintro hlaw (⟨field, hfield, hneeds⟩ | hdropped)
      · exact ⟨field, hfield, Or.inl hneeds⟩
      · exact hlaw hdropped

/-- A note with a text, with data of any kind, and with a number that shares the identifier of the
data. -/
def markedNote : ApiObject where
  name := "Note"
  fields := [{ name := "text", tyPath := "String" },
    { name := "data", tyPath := "Vec<Any>", needsAny := true }, { name := "Data", tyPath := "i64" }]

theorem struct_generic_iff_markedNote :
    standard.collisionPolicy = .drop ∧
      (∀ field ∈ markedNote.fields, field.needsAny = true → HasAnySlot field.tyPath) ∧
      ∃ text, (standard.renderObject markedNote).outcome = .ok text ∧
        ∃ docLines derives declarations,
          text = textOfLines (structLines docLines derives "Note<Any>" declarations) ∧
          ∃ declaration ∈ declarations,
            Mentions anyParameter.toList declaration.ty.toList := by
  have hdrop : standard.collisionPolicy = .drop := rfl
  have hslots : ∀ field ∈ markedNote.fields, field.needsAny = true → HasAnySlot field.tyPath := by
    have hleaf : leafType "Vec<Any>" = .ok anyParameter := by decide +kernel
    rintro field hfield hneeds
    have hdata : field.tyPath = "Vec<Any>" := by
      revert field
      decide
    exact Or.inl (hdata ▸ hleaf)
  have hrendered : (standard.renderObject markedNote).outcome.isOk = true := by decide +kernel
  obtain ⟨text, htext⟩ := exists_of_isOk hrendered
  obtain ⟨docLines, derives, declarations, generics, hlines, _, _, hgeneric, hused⟩ :=
    struct_generic_iff hdrop hslots htext
  have howner : ∃ field ∈ owners markedNote.fields, field.needsAny = true :=
    ⟨{ name := "data", tyPath := "Vec<Any>", needsAny := true }, by decide +kernel, rfl⟩
  have hany : generics = angled [anyParameter] := hgeneric.mpr (Or.inl howner)
  refine ⟨hdrop, hslots, text, htext, docLines, derives, declarations, ?_, ?_⟩
  · rw [hlines, hany]
    rfl
  · obtain ⟨field, hfield, hneeds⟩ := howner
    exact hused.mpr (fun _ ↦ ⟨field, hfield, Or.inl hneeds⟩) hany

/-- A note with a text and with data of any kind, under names that share an identifier. -/
def dataNote : ApiObject where
  name := "Note"
  fields := [{ name := "data", tyPath := "String" },
    { name := "Data", tyPath := "Any", needsAny := true }]

/-- The struct of `dataNote`. -/
def dataNoteStruct : String :=
  textOfLines ["#[derive(Debug, Default, Clone, Deserialize, Serialize)]",
    "pub struct Note<Any> \x7b", "    pub data: Option<String>,", "\x7d"]

/-- A struct can declare a type parameter though no field that it declares needs it. -/
theorem exists_unused_parameter :
    (standard.renderObject dataNote).outcome = .ok dataNoteStruct ∧
      (∀ field ∈ owners dataNote.fields, field.needsAny = false) ∧
      ¬ ∀ (generator : Generator) (object : ApiObject) (text : String),
        generator.collisionPolicy = .drop →
        (∀ field ∈ object.fields, field.needsAny = true → HasAnySlot field.tyPath) →
        (generator.renderObject object).outcome = .ok text →
        (("pub struct " ++ object.name ++ angled [anyParameter]).toList <:+: text.toList ↔
          ∃ field ∈ owners object.fields, field.needsAny = true) := by
  have hslots : ∀ field ∈ dataNote.fields, field.needsAny = true → HasAnySlot field.tyPath := by
    have hleaf : leafType anyParameter = .ok anyParameter := by decide +kernel
    intro field hfield hneeds
    have hdata : field.tyPath = anyParameter := by
      revert field
      decide
    exact Or.inl (hdata ▸ hleaf)
  have hrendered : (standard.renderObject dataNote).outcome = .ok dataNoteStruct := by
    decide +kernel
  have hunneeded : ∀ field ∈ owners dataNote.fields, field.needsAny = false := by decide +kernel
  have hgeneric : ("pub struct " ++ dataNote.name ++ angled [anyParameter]).toList <:+:
      dataNoteStruct.toList := by
    decide +kernel
  refine ⟨hrendered, hunneeded, fun hlaw ↦ ?_⟩
  obtain ⟨field, hfield, hneeds⟩ := (hlaw standard dataNote _ rfl hslots hrendered).mp hgeneric
  rw [hunneeded field hfield] at hneeds
  cases hneeds

end Generator

end TypestateBuilders
