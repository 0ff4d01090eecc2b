import TypestateBuilders.Proofs.ObjectStruct

/-!
# The structs of a builder

What is written for a builder is known line by line: the declaration of its struct and, where the
data is split off, that of the container behind an empty line (`Generator.renderBuilder_eq_ok`). A
struct without slots is declared without braces. So the structs of a builder are its own, and the
container exactly if the layout has one (`Builder.structDeclarations`).
-/

set_option autoImplicit false
set_option relaxedAutoImplicit false

namespace TypestateBuilders

open Outcome Template

/-! ### Declarations of structs -/

/-- A struct as a source declares it. -/
structure StructDeclaration where
  /-- The lines in front of it: its doc comment and its attributes. -/
  attributes : List String
  /-- What its line opens with. -/
  keyword : String
  /-- Its name. -/
  name : String
  /-- The angle brackets behind its name. -/
  generics : String
  /-- Its slots; a unit struct is declared without braces for them. -/
  slots : Option (List Slot)

/-- The line of a slot. -/
def Slot.line (slot : Slot) : String :=
  "    " ++ slot.name ++ ": " ++ slot.ty ++ ","

namespace StructDeclaration

/-- The lines of a declaration. -/
def lines (declaration : StructDeclaration) : List String :=
  let head := declaration.keyword ++ declaration.name ++ declaration.generics
  declaration.attributes ++
    match declaration.slots with
    | none => [head ++ ";"]
    | some slots => (head ++ " \x7b") :: slots.map Slot.line ++ ["\x7d"]

/-- The source of some declarations, with an empty line between them. -/
def source (declarations : List StructDeclaration) : String :=
  "\n".intercalate (declarations.map fun declaration ↦ textOfLines declaration.lines)

end StructDeclaration

namespace Builder

/-- The struct of a builder with a given documentation and layout. -/
def ownDeclaration (builder : Builder) (headline : String) (layout : Layout) :
    StructDeclaration where
  attributes := ("/// " ++ headline) ::
    (if layout.needsContainer then ["#[repr(transparent)]"] else []) ++ ["#[derive(Debug, Clone)]"]
  keyword := "pub struct "
  name := builder.name
  generics := builder.generics .generic
  slots := if layout.isUnit then none else some layout.outer

/-- The struct of the container of a builder with a given layout. -/
def containerDeclaration (builder : Builder) (layout : Layout) : StructDeclaration where
  attributes := ["#[derive(Debug, Default, Clone)]"]
  keyword := "struct "
  name := builder.containerName
  generics := layout.containerGenerics
  slots := some layout.container

/-- The structs of a builder: its own, and the container if there is one. -/
def structDeclarations (builder : Builder) (headline : String) (layout : Layout) :
    List StructDeclaration :=
  builder.ownDeclaration headline layout ::
    if layout.needsContainer then [builder.containerDeclaration layout] else []

end Builder

/-! ### Lines of the template -/

namespace Template

variable {scope : Scope}

/-- A choice takes the body that the truth of its condition calls for. -/
theorem lines_choose_of_ok {condition : Reference} {whenTrue whenFalse : List Node} {value : Value}
    (h : scope.resolve condition = .ok value) :
    (Node.choose condition whenTrue whenFalse).lines scope =
      if value.isTrue then nodesLines scope whenTrue else nodesLines scope whenFalse := by
  rw [Node.lines, h]
  rfl

/-- Slots are written one to a line. -/
theorem lines_slotLines {reference : Reference} {slots : List Slot}
    (h : scope.resolve reference = .ok (slotValues slots)) :
    (slotLines "    " "ty" reference).lines scope = .ok (slots.map Slot.line) := by
  have helements : scope.elements reference = .ok (slots.map Slot.value) := by
    rw [Scope.elements, h]
    rfl
  unfold slotLines
  rw [lines_each_of_ok (fun slot ↦ [slot.line]) helements, List.map_eq_flatMap]
  intro slot _
  change Except.ok [String.join ["    ", slot.name, ": ", slot.ty, ","]] = _
  simp [String.join, Slot.line]

theorem textOfLines_append (first second : List String) :
    textOfLines (first ++ second) = textOfLines first ++ textOfLines second := by
  unfold textOfLines
  rw [List.map_append, String.join_append]

end Template

namespace Builder

/-- The lines of the structs of a builder. -/
theorem source_structDeclarations (builder : Builder) (headline : String) (layout : Layout) :
    StructDeclaration.source (builder.structDeclarations headline layout) =
      textOfLines ((builder.ownDeclaration headline layout).lines ++
        if layout.needsContainer then "" :: (builder.containerDeclaration layout).lines
        else []) := by
  unfold StructDeclaration.source structDeclarations
  cases layout.needsContainer with
  | false => simp
  | true =>
    have hempty : ∀ lines, textOfLines ("" :: lines) = "\n" ++ textOfLines lines :=
      fun lines ↦ textOfLines_append [""] lines
    rw [textOfLines_append, if_pos rfl, if_pos rfl, hempty, List.map_cons, List.map_singleton,
      String.intercalate_cons_cons, String.intercalate_singleton, String.append_assoc]

/-- What the template of builders is filled in with. -/
def structContext (builder : Builder) (headline : String) (layout : Layout) : Scope :=
  [("doc_lines", .ofTexts ["/// " ++ headline]), ("name", .text builder.name),
    ("generics", .text (builder.generics .generic)),
    ("container_name", .text builder.containerName), ("layout", layout.value)]

/-- The part of the template of builders that writes the struct of a builder. -/
def ownNode : Node :=
  .choose (.memberOf "layout" "is_unit")
    [.line [.text "pub struct ", .hole (.named "name"), .hole (.named "generics"), .text ";"]]
    [.line [.text "pub struct ", .hole (.named "name"), .hole (.named "generics"), .text " \x7b"],
      slotLines "    " "ty" (.memberOf "layout" "outer"), fixedLine "\x7d"]

/-- The part of the template of builders that writes the container. -/
def containerNode : Node :=
  .choose (.memberOf "layout" "needs_container")
    [fixedLine "", fixedLine "#[derive(Debug, Default, Clone)]",
      .line [.text "struct ", .hole (.named "container_name"),
        .hole (.memberOf "layout" "container_generics"), .text " \x7b"],
      slotLines "    " "ty" (.memberOf "layout" "container"), fixedLine "\x7d"]
    []

section

variable (builder : Builder) (headline : String) (layout : Layout)

theorem resolve_needsContainer :
    (builder.structContext headline layout).resolve (.memberOf "layout" "needs_container") =
      .ok (.bool layout.needsContainer) := rfl

/-- A unit struct is one line, and any other struct has a line for each slot between braces. -/
theorem lines_ownNode :
    ownNode.lines (builder.structContext headline layout) =
      .ok (if layout.isUnit then
          ["pub struct " ++ builder.name ++ builder.generics .generic ++ ";"]
        else ("pub struct " ++ builder.name ++ builder.generics .generic ++ " \x7b") ::
          layout.outer.map Slot.line ++ ["\x7d"]) := by
  have hunit : (builder.structContext headline layout).resolve (.memberOf "layout" "is_unit") =
      .ok (.bool layout.isUnit) := rfl
  have hline : ∀ ending, (Node.line [.text "pub struct ", .hole (.named "name"),
      .hole (.named "generics"), .text ending]).lines (builder.structContext headline layout) =
        .ok ["pub struct " ++ builder.name ++ builder.generics .generic ++ ending] :=
    fun _ ↦ rfl
  have houter : (slotLines "    " "ty" (.memberOf "layout" "outer")).lines
      (builder.structContext headline layout) = .ok (layout.outer.map Slot.line) :=
    lines_slotLines rfl
  unfold ownNode
  rw [lines_choose_of_ok hunit, nodesLines_cons_of_ok (hline ";"),
    nodesLines_cons_of_ok (hline " \x7b"), nodesLines_cons_of_ok houter]
  cases layout.isUnit <;> rfl

/-- A container is written behind an empty line. -/
theorem lines_containerNode :
    containerNode.lines (builder.structContext headline layout) =
      .ok (if layout.needsContainer then "" :: (builder.containerDeclaration layout).lines
        else []) := by
  have hline : (Node.line [.text "struct ", .hole (.named "container_name"),
      .hole (.memberOf "layout" "container_generics"), .text " \x7b"]).lines
        (builder.structContext headline layout) =
      .ok ["struct " ++ builder.containerName ++ layout.containerGenerics ++ " \x7b"] := rfl
  have hslots : (slotLines "    " "ty" (.memberOf "layout" "container")).lines
      (builder.structContext headline layout) = .ok (layout.container.map Slot.line) :=
    lines_slotLines rfl
  have hfixed : ∀ text, (fixedLine text).lines (builder.structContext headline layout) =
      .ok [text] := by
    intro text
    change Except.ok [String.join [text]] = _
    simp [String.join]
  unfold containerNode
  rw [lines_choose_of_ok (resolve_needsContainer builder headline layout),
    nodesLines_cons_of_ok (hfixed ""), nodesLines_cons_of_ok (hfixed _),
    nodesLines_cons_of_ok hline, nodesLines_cons_of_ok hslots]
  cases layout.needsContainer <;> rfl

/-- The template of builders lays out the structs of a builder. -/
theorem lines_builderTemplate :
    Template.lines builderTemplate (builder.structContext headline layout) =
      .ok ((builder.ownDeclaration headline layout).lines ++
        if layout.needsContainer then "" :: (builder.containerDeclaration layout).lines
        else []) := by
  have hcomment : (docComment "" (.named "doc_lines")).lines
      (builder.structContext headline layout) = .ok ["/// " ++ headline] := by
    rw [lines_docComment "" ["/// " ++ headline] rfl]
    simp
  have hwrapper : (Node.choose (.memberOf "layout" "needs_container")
      [fixedLine "#[repr(transparent)]"] []).lines (builder.structContext headline layout) =
      .ok (if layout.needsContainer then ["#[repr(transparent)]"] else []) := by
    rw [lines_choose_of_ok (resolve_needsContainer builder headline layout)]
    cases layout.needsContainer <;> rfl
  have hderived : (fixedLine "#[derive(Debug, Clone)]").lines
      (builder.structContext headline layout) = .ok ["#[derive(Debug, Clone)]"] := rfl
  have htemplate : builderTemplate =
      [docComment "" (.named "doc_lines"),
        .choose (.memberOf "layout" "needs_container") [fixedLine "#[repr(transparent)]"] [],
        fixedLine "#[derive(Debug, Clone)]", ownNode, containerNode] := rfl
  rw [Template.lines, htemplate, nodesLines_cons_of_ok hcomment, nodesLines_cons_of_ok hwrapper,
    nodesLines_cons_of_ok hderived, nodesLines_cons_of_ok (lines_ownNode builder headline layout),
    nodesLines_cons_of_ok (lines_containerNode builder headline layout)]
  unfold StructDeclaration.lines ownDeclaration
  cases layout.isUnit <;> simp [nodesLines, Except.map]

end

end Builder

namespace Generator

variable {builder : Builder} {text : String}

/-- The structs of a builder are written exactly if its constructor has a name and its layout is
known, and then they are the struct of the builder and that of its container, if it has one. -/
theorem renderBuilder_eq_ok :
    (renderBuilder builder).outcome = .ok text ↔
      ∃ constructorName layout, builder.constructorName = .ok constructorName ∧
        builder.layout = .ok layout ∧
        text = StructDeclaration.source
          (builder.structDeclarations (headline builder constructorName) layout) := by
  have hfill : ∀ headline layout, fill .builder (builder.structContext headline layout) =
      .ok (StructDeclaration.source (builder.structDeclarations headline layout)) := by
    intro headline layout
    have htemplate : Name.builder.template = builderTemplate := rfl
    rw [fill, htemplate, builder.lines_builderTemplate, builder.source_structDeclarations]
  simp only [renderBuilder, Logged.outcome_bind, Logged.outcome_lift,
    Builder.outcome_nameConstructor, Builder.outcome_unify]
  constructor
  · intro h
    obtain ⟨constructorName, hname, h⟩ := bind_eq_ok.mp h
    obtain ⟨_, _, h⟩ := bind_eq_ok.mp h
    obtain ⟨layout, hlayout, h⟩ := bind_eq_ok.mp h
    exact ⟨constructorName, layout, hname, hlayout,
      Except.ok.inj (h.symm.trans (hfill (headline builder constructorName) layout))⟩
  · rintro ⟨constructorName, layout, hname, hlayout, rfl⟩
    obtain ⟨_, haccepted, _⟩ := bind_eq_ok.mp hlayout
    exact bind_eq_ok.mpr ⟨constructorName, hname, bind_eq_ok.mpr ⟨_, haccepted,
      bind_eq_ok.mpr ⟨layout, hlayout, hfill (headline builder constructorName) layout⟩⟩⟩

end Generator

end TypestateBuilders
