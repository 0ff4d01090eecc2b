import TypestateBuilders.Template.Basic

/-!
# The templates of the Rust target

The seven templates for Rust source: structs of objects, structs of builders, constructors, setters,
the two kinds of completion, and the module of marker types. They are found by name
(`Catalogue.find?`), where steps of a path that are empty or a single dot do not count, and filled
in by `Catalogue.render`.
-/

set_option autoImplicit false
set_option relaxedAutoImplicit false

namespace TypestateBuilders.Template

/-- A line that holds the value of one variable behind an indent. -/
def indented (indent : String) (reference : Reference) : Node :=
  .line [.text indent, .hole reference]

/-- The lines of a doc comment that a reference holds. -/
def docComment (indent : String) (reference : Reference) : Node :=
  .each false "line" reference [indented indent (.named "line")]

/-- A line that holds a fixed text. -/
def fixedLine (characters : String) : Node :=
  .line [.text characters]

/-- The slots of a struct, one to a line, as name and a second member. -/
def slotLines (indent : String) (second : String) (reference : Reference) : Node :=
  .each false "slot" reference
    [.line [.text indent, .hole (.memberOf "slot" "name"), .text ": ",
      .hole (.memberOf "slot" second), .text ","]]

/-- The struct of an object. -/
def objectTemplate : List Node :=
  [docComment "" (.named "doc_lines"),
    .line [.text "#[derive(", .joined ", " (.named "derives"), .text ")]"],
    .line [.text "pub struct ", .hole (.named "name"), .hole (.named "generics"),
      .text " \x7b"],
    .each false "field" (.named "fields")
      [docComment "    " (.memberOf "field" "doc_lines"),
        .choose (.memberOf "field" "rename")
          [.line [.text "    #[serde(rename = \"", .hole (.memberOf "field" "rename"),
            .text "\")]"]]
          [],
        .line [.text "    pub ", .hole (.memberOf "field" "name"), .text ": ",
          .hole (.memberOf "field" "ty"), .text ","]],
    fixedLine "\x7d"]

/-- The struct of a builder, and of its container if it has one. -/
def builderTemplate : List Node :=
  [docComment "" (.named "doc_lines"),
    .choose (.memberOf "layout" "needs_container") [fixedLine "#[repr(transparent)]"] [],
    fixedLine "#[derive(Debug, Clone)]",
    .choose (.memberOf "layout" "is_unit")
      [.line [.text "pub struct ", .hole (.named "name"), .hole (.named "generics"),
        .text ";"]]
      [.line [.text "pub struct ", .hole (.named "name"), .hole (.named "generics"),
          .text " \x7b"],
        slotLines "    " "ty" (.memberOf "layout" "outer"),
        fixedLine "\x7d"],
    .choose (.memberOf "layout" "needs_container")
      [fixedLine "",
        fixedLine "#[derive(Debug, Default, Clone)]",
        .line [.text "struct ", .hole (.named "container_name"),
          .hole (.memberOf "layout" "container_generics"), .text " \x7b"],
        slotLines "    " "ty" (.memberOf "layout" "container"),
        fixedLine "\x7d"]
      []]

/-- The functions that create builders. -/
def constructorsTemplate : List Node :=
  [.line [.text "impl", .hole (.named "impl_generics"), .text " ", .hole (.named "name"),
      .hole (.named "generics"), .text " \x7b"],
    .each true "ctor" (.named "constructors")
      [docComment "    " (.memberOf "ctor" "doc_lines"),
        .choose (.memberOf "ctor" "deprecated") [fixedLine "    #[deprecated]"] [],
        fixedLine "    #[inline]",
        .line [.text "    pub fn ", .hole (.memberOf "ctor" "name"), .text "() -> ",
          .hole (.memberOf "ctor" "ty"), .text " \x7b"],
        .choose (.memberOf "ctor" "slots")
          [.line [.text "        ", .hole (.memberOf "ctor" "builder"), .text " \x7b"],
            slotLines "            " "init" (.memberOf "ctor" "slots"),
            fixedLine "        \x7d"]
          [.line [.text "        ", .hole (.memberOf "ctor" "builder")]],
        fixedLine "    \x7d"],
    fixedLine "\x7d"]

/-- The methods that fill a builder. -/
def settersTemplate : List Node :=
  [.line [.text "impl", .hole (.named "generics"), .text " ", .hole (.named "name"),
      .hole (.named "generics"), .text " \x7b"],
    .each true "setter" (.named "setters")
      [docComment "    " (.memberOf "setter" "doc_lines"),
        fixedLine "    #[inline]",
        .line [.text "    pub fn ", .hole (.memberOf "setter" "name"), .text "(mut self, value: ",
          .hole (.memberOf "setter" "arg_ty"), .text ") -> ", .hole (.memberOf "setter" "ret"),
          .text " \x7b"],
        .each false "statement" (.memberOf "setter" "statements")
          [indented "        " (.named "statement")],
        indented "        " (.memberOf "setter" "tail"),
        fixedLine "    \x7d"],
    fixedLine "\x7d"]

/-- The conversion of a finished builder into its object. -/
def conversionTemplate : List Node :=
  [.line [.text "impl", .hole (.named "impl_generics"), .text " From<",
      .hole (.named "builder_ty"), .text "> for ", .hole (.named "object_ty"),
      .text " \x7b"],
    .line [.text "    fn from(builder: ", .hole (.named "builder_ty"), .text ") -> Self \x7b"],
    .line [.text "        builder.", .hole (.named "data_path"), .text "body"],
    fixedLine "    \x7d",
    fixedLine "\x7d"]

/-- What sends a finished builder. -/
def sendableTemplate : List Node :=
  [.line [.text "impl<Client: ", .hole (.named "prefix"),
      .text "client::ApiClient + Sync + 'static> ", .hole (.named "prefix"),
      .text "client::Sendable<Client> for ", .hole (.named "builder_ty"), .text " \x7b"],
    .line [.text "    type Output = ", .hole (.named "output"), .text ";"],
    fixedLine "",
    .line [.text "    const METHOD: http::Method = http::Method::", .hole (.named "method"),
      .text ";"],
    fixedLine "",
    fixedLine "    fn rel_path(&self) -> std::borrow::Cow<'static, str> \x7b",
    indented "        " (.named "rel_path_expr"),
    fixedLine "    \x7d",
    fixedLine "\x7d"]

/-- The module of marker types. -/
def markersTemplate : List Node :=
  [fixedLine "/// Marker types tracking which required properties of a builder are set.",
    fixedLine "pub mod generics \x7b",
    .each true "marker" (.named "markers")
      [fixedLine "    #[derive(Debug, Clone)]",
        .line [.text "    pub struct ", .hole (.named "marker"), .text ";"]],
    fixedLine "\x7d"]

/-- The names of the templates. -/
inductive Name
  | object
  | builder
  | constructors
  | setters
  | conversion
  | sendable
  | markers
  deriving DecidableEq, Repr

namespace Name

/-- All templates. -/
def all : List Name :=
  [object, builder, constructors, setters, conversion, sendable, markers]

/-- The name by which a template is asked for. -/
def text : Name → String
  | object => "object.rs.j2"
  | builder => "builder.rs.j2"
  | constructors => "constructors.rs.j2"
  | setters => "setters.rs.j2"
  | conversion => "from_builder.rs.j2"
  | sendable => "sendable.rs.j2"
  | markers => "generics_module.rs.j2"

/-- The template of a name. -/
def template : Name → List Node
  | object => objectTemplate
  | builder => builderTemplate
  | constructors => constructorsTemplate
  | setters => settersTemplate
  | conversion => conversionTemplate
  | sendable => sendableTemplate
  | markers => markersTemplate

end Name

/-- A set of templates that can be asked for by name. -/
abbrev Catalogue := List Name

namespace Catalogue

/-- Whether a template has exactly this name. -/
def contains (catalogue : Catalogue) (text : String) : Bool :=
  catalogue.any fun name ↦ name.text == text

/-- The steps of a path, without those that are empty or a single dot. -/
def steps (text : String) : List (List Char) :=
  (text.toList.splitOn '/').filter fun step ↦ step ≠ [] ∧ step ≠ ['.']

/-- The template that a path leads to. -/
def find? (catalogue : Catalogue) (text : String) : Option Name :=
  List.find? (fun name ↦ steps text == [name.text.toList]) catalogue

/-- The text of the template that a path leads to, in a context. The name `self` cannot be a
variable. -/
def render (catalogue : Catalogue) (text : String) (context : Value) : Except FillError String :=
  match context, catalogue.find? text with
  | _, none => .error (.unknownTemplate text)
  | .object bindings, some name =>
    if (bindings.map Prod.fst).contains "self" then .error .badContext
    else (lines name.template bindings).map textOfLines
  | _, some _ => .error .badContext

end Catalogue

end TypestateBuilders.Template
