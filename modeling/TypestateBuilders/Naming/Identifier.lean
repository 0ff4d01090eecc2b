import TypestateBuilders.Naming.Sanitizer

/-!
# Rust identifiers

The names that generated Rust code uses for the properties of a model. A field or function is named
by `fieldIdent`, in snake case and never a keyword. A name that stands behind another word, as in
`param_type`, needs no keyword check (`snakeIdent`). The typestate markers of a property are named
after `markerIdent`, in Pascal case and never a keyword.
-/

set_option autoImplicit false
set_option relaxedAutoImplicit false

namespace TypestateBuilders.Naming

/-- The strict, reserved and weak keywords of all Rust editions. -/
def rustKeywords : List String :=
  ["abstract", "as", "async", "await", "become", "box", "break", "const", "continue", "crate",
    "do", "dyn", "else", "enum", "extern", "false", "final", "fn", "for", "if", "impl", "in", "let",
    "loop", "macro", "match", "mod", "move", "mut", "override", "priv", "pub", "ref", "return",
    "self", "Self", "static", "struct", "super", "trait", "true", "try", "type", "typeof", "unsafe",
    "unsized", "use", "virtual", "where", "while", "yield"]

/-- The sanitizer for Rust code: the keywords are reserved, and no type name is. -/
def rustSanitizer : Sanitizer :=
  ⟨rustKeywords, []⟩

/-- What is appended to a name that is a keyword. -/
def keywordSuffix : String :=
  "_"

/-- The snake-cased identifier of a struct field or function. -/
def fieldIdent (name : String) : String :=
  rustSanitizer.sanitize name .snake keywordSuffix

/-- The snake-cased name for use behind another word, where keywords are harmless. -/
def snakeIdent (name : String) : String :=
  Sanitizer.convert .snake name

/-- The Pascal-cased name of the typestate markers of a property. -/
def markerIdent (name : String) : String :=
  rustSanitizer.sanitize name .pascal keywordSuffix

end TypestateBuilders.Naming
