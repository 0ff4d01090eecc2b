import TypestateBuilders.Value.Display

/-!
# Templates

A template lays out lines of source text. It is a tree of nodes: lines with holes, repetitions over
the elements of a value, and choices by the truth of a value (`Node`). A hole names a variable of
the context, or a member of an object that a variable holds. `Template.lines` fills a template in;
it fails when a variable or member is missing, or when a repetition goes over a value without
elements (`FillError`). Templates decide nothing about the text that they lay out.
-/

set_option autoImplicit false
set_option relaxedAutoImplicit false

namespace TypestateBuilders.Template

/-- The variables that a template may refer to, the innermost first. -/
abbrev Scope := List (String × Value)

/-- A variable, or a member of the object that a variable holds. -/
inductive Reference
  | named (name : String)
  | memberOf (holder name : String)
  deriving DecidableEq, Repr

/-- A part of a line. -/
inductive Piece
  /-- A text that stands in the line as it is. -/
  | text (characters : String)
  /-- A value, shown by its text. -/
  | hole (reference : Reference)
  /-- The elements of a value, shown by their texts with a separator between them. -/
  | joined (separator : String) (reference : Reference)
  deriving DecidableEq, Repr

/-- A part of a template. -/
inductive Node
  /-- One line. -/
  | line (pieces : List Piece)
  /-- The body once for each element of a value, which it knows under a name; from the second time
  on with an empty line in front, if `spaced`. -/
  | each (spaced : Bool) (name : String) (source : Reference) (body : List Node)
  /-- One body if a value is true, and the other if it is false. -/
  | choose (condition : Reference) (whenTrue whenFalse : List Node)

/-- Why a template cannot be filled in. -/
inductive FillError
  | undefined (name : String)
  | noElements (kind : String)
  | unknownTemplate (name : String)
  | badContext
  deriving DecidableEq, Repr

/-- What is said of a template that cannot be filled in. -/
def FillError.message : FillError → String
  | .undefined name => "'" ++ name ++ "' is undefined"
  | .noElements kind => "'" ++ kind ++ "' object is not iterable"
  | .unknownTemplate name => name
  | .badContext => "the context does not name variables"

/-- A value that must be there. -/
def require (name : String) (found : Option Value) : Except FillError Value :=
  match found with
  | some value => .ok value
  | none => .error (.undefined name)

/-- The value that a reference stands for. -/
def Scope.resolve (scope : Scope) : Reference → Except FillError Value
  | .named name => require name (scope.lookup name)
  | .memberOf holder name => do
    require name ((← require holder (scope.lookup holder)).member? name)

/-- The elements that a reference stands for. -/
def Scope.elements (scope : Scope) (reference : Reference) : Except FillError (List Value) := do
  let value ← scope.resolve reference
  match value.elements? with
  | some elements => pure elements
  | none => throw (.noElements value.kindName)

/-- The text of a part of a line. -/
def Piece.fill (scope : Scope) : Piece → Except FillError String
  | .text characters => .ok characters
  | .hole reference => (scope.resolve reference).map Value.display
  | .joined separator reference =>
    (scope.elements reference).map fun elements ↦
      separator.intercalate (elements.map Value.display)

mutual

/-- The lines of a part of a template. -/
def Node.lines (scope : Scope) : Node → Except FillError (List String)
  | .line pieces => do
    let texts ← pieces.mapM (Piece.fill scope)
    pure [String.join texts]
  | .each spaced name source body => do
    let elements ← scope.elements source
    let blocks ← elements.mapM fun element ↦ nodesLines ((name, element) :: scope) body
    pure ((if spaced then [""] else []).intercalate blocks)
  | .choose condition whenTrue whenFalse => do
    if (← scope.resolve condition).isTrue then nodesLines scope whenTrue
    else nodesLines scope whenFalse

/-- The lines of several parts of a template, one after the other. -/
def nodesLines (scope : Scope) : List Node → Except FillError (List String)
  | [] => .ok []
  | node :: rest => do
    let first ← node.lines scope
    let others ← nodesLines scope rest
    pure (first ++ others)

end

/-- The lines of a template in a context. -/
def lines (template : List Node) (context : Scope) : Except FillError (List String) :=
  nodesLines context template

/-- A text of lines, each with its end. -/
def textOfLines (lines : List String) : String :=
  String.join (lines.map fun line ↦ line ++ "\n")

end TypestateBuilders.Template
