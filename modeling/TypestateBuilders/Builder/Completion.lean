import TypestateBuilders.Builder.Setter

/-!
# Finished builders

What can be done with a builder whose markers all say that their properties are set. The builder of
an object converts into the object (`Builder.conversion`). The builder of an operation can be sent
(`Builder.sendable`): it knows its method, the type it answers, and its path with the placeholders
filled in from the parameters (`Builder.pathExpression`).
-/

set_option autoImplicit false
set_option relaxedAutoImplicit false

namespace TypestateBuilders

open Naming

/-- The conversion of a finished builder into its object. -/
structure Conversion where
  /-- The type parameters of the implementation. -/
  implGenerics : String
  /-- The type of the finished builder. -/
  builderTy : String
  /-- The type of the object. -/
  objectTy : String
  /-- The way from the builder to the slots of its data. -/
  dataPath : String
  deriving DecidableEq, Repr

/-- What is needed to send a finished builder. -/
structure Sendable where
  /-- The path under which helper modules are found. -/
  helpers : String
  /-- The type of the finished builder. -/
  builderTy : String
  /-- The type of the answer; where it is dynamically typed, the value that was given for it. -/
  output : Value
  /-- The method on the wire. -/
  method : String
  /-- The expression for the path. -/
  pathExpression : String

namespace Builder

/-- The conversion of the finished builder into its object. -/
def conversion (builder : Builder) (layout : Layout) : Except Failure Conversion :=
  builder.accepted
    { implGenerics := anyGeneric builder.needsAny
      builderTy := builder.type .changeAll
      objectTy := builder.object ++ anyGeneric builder.needsAny
      dataPath := layout.dataPath }

/-! ### The path -/

/-- The template of the path: the root where no path is given. -/
def pathTemplate (builder : Builder) : GivenText :=
  if builder.relPath.isTrue then builder.relPath else .text "/"

/-- The properties that are sent in the path. -/
def pathProperties (builder : Builder) : List Property :=
  builder.properties.filter fun property ↦ property.location = some .path

/-- A name as it stands in a path where its value goes. -/
def placeholder (name : String) : List Char :=
  '\x7b' :: name.toList ++ ['\x7d']

/-- The template with the placeholder of each property named by the property's identifier. -/
def renamePlaceholders (template : List Char) (properties : List Property) : List Char :=
  properties.foldl (fun path property ↦
    Text.replaceAll (placeholder property.name) (placeholder property.key) path) template

/-- The argument that fills in the placeholder of a property. -/
def pathArgumentOf (layout : Layout) (property : Property) : String :=
  property.key ++ "=self." ++ layout.dataPath ++ property.valueSlot ++
    ".as_ref().expect(\"missing parameter " ++ property.name ++ "?\")"

/-- The expression that fills in a template. -/
def formatExpression (layout : Layout) (properties : List Property) (template : String) : String :=
  "format!(\"" ++ String.ofList (renamePlaceholders template.toList properties) ++ "\", " ++
    ", ".intercalate (properties.map (pathArgumentOf layout)) ++ ").into()"

/-- The expression for the path of a finished builder. Only a text can have its placeholders filled
in. -/
def pathExpression (builder : Builder) (layout : Layout) : Except Failure String :=
  match builder.pathProperties with
  | [] => .ok ("\"" ++ builder.pathTemplate.display ++ "\".into()")
  | properties => (builder.pathTemplate.require .path).map (formatExpression layout properties)

/-! ### The answer -/

/-- What stands for dynamically typed values in the answer: the value of the decoder, unless it is
false, and the default otherwise. -/
def answerAny (builder : Builder) (default : Value) : Value :=
  match builder.decoding with
  | some (_, coder) => if coder.anyValue.isTrue then coder.anyValue else default
  | none => default

/-- The type of one answer. -/
def singleResponse (builder : Builder) (anyValue : Value) : Except Failure Value :=
  if builder.response.isFile then .ok (.text (builder.helpers ++ "util::ResponseStream"))
  else
    match builder.response.tyPath, builder.response.containsAny with
    | .null, _ => .ok anyValue
    | ty, false => .ok ty
    | .text ty, true =>
      if ty = anyParameter then .ok anyValue
      else ((withAnyGeneric ty anyValue.display).map Value.text).mapError Failure.type
    | ty, true => .error (.notText .responseType ty.kindName)

/-- The type of the answer: that of one answer, or a sequence of such for an operation that answers
a list. -/
def responseType (builder : Builder) (anyValue : Value) : Except Failure Value :=
  (builder.singleResponse anyValue).map fun output ↦
    if builder.isListOperation then .text ("Vec<" ++ output.display ++ ">") else output

/-- The text that a value gives to the dynamically typed slot of a builder type. A value that is
false gives none, and one that is no text is refused. -/
def anyText (anyValue : Value) : Except Failure (Option String) :=
  match anyValue with
  | .text characters => .ok (some characters)
  | other => if other.isTrue then .error (.notText .anyValue other.kindName) else .ok none

/-- What is needed to send the finished builder of an operation with a given method. -/
def sendable (builder : Builder) (layout : Layout) (method : HttpMethod) (defaultAny : Value) :
    Except Failure Sendable := do
  builder.accepted ()
  let anyValue := builder.answerAny defaultAny
  let anyArgument ← if builder.needsAny then anyText anyValue else pure none
  let output ← builder.responseType anyValue
  let pathExpression ← builder.pathExpression layout
  pure
    { helpers := builder.helpers
      builderTy := builder.type .changeAll anyArgument
      output
      method := method.verb
      pathExpression }

end Builder

end TypestateBuilders
