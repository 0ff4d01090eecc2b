import TypestateBuilders.Builder.Property
import TypestateBuilders.TypePath.Rendering

/-!
# Builders

A `Builder` joins the fields of one object with the parameters of one operation that addresses it.
The builder of the object itself has no operation. This module holds the type, the names of the
structs that are generated for a builder, the name of the function that creates it, and the causes
for which generation stops (`Failure`).

A function is named after the operation's identifier. Without one it is named after the method, with
the number of the path behind it where several paths have operations; a strict policy refuses that
case (`Builder.constructorName`).
-/

set_option autoImplicit false
set_option relaxedAutoImplicit false

namespace TypestateBuilders

open Naming

/-- What becomes of the later one of two declarations that share an identifier. -/
inductive CollisionPolicy
  | drop
  | refuse
  deriving DecidableEq, Repr

/-- The policy that a setting names; only `error` is strict. -/
def CollisionPolicy.ofText (text : String) : CollisionPolicy :=
  if text = "error" then .refuse else .drop

/-- What becomes of an operation without an identifier where several paths have operations. -/
inductive UnnamedPolicy
  | indexed
  | refuse
  deriving DecidableEq, Repr

/-- The policy that a setting names; only `error` is strict. -/
def UnnamedPolicy.ofText (text : String) : UnnamedPolicy :=
  if text = "error" then .refuse else .indexed

/-- One object together with one operation, or with none. -/
structure Builder where
  /-- The name of the object. -/
  object : String
  /-- The fields of the object. -/
  fields : List ObjectField := []
  /-- The place of the operation's path among all paths of the object, as a number of any kind. -/
  index : Value := .int 0
  /-- What the description says about the operation. -/
  description : GivenText := .absent
  /-- Whether the object is sent as the body. -/
  bodyRequired : Bool := false
  /-- The path under which helper modules are found. -/
  helpers : String := "crate::"
  /-- The identifier of the operation. -/
  operationId : GivenText := .absent
  /-- Whether the operation should no longer be used, by the truth of a value of any kind. -/
  deprecated : Value := .bool false
  /-- The method of the operation; the object's own builder has none. -/
  method : Option HttpMethod := none
  /-- The path of the operation. -/
  relPath : GivenText := .absent
  /-- Whether the operation answers a list. -/
  isListOperation : Bool := false
  /-- What the operation answers. -/
  response : Response := {}
  /-- The media range of response bodies and the coder for it. -/
  decoding : Option (String × Coder) := none
  /-- Whether several paths of the object have operations. -/
  severalPaths : Bool := false
  /-- The parameters of all operations at the path. -/
  sharedParams : List Parameter := []
  /-- The parameters of the operation alone. -/
  ownParams : List Parameter := []
  /-- Whether the object is generic over dynamically typed values. -/
  needsAny : Bool := false
  /-- What becomes of colliding declarations. -/
  collisionPolicy : CollisionPolicy := .drop
  /-- What becomes of operations without an identifier. -/
  unnamedPolicy : UnnamedPolicy := .indexed
  deriving Repr

/-- What a text is needed for. -/
inductive TextRole
  /-- The value for dynamically typed slots. -/
  | anyValue
  /-- The identifier of an operation. -/
  | operationId
  /-- A description that becomes a doc comment. -/
  | description
  /-- The path of an operation with placeholders in it. -/
  | path
  /-- The type of a response that holds dynamically typed values. -/
  | responseType
  deriving DecidableEq, Repr

/-- The name of what a text is needed for. -/
def TextRole.name : TextRole → String
  | anyValue => "the value of Any"
  | operationId => "the identifier of an operation"
  | description => "a description"
  | path => "a path"
  | responseType => "the type of a response"

/-- Why the source of a model is not generated. -/
inductive Failure
  /-- Two declarations of one builder collide. -/
  | collision (builder : String) (kept dropped : Property)
  /-- Two fields of one struct share an identifier. -/
  | repeatedField (object field ident kept : String)
  /-- An operation has no identifier to name its constructor. -/
  | unnamedOperation (verb path object : String)
  /-- A template cannot be filled in. -/
  | template (name cause : String)
  /-- A type of the model cannot be rendered. -/
  | type (fault : TypeFault)
  /-- Something that is needed as a text is a value of another kind. -/
  | notText (role : TextRole) (kind : String)
  /-- It is not known which fields the objects in a field must have. -/
  | unknownChildren (field : String)
  deriving DecidableEq, Repr

/-- The text of a failure without what a template says about its cause. -/
def Failure.headline : Failure → String
  | .collision builder kept dropped => builder ++ ": " ++ kept.describeCollision dropped
  | .repeatedField object field ident kept =>
    object ++ ": field '" ++ field ++ "' has the same Rust name '" ++ ident ++ "' as '" ++ kept ++
      "'"
  | .unnamedOperation verb path object =>
    "Operation " ++ verb ++ " " ++ path ++ " on " ++ object ++
      " has no operation ID to name its constructor"
  | .template name _ => "Failed to render template " ++ name
  | .type fault => fault.message
  | .notText role kind => "expected a text for " ++ role.name ++ ", found " ++ kind
  | .unknownChildren field =>
    "the required fields of the objects in '" ++ field ++ "' are not known"

/-- The whole text of a failure. -/
def Failure.message : Failure → String
  | .template name cause => "Failed to render template " ++ name ++ ": " ++ cause
  | failure => failure.headline

/-- The text, where one is needed. -/
def GivenText.require (role : TextRole) : GivenText → Except Failure String
  | .text characters => .ok characters
  | given => .error (.notText role given.kindName)

namespace Builder

/-- The name of the builder struct: the object, the method, and the number of the path if it is
above zero. -/
def name (builder : Builder) : String :=
  builder.object ++ (builder.method.map HttpMethod.name).getD "" ++ "Builder" ++
    (if builder.index.isPositive then builder.index.display else "")

/-- The name of the struct that holds the builder's data when it is split off. -/
def containerName (builder : Builder) : String :=
  builder.name ++ "Container"

/-- The name that the method gives to a constructor: the number of the path is put behind it where
several paths have operations, if it is above zero. -/
def methodName (builder : Builder) (method : HttpMethod) : String :=
  fieldIdent method.name ++
    (if builder.severalPaths && builder.index.isPositive then "_" ++ builder.index.display else "")

/-- The method that has to name the constructor, where the operation has no identifier. -/
def namingMethod? (builder : Builder) : Option HttpMethod :=
  if builder.operationId.isTrue then none else builder.method

/-- The name of the function that creates the builder. The builder of an object has none of its
own. -/
def constructorName (builder : Builder) : Except Failure (Option String) :=
  if builder.operationId.isTrue then
    (builder.operationId.require .operationId).map fun id ↦ some (fieldIdent id)
  else
    match builder.method with
    | none => .ok none
    | some method =>
      if builder.severalPaths && builder.unnamedPolicy = .refuse then
        .error (.unnamedOperation method.verb builder.relPath.display builder.object)
      else .ok (some (builder.methodName method))

/-- The first field that has the same identifier as a name. -/
def objectField? (builder : Builder) (name : String) : Option ObjectField :=
  let ident := fieldIdent name
  builder.fields.find? fun field ↦ fieldIdent field.name == ident

/-- The angle brackets of a type that is generic over dynamically typed values. -/
def anyGeneric (needsAny : Bool) : String :=
  if needsAny then angled [anyParameter] else ""

end Builder

end TypestateBuilders
