import TypestateBuilders.Model.Operation
import TypestateBuilders.Text.Order

/-!
# Objects

A record type of the generated crate: its fields, and the operations that address it, by path and
method. The tables of paths and of methods come in any order; `ApiObject.sortedPaths` and
`PathOperations.sorted` go through them in the one order that generated code follows, paths by code
points and methods by their rank.
-/

set_option autoImplicit false
set_option relaxedAutoImplicit false

namespace TypestateBuilders

/-- A field of an object. -/
structure ObjectField where
  /-- The name on the wire. -/
  name : String
  /-- The type of the value. -/
  tyPath : String
  /-- What the description says about it. -/
  description : GivenText := .absent
  /-- Whether an object must have it. -/
  isRequired : Bool := false
  /-- Whether its type holds dynamically typed values. -/
  needsAny : Bool := false
  /-- Whether it is kept behind a pointer. -/
  boxed : Bool := false
  /-- The required fields of the object type that is left when all containers are taken off, unless
  they are not known. -/
  knownChildren : Option (List String) := some []
  deriving DecidableEq, Repr

namespace ObjectField

/-- Whether it is known which fields the objects in a field must have. -/
def hasKnownChildren (field : ObjectField) : Bool :=
  field.knownChildren.isSome

/-- The fields that the objects in a field must have, as far as they are known. -/
def childRequired (field : ObjectField) : List String :=
  field.knownChildren.getD []

end ObjectField

/-- The operations at one path. -/
structure PathOperations where
  /-- The operations by method. -/
  operations : List (HttpMethod × Operation) := []
  /-- The parameters of all operations at this path. -/
  params : List Parameter := []
  deriving Repr

/-- The operations at a path in the order of their methods. -/
def PathOperations.sorted (path : PathOperations) : List (HttpMethod × Operation) :=
  path.operations.mergeSort fun first second ↦ first.1.rank ≤ second.1.rank

/-- A record type with the operations that address it. -/
structure ApiObject where
  /-- The name of the type. -/
  name : String
  /-- What the description says about it. -/
  description : GivenText := .absent
  /-- The dotted path of the type in the generated namespace. -/
  path : String := ""
  /-- The fields, in order. -/
  fields : List ObjectField := []
  /-- The operations by path. -/
  paths : List (String × PathOperations) := []
  deriving Repr

namespace ApiObject

/-- Whether the type is generic over dynamically typed values. -/
def needsAny (object : ApiObject) : Bool :=
  object.fields.any ObjectField.needsAny

/-- The paths of an object in the order of their code points. -/
def sortedPaths (object : ApiObject) : List (String × PathOperations) :=
  object.paths.mergeSort fun first second ↦ Text.notAfter first.1 second.1

/-- The field with a given name. -/
def field? (object : ApiObject) (name : String) : Option ObjectField :=
  object.fields.find? fun field ↦ field.name == name

end ApiObject

end TypestateBuilders
