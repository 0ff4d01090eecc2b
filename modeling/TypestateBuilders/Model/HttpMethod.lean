import TypestateBuilders.Text.Lowercase

/-!
# HTTP methods

The methods of the operations that address an object, in the order in which their builders are
generated. A method is found by name without regard to case (`HttpMethod.ofName?`).
-/

set_option autoImplicit false
set_option relaxedAutoImplicit false

namespace TypestateBuilders

/-- The method of an operation. -/
inductive HttpMethod
  | get
  | put
  | post
  | delete
  | options
  | head
  | patch
  deriving DecidableEq, Repr

namespace HttpMethod

/-- All methods, in the order of their builders. -/
def all : List HttpMethod :=
  [get, put, post, delete, options, head, patch]

/-- The place of a method in the order of builders. -/
def rank : HttpMethod → Nat
  | get => 0
  | put => 1
  | post => 2
  | delete => 3
  | options => 4
  | head => 5
  | patch => 6

/-- The name of a method as it enters the names of builders. -/
def name : HttpMethod → String
  | get => "Get"
  | put => "Put"
  | post => "Post"
  | delete => "Delete"
  | options => "Options"
  | head => "Head"
  | patch => "Patch"

/-- The name of a method on the wire. -/
def verb : HttpMethod → String
  | get => "GET"
  | put => "PUT"
  | post => "POST"
  | delete => "DELETE"
  | options => "OPTIONS"
  | head => "HEAD"
  | patch => "PATCH"

/-- The method with a name, in whatever case. -/
def ofName? (text : String) : Option HttpMethod :=
  all.find? fun method ↦ Text.lowercase method.name == Text.lowercase text

/-- What is said of a name that no method has. -/
def unknownMessage (text : String) : String :=
  "Unknown HTTP method: " ++ text

end HttpMethod

end TypestateBuilders
