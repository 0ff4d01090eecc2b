import TypestateBuilders.Model.Object
import TypestateBuilders.Naming.Identifier

/-!
# Properties of a builder

A builder is filled property by property. A property comes from a field of the object or from a
parameter of the operation, and is required or optional (`PropertyKind`). A required property
carries a typestate marker. A field counts as required only when the operation sends the object as
its body (`Property.ofField`).
-/

set_option autoImplicit false
set_option relaxedAutoImplicit false

namespace TypestateBuilders

open Naming

/-- Where a property comes from and whether it must be set. -/
inductive PropertyKind
  | requiredField
  | optionalField
  | requiredParameter
  | optionalParameter
  deriving DecidableEq, Repr

namespace PropertyKind

/-- The name of a kind. -/
def name : PropertyKind → String
  | requiredField => "required_field"
  | optionalField => "optional_field"
  | requiredParameter => "required_param"
  | optionalParameter => "optional_param"

/-- Whether properties of a kind must be set. -/
def isRequired : PropertyKind → Bool
  | requiredField | requiredParameter => true
  | optionalField | optionalParameter => false

/-- Whether properties of a kind come from parameters. -/
def isParameter : PropertyKind → Bool
  | requiredParameter | optionalParameter => true
  | requiredField | optionalField => false

/-- Whether properties of a kind come from fields. -/
def isField (kind : PropertyKind) : Bool :=
  !kind.isParameter

end PropertyKind

/-- A field or a parameter as its builder sees it. -/
structure Property where
  /-- The name on the wire. -/
  name : String
  /-- The type of the value. -/
  ty : String
  /-- Where it comes from and whether it must be set. -/
  kind : PropertyKind
  /-- What the description says about it. -/
  description : GivenText := .absent
  /-- Whether a field of the same name and type goes along with this parameter. -/
  overridden : Bool := false
  /-- The required fields of the object type below all containers. -/
  childFields : List String := []
  /-- The formats of nested arrays, outermost first. -/
  delimiting : List CollectionFormat := []
  /-- Where a parameter is sent. -/
  location : Option ParameterLocation := none
  /-- Whether the type holds dynamically typed values. -/
  needsAny : Bool := false
  /-- Whether the value is a file. -/
  needsFile : Bool := false
  deriving DecidableEq, Repr

namespace Property

/-- A field as a property of a builder whose body is required or not. -/
def ofField (bodyRequired : Bool) (field : ObjectField) : Property where
  name := field.name
  ty := field.tyPath
  kind := if bodyRequired && field.isRequired then .requiredField else .optionalField
  description := field.description
  childFields := field.childRequired
  needsAny := field.needsAny
  needsFile := field.tyPath = fileMarker

/-- A parameter as a property. -/
def ofParameter (parameter : Parameter) : Property where
  name := parameter.name
  ty := parameter.tyPath
  kind := if parameter.required then .requiredParameter else .optionalParameter
  description := parameter.description
  delimiting := parameter.delimiting
  location := some parameter.location
  needsFile := parameter.tyPath = fileMarker

/-- The identifier by which properties are told apart, which also names the setter. -/
def key (property : Property) : String :=
  fieldIdent property.name

/-- The name of a property inside the names of slots. -/
def ident (property : Property) : String :=
  snakeIdent property.name

/-- The name of the slot that keeps a parameter. -/
def valueSlot (property : Property) : String :=
  "param_" ++ property.ident

/-- The name of the slot that carries the marker of a property. -/
def markerSlot (property : Property) : String :=
  (if property.kind.isParameter then "_param_" else "_") ++ property.ident

/-- Why the second of two properties is dropped in favour of the first. -/
def describeCollision (kept dropped : Property) : String :=
  if kept.name = dropped.name then
    "'" ++ dropped.name ++ "' declared as '" ++ dropped.ty ++ "' is dropped in favour of '" ++
      kept.ty ++ "'"
  else
    "'" ++ dropped.name ++ "' is dropped because '" ++ kept.name ++
      "' has the same Rust name '" ++ kept.key ++ "'"

end Property

end TypestateBuilders
