import TypestateBuilders.Builder.Constructor

/-!
# Setters

The methods that fill a builder. The setter of a parameter writes the slot of the parameter, and the
field of the body that goes along with it (`Builder.parameterSetter`). The setter of a field writes
the field of the body, and takes a finished builder where the field's object has required fields of
its own (`Builder.fieldSetter`). The setter of a required property returns the builder with the
property's marker set, by reinterpreting it; every other setter returns the builder as it is.
-/

set_option autoImplicit false
set_option relaxedAutoImplicit false

namespace TypestateBuilders

open Naming

/-- A method that fills a builder. -/
structure Setter where
  /-- The name of the method. -/
  name : String
  /-- Its doc comment. -/
  docLines : List String
  /-- The type of the value it takes. -/
  argTy : String
  /-- The type it returns. -/
  ret : String
  /-- The expression it returns. -/
  tail : String
  /-- What it does before it returns. -/
  statements : List String
  deriving DecidableEq, Repr

/-- The expression that reinterprets a builder with other markers. -/
def transmute : String :=
  "unsafe \x7b core::mem::transmute(self) \x7d"

/-- The type of values that give a path to a file. -/
def pathArgument : String :=
  "impl AsRef<std::path::Path>"

/-- The type of values that convert into a type. -/
def intoArgument (ty : String) : String :=
  "impl Into<" ++ ty ++ ">"

/-- A value wrapped as a field is declared: behind a pointer if it is boxed, and as present if it is
optional. -/
def ObjectField.store (field : ObjectField) (value : String) : String :=
  let boxed := if field.boxed then "Box::new(" ++ value ++ ")" else value
  if field.isRequired then boxed else "Some(" ++ boxed ++ ")"

/-- The type a setter takes and the statements it runs. -/
structure SetterBody where
  /-- The type of the value it takes. -/
  argTy : String
  /-- What it does before it returns. -/
  statements : List String
  deriving DecidableEq, Repr

namespace Builder

/-- The field of the body that goes along with a parameter. -/
def mergedField? (builder : Builder) (property : Property) : Option ObjectField :=
  if property.overridden && builder.bodyRequired then builder.objectField? property.name else none

/-- The way from a builder to a field of its body. -/
def bodySlot (data : String) (field : ObjectField) : String :=
  data ++ "body." ++ fieldIdent field.name

/-- The setter of a parameter, for data found behind `data`. -/
def parameterSetter (builder : Builder) (data : String) (property : Property) :
    Except TypeFault SetterBody :=
  let slot := data ++ property.valueSlot
  if property.needsFile then
    .ok ⟨pathArgument, [slot ++ " = Some(value.as_ref().into());"]⟩
  else
    (wrapDelimited builder.helpers property.ty property.delimiting).map fun ty ↦
      if ty ≠ property.ty then ⟨ty, [slot ++ " = Some(value);"]⟩
      else
        match builder.mergedField? property with
        | some field =>
          ⟨intoArgument ty,
            ["let value: " ++ ty ++ " = value.into();", slot ++ " = Some(value.clone());",
              bodySlot data field ++ " = " ++ field.store "value" ++ ";"]⟩
        | none => ⟨intoArgument ty, [slot ++ " = Some(value.into());"]⟩

/-- Whether a field takes finished builders: its object has required fields and belongs to the
generated crate. -/
def takesBuilders (field : ObjectField) : Except TypeFault Bool :=
  if field.childRequired.isEmpty then .ok false
  else (leafType field.tyPath).map fun leaf ↦ !isSimpleType leaf

/-- The type a field's setter takes and the expression it stores. -/
def fieldArgument (builder : Builder) (field : ObjectField) : Except TypeFault (String × String) :=
  do
    if ← takesBuilders field then
      let anyValue := if field.needsAny then some anyParameter else none
      let argTy ← childBuilderType builder.helpers field.tyPath field.childRequired anyValue
      pure (argTy, ← convertValue field.tyPath "value")
    else if field.tyPath = fileMarker then pure (pathArgument, "value.as_ref().into()")
    else pure (intoArgument (← fieldType field.tyPath field.needsAny), "value.into()")

/-- The setter of a field, for data found behind `data`. -/
def fieldSetter (builder : Builder) (data : String) (field : ObjectField) :
    Except TypeFault SetterBody :=
  (builder.fieldArgument field).map fun (argTy, value) ↦
    ⟨argTy, [bodySlot data field ++ " = " ++ field.store value ++ ";"]⟩

/-- What the setter of a property takes and does. A field has no setter when there is no body to put
it into. -/
def setterBody? (builder : Builder) (data : String) (property : Property) :
    Except TypeFault (Option SetterBody) :=
  if property.kind.isParameter then (builder.parameterSetter data property).map some
  else if builder.bodyRequired then
    match builder.objectField? property.name with
    | some field => (builder.fieldSetter data field).map some
    | none => .ok none
  else .ok none

/-- What the setter of a property returns: the builder with the property's marker set if it has one,
and the builder as it is otherwise. -/
def setterType (builder : Builder) (markers : List Marker) (property : Property) : String :=
  if property.kind.isRequired then
    builder.name ++ bracketed (builder.argumentsFor markers (.changeOne property.name) none)
  else "Self"

/-- The setter of a property that takes and does what `body` says. -/
def setterOf (builder : Builder) (markers : List Marker) (property : Property)
    (docLines : List String) (body : SetterBody) : Setter where
  name := property.key
  docLines
  argTy := body.argTy
  ret := builder.setterType markers property
  tail := if property.kind.isRequired then transmute else "self"
  statements := body.statements

/-- The setter of a property, if it has one, for data found behind `data`. -/
def setter? (builder : Builder) (data : String) (markers : List Marker) (addComments : Bool)
    (property : Property) : Except Failure (Option Setter) := do
  match ← (builder.setterBody? data property).mapError Failure.type with
  | none => pure none
  | some body =>
    let docLines ← if addComments then property.description.docLines else pure []
    pure (some (builder.setterOf markers property docLines body))

/-- The setters of a builder, in the order of its properties. -/
def setters (builder : Builder) (layout : Layout) (addComments : Bool) :
    Except Failure (List Setter) := do
  builder.accepted ()
  let markers := builder.markers
  let found ← builder.properties.mapM
    (builder.setter? ("self." ++ layout.dataPath) markers addComments)
  pure found.reduceOption

end Builder

end TypestateBuilders
