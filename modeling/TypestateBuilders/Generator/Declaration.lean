import TypestateBuilders.Generator.Basic

/-!
# Declarations of an object

The source of one object: its struct (`Generator.renderObject`), the struct of each of its builders
(`Generator.renderBuilder`), and the implementations that create, fill and finish the builders
(`Generator.renderImpls`). A struct has one field per identifier. A later field with the identifier
of an earlier one is dropped or refused, as the policy says (`Generator.declareFields`).
-/

set_option autoImplicit false
set_option relaxedAutoImplicit false

namespace TypestateBuilders.Generator

open Naming

/-! ### The struct of an object -/

/-- A field as the struct of its object declares it: behind a pointer if it is boxed, and as an
option if it is not required. -/
def declareField (generator : Generator) (field : ObjectField) :
    Except Failure FieldDeclaration := do
  let plain ← (fieldType field.tyPath field.needsAny).mapError Failure.type
  let boxed := if field.boxed then "Box<" ++ plain ++ ">" else plain
  let docLines ← generator.comment field.description
  pure
    { name := fieldIdent field.name
      ty := if field.isRequired then boxed else "Option<" ++ boxed ++ ">"
      rename := if fieldIdent field.name = field.name then none else some field.name
      docLines }

/-- The fields of an object's struct, given the names of the fields declared so far by their
identifiers. -/
def declareFields (generator : Generator) (object : String) (declared : List (String × String)) :
    List ObjectField → Logged Failure (List FieldDeclaration)
  | [] => pure []
  | field :: rest =>
    match Keyed.get? (fieldIdent field.name) declared with
    | some kept => do
      let failure := Failure.repeatedField object field.name (fieldIdent field.name) kept
      match generator.collisionPolicy with
      | .refuse => liftM (Except.error failure : Except Failure Unit)
      | .drop => Logged.report [⟨.debug, failure.message ++ "; dropping it"⟩]
      declareFields generator object declared rest
    | none => do
      let first ← liftM (generator.declareField field)
      let others ←
        declareFields generator object ((fieldIdent field.name, field.name) :: declared) rest
      pure (first :: others)

section

variable {object : String} {declared : List (String × String)} {field : ObjectField}

/-- A field that is declared already is refused or left out. -/
theorem outcome_declareFields_of_declared (generator : Generator) {kept : String}
    (h : Keyed.get? (fieldIdent field.name) declared = some kept) (rest : List ObjectField) :
    (generator.declareFields object declared (field :: rest)).outcome =
      match generator.collisionPolicy with
      | .refuse => .error (.repeatedField object field.name (fieldIdent field.name) kept)
      | .drop => (generator.declareFields object declared rest).outcome := by
  rw [declareFields, h]
  cases generator.collisionPolicy with
  | refuse => rfl
  | drop => simp only [Logged.outcome_bind, Logged.outcome_report]; rfl

/-- A new field is declared in front of the rest, for which it counts as declared. -/
theorem outcome_declareFields_of_new (generator : Generator)
    (h : Keyed.get? (fieldIdent field.name) declared = none) (rest : List ObjectField) :
    (generator.declareFields object declared (field :: rest)).outcome =
      generator.declareField field >>= fun first ↦
        (generator.declareFields object
          ((fieldIdent field.name, field.name) :: declared) rest).outcome >>= fun others ↦
            pure (first :: others) := by
  rw [declareFields, h]
  simp only [Logged.outcome_bind, Logged.outcome_lift, Logged.outcome_pure]
  rfl

end

/-- The struct of an object. -/
def renderObject (generator : Generator) (object : ApiObject) : Logged Failure String := do
  let docLines ← liftM (generator.comment object.description)
  let fields ← generator.declareFields object.name [] object.fields
  liftM <| fill .object
    [("name", .text object.name),
      ("generics", .text (Builder.anyGeneric object.needsAny)),
      ("derives", generator.settings.derives),
      ("doc_lines", .ofTexts docLines),
      ("fields", .list (fields.map FieldDeclaration.value))]

/-! ### The struct of a builder -/

/-- The documentation of a builder struct, which links to the object and to the constructor that
creates the builder. -/
def headline (builder : Builder) (constructorName : Option String) : String :=
  let page := "./struct." ++ builder.object ++ ".html"
  match builder.method, constructorName with
  | some method, some name =>
    "Builder created by [`" ++ builder.object ++ "::" ++ name ++ "`](" ++ page ++ "#method." ++
      name ++ ") method for a `" ++ method.verb ++ "` operation associated with `" ++
      builder.object ++ "`."
  | _, _ => "Builder for [`" ++ builder.object ++ "`](" ++ page ++ ") object."

/-- The struct of a builder, and of its container if it has one. -/
def renderBuilder (builder : Builder) : Logged Failure String := do
  let constructorName ← builder.nameConstructor
  builder.unify
  let layout ← liftM builder.layout
  liftM <| fill .builder
    [("doc_lines", .ofTexts ["/// " ++ headline builder constructorName]),
      ("name", .text builder.name),
      ("generics", .text (builder.generics .generic)),
      ("container_name", .text builder.containerName),
      ("layout", layout.value)]

/-! ### Implementations -/

/-- The functions that create the builders of an object. -/
def renderConstructors (generator : Generator) (object : ApiObject)
    (laidOut : List (Builder × Layout)) : Except Failure String := do
  let constructors ← laidOut.mapM fun (builder, layout) ↦
    builder.constructor layout generator.addComments
  fill .constructors
    [("impl_generics", .text (if object.needsAny then "<" ++ anyParameter ++ ": Default>" else "")),
      ("name", .text object.name),
      ("generics", .text (Builder.anyGeneric object.needsAny)),
      ("constructors", .list (constructors.map Constructor.value))]

/-- The methods that fill a builder; there is no implementation without any. -/
def renderSetters (generator : Generator) (builder : Builder) (layout : Layout) :
    Except Failure (List String) := do
  let setters ← builder.setters layout generator.addComments
  if setters.isEmpty then pure []
  else
    let text ← fill .setters
      [("name", .text builder.name),
        ("generics", .text (builder.generics .generic)),
        ("setters", .list (setters.map Setter.value))]
    pure [text]

/-- What can be done with a finished builder. -/
def renderCompletion (generator : Generator) (builder : Builder) (layout : Layout) :
    Except Failure String :=
  match builder.method with
  | none => do fill .conversion (← builder.conversion layout).members
  | some method => do
    fill .sendable (← builder.sendable layout method generator.settings.defaultAnyValue).members

/-- The implementations for the builders of an object. -/
def renderImpls (generator : Generator) (object : ApiObject) (builders : List Builder) :
    Except Failure (List String) := do
  let laidOut ← builders.mapM fun builder ↦ builder.layout.map fun layout ↦ (builder, layout)
  let constructors ← generator.renderConstructors object laidOut
  let others ← laidOut.mapM fun (builder, layout) ↦ do
    let setters ← generator.renderSetters builder layout
    let completion ← generator.renderCompletion builder layout
    pure (setters ++ [completion])
  pure (constructors :: others.flatten)

/-! ### The whole of an object -/

/-- The source of an object. Its builders are named and unified while their structs are written, so
the implementations make no reports of their own. -/
def renderWhole (generator : Generator) (object : ApiObject) : Logged Failure String := do
  let builders := generator.builders object
  Logged.report [⟨.debug, "Rendering " ++ object.name ++ " with " ++ toString builders.length ++
    " builder(s)"⟩]
  let struct ← generator.renderObject object
  let builderStructs ← builders.mapM renderBuilder
  let impls ← if generator.settings.emitImpls.isTrue then
      liftM (generator.renderImpls object builders)
    else pure []
  pure ("\n".intercalate (struct :: builderStructs ++ impls))

end TypestateBuilders.Generator
