import TypestateBuilders.Generator.Basic

/-!
# Checks of a model

What is doubtful about the objects of a run, though it can be generated: names that are used twice,
objects without fields, declarations that are dropped, type parameters that had to be renamed, and
operations without an identifier (`Generator.check`).
-/

set_option autoImplicit false
set_option relaxedAutoImplicit false

namespace TypestateBuilders

open Naming

/-- The texts that occur more than once, in the order of their code points, with how often they
do. -/
def repeated (texts : List String) : List (String × Nat) :=
  ((Text.distinctInOrder texts).map fun text ↦ (text, texts.count text)).filter fun entry ↦
    1 < entry.2

namespace Generator

/-- What is doubtful about objects whatever their target is. -/
def checkNames (objects : List ApiObject) : List String :=
  ((repeated (objects.map ApiObject.name)).map fun (name, count) ↦
    "Object name '" ++ name ++ "' is used by " ++ toString count ++ " objects") ++
  ((objects.filter fun object ↦ object.fields.isEmpty).map fun object ↦
    "Object '" ++ object.name ++ "' has no fields")

/-- What is doubtful about the identifiers of an object's fields. -/
def checkFields (object : ApiObject) : List String :=
  (repeated (object.fields.map fun field ↦ fieldIdent field.name)).map fun (ident, count) ↦
    "Object '" ++ object.name ++ "' has " ++ toString count ++ " fields named '" ++ ident ++
      "' in Rust"

/-- What is doubtful about the builder of an operation that has no identifier. -/
def checkUnnamed (builder : Builder) : List String :=
  match builder.namingMethod?, builder.severalPaths with
  | some method, true =>
    ["Operation " ++ method.verb ++ " " ++ builder.relPath.display ++ " on '" ++
      builder.object ++ "' has no operation ID"]
  | _, _ => []

/-- What is doubtful about a marker that had to take another name for its type parameter. -/
def checkMarker (builder : Builder) (marker : Marker) : List String :=
  match marker.typeParam with
  | some param =>
    [builder.name ++ ": type parameter of '" ++ marker.propertyName ++ "' is named '" ++ param ++
      "' since '" ++ marker.param ++ "' is taken"]
  | none => []

/-- What is doubtful about a builder. -/
def checkBuilder (builder : Builder) : Logged Failure (List String) := do
  builder.unify
  pure <|
    (builder.collisions.map fun (kept, dropped) ↦
      builder.name ++ ": " ++ kept.describeCollision dropped) ++
    builder.markers.flatMap (checkMarker builder) ++
    checkUnnamed builder

/-- What is doubtful about an object. -/
def checkObject (generator : Generator) (object : ApiObject) : Logged Failure (List String) := do
  let builders ← (generator.builders object).mapM checkBuilder
  pure (checkFields object ++ builders.flatten)

/-- What is doubtful about the objects of a run. -/
def check (generator : Generator) (objects : List ApiObject) : Logged Failure (List String) :=
  match generator.target.style with
  | .outline => pure (checkNames objects)
  | .builders => do
    let found ← objects.mapM generator.checkObject
    pure (checkNames objects ++ found.flatten)

end Generator

end TypestateBuilders
