import TypestateBuilders.Generator.Declaration
import TypestateBuilders.Text.Blank

/-!
# Source files

The source of all objects of a run: a header, the objects in order, and the module that declares the
marker types (`Generator.generate`). A marker type is declared once for the whole run, wherever a
builder or a field that takes finished builders names it (`Generator.markerNames`).

`tidy` brings a source text into its final form: no line ends in a blank character, and of several
empty lines in a row at most two stay.
-/

set_option autoImplicit false
set_option relaxedAutoImplicit false

namespace TypestateBuilders

open Naming

namespace Generator

/-- The names of both marker types of a property. -/
def bothNames (marker : String) : List String :=
  [missingName marker, existsName marker]

/-- The names of the marker types that the fields of an object name as those of their children. -/
def childMarkerNames (object : ApiObject) : List String :=
  object.fields.flatMap fun field ↦
    field.childRequired.flatMap fun name ↦ bothNames (markerIdent name)

/-- The names of the marker types that an object names. -/
def objectMarkerNames (generator : Generator) (object : ApiObject) :
    Logged Failure (List String) := do
  let own ← (generator.builders object).mapM fun builder ↦ do
    builder.unify
    pure (builder.markers.flatMap fun marker ↦ bothNames marker.param)
  pure (own.flatten ++ childMarkerNames object)

/-- The names of all marker types that the builders of a run refer to. -/
def markerNames (generator : Generator) (objects : List ApiObject) : Logged Failure (List String) :=
  do
    let names ← objects.mapM generator.objectMarkerNames
    pure (Text.distinctInOrder names.flatten)

/-- The head of a Rust source file. -/
def fileHeader : String :=
  "use serde::\x7bDeserialize, Serialize\x7d;\n"

/-- The module that declares the marker types; without any there is none. -/
def renderMarkers (markers : List String) : Except Failure (List String) :=
  if markers.isEmpty then .ok []
  else (fill .markers [("markers", .ofTexts markers)]).map fun text ↦ [text]

/-- The source of the structs and builders of all objects. -/
def generateBuilders (generator : Generator) (objects : List ApiObject) :
    Logged Failure String := do
  let sources ← objects.mapM generator.renderWhole
  let markers ← generator.markerNames objects
  let markerModule ← liftM (renderMarkers markers)
  pure ("\n".intercalate (fileHeader :: sources ++ markerModule))

/-- The source of all objects. -/
def generate (generator : Generator) (objects : List ApiObject) : Logged Failure String :=
  match generator.target.style with
  | .builders => generator.generateBuilders objects
  | .outline => pure ("\n".intercalate (objects.map ApiObject.name))

end Generator

/-! ### The final form -/

/-- Lines without the blank characters at their ends, and with at most two empty ones in a row, when
`empty` empty ones stand in front. -/
def tidyLines (empty : Nat) : List (List Char) → List (List Char)
  | [] => []
  | line :: rest =>
    match Text.trimRight line with
    | [] => if empty < 2 then [] :: tidyLines (empty + 1) rest else tidyLines (empty + 1) rest
    | kept => kept :: tidyLines 0 rest

/-- A source text in its final form. -/
def tidy (source : String) : String :=
  String.ofList (['\n'].intercalate (tidyLines 0 (source.toList.splitOn '\n')))

end TypestateBuilders
