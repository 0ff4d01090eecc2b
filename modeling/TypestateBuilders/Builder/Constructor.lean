import TypestateBuilders.Builder.Layout
import TypestateBuilders.DocComment

/-!
# Constructors

The function that creates a builder. It returns the builder with every marker missing, and
initialises the slots of the builder struct. Its documentation is the description of the operation,
or a summary where there is none or comments are switched off.
-/

set_option autoImplicit false
set_option relaxedAutoImplicit false

namespace TypestateBuilders

/-- The doc comment for a description; without one there is none. -/
def GivenText.docLines : GivenText → Except Failure (List String)
  | .absent => .ok []
  | given => (given.require .description).map fun text ↦ TypestateBuilders.docLines (some text)

/-- The name of a constructor that nothing else names. -/
def defaultConstructorName : String :=
  "builder"

/-- A function that creates a builder. -/
structure Constructor where
  /-- The name of the function. -/
  name : String
  /-- Its doc comment. -/
  docLines : List String
  /-- Whether the operation should no longer be used, by the truth of a value of any kind. -/
  deprecated : Value
  /-- The type that it returns. -/
  ty : String
  /-- The name of the builder struct. -/
  builder : String
  /-- The slots that it initialises. -/
  slots : List Slot
  deriving Repr

namespace Builder

/-- What a constructor does, in one sentence. -/
def summary (builder : Builder) : String :=
  match builder.method with
  | none => "Create a builder for this object."
  | some method =>
    "Create a builder for the `" ++ method.verb ++ "` operation at `" ++
      builder.relPath.display ++ "`."

/-- The documentation of the constructor: the description, if there is one and it is wanted, and the
summary otherwise. -/
def constructorText (builder : Builder) (addComments : Bool) : GivenText :=
  if addComments && builder.description.isTrue then builder.description else .text builder.summary

/-- The constructor of a builder with a given layout. -/
def constructor (builder : Builder) (layout : Layout) (addComments : Bool) :
    Except Failure Constructor := do
  builder.accepted ()
  let name ← builder.constructorName
  let docLines ← (builder.constructorText addComments).docLines
  pure
    { name := name.getD defaultConstructorName
      docLines
      deprecated := builder.deprecated
      ty := builder.type .replaceAll
      builder := builder.name
      slots := layout.outer }

end Builder

end TypestateBuilders
