import TypestateBuilders.Generator.Source
import TypestateBuilders.Generator.Check

/-!
# Generation runs

A run checks the objects, generates their source and brings it into its final form
(`Generator.run`). A refusal by a policy or a template that cannot be filled in ends the run with a
failed `Outcome`; a type that cannot be rendered is a fault of the model and passes through.
-/

set_option autoImplicit false
set_option relaxedAutoImplicit false

namespace TypestateBuilders

/-- Facts about a run. -/
structure Metadata where
  /-- The name of the language. -/
  language : String
  /-- The ending of the names of source files. -/
  fileExtension : String
  /-- The number of objects. -/
  objectCount : Nat
  /-- The number of operations that address them. -/
  operationCount : Nat
  /-- Whether some object is generic over dynamically typed values. -/
  needsAny : Bool
  deriving DecidableEq, Repr

/-- How a run ends. -/
inductive Outcome
  /-- The source, what is doubtful about it, and facts about the run. -/
  | generated (code : String) (warnings : List String) (metadata : Metadata)
  /-- Why there is no source. -/
  | failed (failure : Failure)
  deriving DecidableEq, Repr

/-- Whether a failure is an outcome of a run, as against a fault of the model. -/
def Failure.isOutcome : Failure → Bool
  | .collision .. | .repeatedField .. | .unnamedOperation .. | .template .. => true
  | .type .. | .notText .. | .unknownChildren .. => false

/-- The text of a failed run. -/
def Failure.runMessage (failure : Failure) : String :=
  "Code generation failed: " ++ failure.message

namespace Generator

/-- The number of operations that address some objects. -/
def operationCount (objects : List ApiObject) : Nat :=
  (objects.flatMap fun object ↦ object.paths.flatMap fun path ↦ path.2.operations).length

/-- Facts about a run. -/
def metadata (generator : Generator) (objects : List ApiObject) : Metadata where
  language := generator.target.language
  fileExtension := generator.target.fileExtension
  objectCount := objects.length
  operationCount := operationCount objects
  needsAny := objects.any ApiObject.needsAny

/-- The checks of some objects and their source in its final form. -/
def produce (generator : Generator) (objects : List ApiObject) :
    Logged Failure (List String × String) := do
  let warnings ← generator.check objects
  let source ← generator.generate objects
  pure (warnings, tidy source)

/-- A run over some objects. What it ends with is reported: a failure, or everything that is
doubtful. -/
def run (generator : Generator) (objects : List ApiObject) : Logged Failure Outcome :=
  let produced := generator.produce objects
  match produced.outcome with
  | .ok (warnings, code) =>
    ⟨produced.entries ++ warnings.map fun warning ↦ ⟨.warning, warning⟩,
      .ok (.generated code warnings (generator.metadata objects))⟩
  | .error failure =>
    if failure.isOutcome then
      ⟨produced.entries ++ [⟨.error, failure.runMessage⟩], .ok (.failed failure)⟩
    else ⟨produced.entries, .error failure⟩

end Generator

end TypestateBuilders
