import TypestateBuilders.Registry.Provider

/-!
# Runs by the name of a language

Generation in one step: the generator that a name leads to is made from its settings and run over
some objects (`Registry.run`). `Registry.quickRun` answers the source alone, and fails when the run
does.
-/

set_option autoImplicit false
set_option relaxedAutoImplicit false

namespace TypestateBuilders

/-- Why a run has no outcome. -/
inductive RunError
  /-- The generator could not be made. -/
  | creation (error : CreationError)
  /-- A type of the model cannot be rendered. -/
  | failure (failure : Failure)

/-- Why a quick run answers no source. -/
inductive QuickError
  /-- An option has a name that is taken by another argument. -/
  | optionTaken (name : String)
  /-- The run has no outcome. -/
  | run (error : RunError)
  /-- The run failed. -/
  | failed (message : String)

namespace Registry

/-- The run over some objects of the generator that a name leads to. -/
def run (registry : Registry Provider) (store : Files.Store) (language : String)
    (source : SettingsSource) (objects : List ApiObject) : Logged RunError Outcome := do
  let (_, generator) ← (registry.create store language source).mapFailure RunError.creation
  (generator.run objects).mapFailure RunError.failure

/-- The names that options of a quick run cannot have. -/
def takenOptions : List String :=
  ["objects", "language"]

/-- The source of some objects by the generator that a name leads to. -/
def quickRun (registry : Registry Provider) (language : String) (options : List (String × Value))
    (objects : List ApiObject) : Except QuickError String :=
  match options.find? fun option ↦ takenOptions.contains option.1 with
  | some option => .error (.optionTaken option.1)
  | none =>
    match (registry.run [] language (.members options) objects).outcome with
    | .error error => .error (.run error)
    | .ok (.generated code _ _) => .ok code
    | .ok (.failed failure) => .error (.failed ("Code generation failed: " ++ failure.runMessage))

end Registry

end TypestateBuilders
