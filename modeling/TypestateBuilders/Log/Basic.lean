/-!
# Log entries and logged computations

A generation run reports what it decides on the way. `Entry` is one report and `Logged ε α` a
computation that makes reports, in order, and then either fails with an `ε` or answers an `α`; what
was reported before a failure stays. Forgetting the reports commutes with sequencing
(`Logged.outcome_bind`), so what a run answers can be studied without them.
-/

set_option autoImplicit false
set_option relaxedAutoImplicit false

namespace TypestateBuilders.Log

/-- How grave a report is. -/
inductive Level
  | debug
  | info
  | warning
  | error
  deriving DecidableEq, Repr

/-- The rank of a level; graver levels have greater ranks. -/
def Level.rank : Level → Nat
  | .debug => 10
  | .info => 20
  | .warning => 30
  | .error => 40

/-- The name of a level. -/
def Level.name : Level → String
  | .debug => "DEBUG"
  | .info => "INFO"
  | .warning => "WARNING"
  | .error => "ERROR"

/-- The level with a given name. -/
def Level.ofName? (name : String) : Option Level :=
  [Level.debug, .info, .warning, .error].find? fun level ↦ level.name == name

/-- One report. -/
structure Entry where
  /-- How grave the report is. -/
  level : Level
  /-- What is reported. -/
  message : String
  deriving DecidableEq, Repr

/-- The entries that are at least as grave as a level. -/
def atLeast (level : Level) (entries : List Entry) : List Entry :=
  entries.filter fun entry ↦ level.rank ≤ entry.level.rank

end TypestateBuilders.Log

namespace TypestateBuilders

/-- A computation that makes reports and then fails or answers. -/
structure Logged (ε α : Type) where
  /-- The reports, in order. -/
  entries : List Log.Entry
  /-- The failure or the answer. -/
  outcome : Except ε α

namespace Logged

variable {ε α β : Type}

/-- The computation that answers without a report. -/
def pure (answer : α) : Logged ε α :=
  ⟨[], .ok answer⟩

/-- One computation after the other; a failure ends the run. -/
def bind (first : Logged ε α) (next : α → Logged ε β) : Logged ε β :=
  match first.outcome with
  | .error failure => ⟨first.entries, .error failure⟩
  | .ok answer =>
    let second := next answer
    ⟨first.entries ++ second.entries, second.outcome⟩

instance : Monad (Logged ε) where
  pure := Logged.pure
  bind := Logged.bind

instance : MonadLift (Except ε) (Logged ε) where
  monadLift outcome := ⟨[], outcome⟩

/-- Makes reports. -/
def report (entries : List Log.Entry) : Logged ε Unit :=
  ⟨entries, .ok ()⟩

/-- The computation with its failures renamed. -/
def mapFailure {ε' : Type} (f : ε → ε') (run : Logged ε α) : Logged ε' α :=
  ⟨run.entries, run.outcome.mapError f⟩

@[simp] theorem outcome_pure (answer : α) :
    (Pure.pure answer : Logged ε α).outcome = .ok answer := rfl

@[simp] theorem outcome_bind (first : Logged ε α) (next : α → Logged ε β) :
    (first >>= next).outcome = first.outcome >>= fun answer ↦ (next answer).outcome := by
  show (Logged.bind first next).outcome = _
  unfold Logged.bind
  cases first.outcome <;> rfl

instance : LawfulMonad (Logged ε) :=
  LawfulMonad.mk' _
    (fun run ↦ by
      obtain ⟨entries, outcome⟩ := run
      show Logged.bind _ _ = _
      cases outcome <;> simp [Logged.bind, Logged.pure])
    (fun answer next ↦ by
      show Logged.bind (Logged.pure answer) next = _
      simp [Logged.bind, Logged.pure])
    (fun run next last ↦ by
      obtain ⟨entries, outcome⟩ := run
      show Logged.bind (Logged.bind _ _) _ = Logged.bind _ (fun answer ↦ Logged.bind _ _)
      cases outcome with
      | error failure => rfl
      | ok answer =>
        simp only [Logged.bind]
        cases (next answer).outcome <;> simp)

/-- What a run over a list answers is what its steps answer. -/
theorem outcome_mapM (step : α → Logged ε β) (inputs : List α) :
    (inputs.mapM step).outcome = inputs.mapM fun input ↦ (step input).outcome := by
  induction inputs with
  | nil => rfl
  | cons input rest ih =>
    simp only [List.mapM_cons, outcome_bind, ih, outcome_pure]
    rfl

@[simp] theorem outcome_report (entries : List Log.Entry) :
    (report entries : Logged ε Unit).outcome = .ok () := rfl

@[simp] theorem outcome_lift (outcome : Except ε α) :
    (liftM outcome : Logged ε α).outcome = outcome := rfl

end Logged

end TypestateBuilders
