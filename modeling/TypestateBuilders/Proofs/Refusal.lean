import TypestateBuilders.Proofs.Outcome
import TypestateBuilders.Proofs.Unification
import TypestateBuilders.Builder.Completion
import TypestateBuilders.Generator.Basic

/-!
# Refusals

Some failures of a computation are refusals by a policy (`Refuses`).

A lenient policy lets everything pass that a strict one refuses. So a strict computation is compared
with a lenient one that gives an answer: it gives the same answer, unless a condition holds under
which a policy refuses it (`RefusedIf`). Conditions add up along the steps of a computation
(`RefusedIf.bind`) and over the inputs of a list (`RefusedIf.mapM_map`).

A builder under other policies (`Builder.policedBy`) is refused for two causes: its declarations
collide, which is found out wherever something is derived from them
(`Builder.refusedIf_accepted`), or its constructor has no name of its own
(`Builder.refusedIf_constructorName`). A builder that is refused for neither is the same under all
policies.
-/

set_option autoImplicit false
set_option relaxedAutoImplicit false

namespace TypestateBuilders

open Outcome Unification

/-- Whether a failure is a refusal by a policy. -/
def Failure.isRefusal : Failure → Bool
  | .collision .. | .repeatedField .. | .unnamedOperation .. => true
  | .template .. | .type .. | .notText .. | .unknownChildren .. => false

/-- Whether a computation ends with a refusal by a policy. -/
def Refuses {α : Type} (outcome : Except Failure α) : Prop :=
  ∃ failure, outcome = .error failure ∧ failure.isRefusal = true

section

variable {α β : Type}

theorem not_refuses_ok (answer : α) : ¬ Refuses (.ok answer) :=
  fun ⟨_, h, _⟩ ↦ nomatch h

theorem refuses_error_iff {failure : Failure} :
    Refuses (.error failure : Except Failure α) ↔ failure.isRefusal = true := by
  simp [Refuses]

theorem refuses_bind_iff {first : Except Failure α} {next : α → Except Failure β} :
    Refuses (first >>= next) ↔
      Refuses first ∨ ∃ answer, first = .ok answer ∧ Refuses (next answer) := by
  cases first with
  | error failure =>
    have hbind : (Except.error failure >>= next) = .error failure := rfl
    simp [hbind, refuses_error_iff]
  | ok answer =>
    have hbind : (Except.ok answer >>= next) = next answer := rfl
    simp [hbind, not_refuses_ok]

theorem not_refuses_fill (name : Template.Name) (context : Template.Scope) :
    ¬ Refuses (fill name context) := by
  unfold fill
  split
  · exact not_refuses_ok _
  · exact Bool.false_ne_true ∘ refuses_error_iff.mp

end

/-- A strict computation against a lenient one. Where the lenient one answers, the strict one gives
the same answer, unless a condition holds under which a policy refuses it. -/
structure RefusedIf {α : Type} (condition : Prop) (lenient strict : Except Failure α) : Prop where
  /-- Without the condition the answers are the same. -/
  same : ¬ condition → ∀ answer, lenient = .ok answer → strict = .ok answer
  /-- Under the condition there is no answer. -/
  refused : condition → ∀ answer, lenient = .ok answer →
    ∃ failure, strict = .error failure ∧ failure.isRefusal = true

namespace RefusedIf

variable {α β : Type} {condition other : Prop} {lenient strict : Except Failure α}

theorem of_eq (h : strict = lenient) : RefusedIf False lenient strict := by
  refine ⟨fun _ answer hanswer ↦ ?_, fun hfalse ↦ hfalse.elim⟩
  rw [h, hanswer]

theorem congr (h : RefusedIf condition lenient strict) (hiff : condition ↔ other) :
    RefusedIf other lenient strict :=
  propext hiff ▸ h

/-- A refusal at the first of two steps or at the second one. The second step matters only where the
first one is not refused. -/
theorem bind {next next' : α → Except Failure β} (h : RefusedIf condition lenient strict)
    (hnext : ¬ condition → ∀ answer, lenient = .ok answer →
      RefusedIf other (next answer) (next' answer)) :
    RefusedIf (condition ∨ other) (lenient >>= next) (strict >>= next') := by
  constructor
  · intro hneither answer hanswer
    obtain ⟨middle, hmiddle, hrest⟩ := bind_eq_ok.mp hanswer
    have hfirst : ¬ condition := fun hcondition ↦ hneither (Or.inl hcondition)
    have hsecond : ¬ other := fun hother ↦ hneither (Or.inr hother)
    have hnow := (hnext hfirst middle hmiddle).same hsecond answer hrest
    exact bind_eq_ok.mpr ⟨middle, h.same hfirst middle hmiddle, hnow⟩
  · intro heither answer hanswer
    obtain ⟨middle, hmiddle, hrest⟩ := bind_eq_ok.mp hanswer
    by_cases hfirst : condition
    · obtain ⟨failure, hfailure, hrefusal⟩ := h.refused hfirst middle hmiddle
      exact ⟨failure, by rw [hfailure]; rfl, hrefusal⟩
    · have hsecond : other := heither.resolve_left hfirst
      obtain ⟨failure, hfailure, hrefusal⟩ :=
        (hnext hfirst middle hmiddle).refused hsecond answer hrest
      exact ⟨failure, by rw [h.same hfirst middle hmiddle]; exact hfailure, hrefusal⟩

/-- A refusal at the first of two steps, where the second one is the same without it. -/
theorem bind_same {next next' : α → Except Failure β} (h : RefusedIf condition lenient strict)
    (hnext : ¬ condition → ∀ answer, next' answer = next answer) :
    RefusedIf condition (lenient >>= next) (strict >>= next') :=
  (h.bind fun hfirst answer _ ↦ of_eq (hnext hfirst answer)).congr (by rw [or_false])

/-- A refusal at the second of two steps, or at the first one for a cause that refuses the second
one too. -/
theorem bind_of_imp {next next' : α → Except Failure β} (h : RefusedIf condition lenient strict)
    (himp : condition → other)
    (hnext : ∀ answer, RefusedIf other (next answer) (next' answer)) :
    RefusedIf other (lenient >>= next) (strict >>= next') :=
  (h.bind fun _ answer _ ↦ hnext answer).congr (or_iff_right_of_imp himp)

/-- A refusal at the second of two steps, where the first one is the same. -/
theorem of_next {next next' : α → Except Failure β} (first : Except Failure α)
    (hnext : ∀ answer, RefusedIf condition (next answer) (next' answer)) :
    RefusedIf condition (first >>= next) (first >>= next') :=
  have hfirst : RefusedIf False first first := of_eq rfl
  hfirst.bind_of_imp False.elim hnext

/-- A refusal at some input of a list. -/
theorem mapM_map {γ δ : Type} {make : γ → δ} {step : γ → Except Failure β}
    {step' : δ → Except Failure β} {conditions : γ → Prop} {list : List γ}
    (h : ∀ input ∈ list, RefusedIf (conditions input) (step input) (step' (make input))) :
    RefusedIf (∃ input ∈ list, conditions input) (list.mapM step)
      ((list.map make).mapM step') := by
  induction list with
  | nil => exact (of_eq rfl).congr (by simp)
  | cons input rest ih =>
    rw [List.map_cons, List.mapM_cons, List.mapM_cons]
    have hrest := ih fun other hother ↦ h other (List.mem_cons_of_mem _ hother)
    refine ((h input (List.mem_cons_self ..)).bind fun _ answer _ ↦
      hrest.bind_same fun _ _ ↦ rfl).congr ?_
    rw [List.exists_mem_cons_iff]

end RefusedIf

/-- The builder under the policies of a generator. -/
def Builder.policedBy (builder : Builder) (policies : Generator) : Builder :=
  { builder with
    collisionPolicy := policies.collisionPolicy
    unnamedPolicy := policies.unnamedPolicy }

namespace Builder

/-- Whether the method of an operation has to name its constructor though several paths have
operations. -/
def IsUnnamed (builder : Builder) : Prop :=
  builder.severalPaths = true ∧ builder.namingMethod?.isSome = true

/-- A builder whose declarations collide under a policy that does not let them. -/
def CollidesUnder (policies : Generator) (builder : Builder) : Prop :=
  policies.collisionPolicy = .refuse ∧ builder.collisions ≠ []

/-- A builder without a name for its constructor under a policy that asks for one. -/
def UnnamedUnder (policies : Generator) (builder : Builder) : Prop :=
  policies.unnamedPolicy = .refuse ∧ builder.IsUnnamed

/-- A builder that the policies of a generator refuse. -/
def RefusedBy (policies : Generator) (builder : Builder) : Prop :=
  CollidesUnder policies builder ∨ UnnamedUnder policies builder

/-- A builder whose policies refuse nothing. -/
structure IsLenient (builder : Builder) : Prop where
  drops : builder.collisionPolicy = .drop
  numbers : builder.unnamedPolicy = .indexed

section

variable {builder : Builder}

theorem refusal?_of_drop (h : builder.collisionPolicy = .drop) :
    builder.refusal? = (builder.fields.find? fun field ↦ !field.hasKnownChildren).map fun field ↦
      .unknownChildren field.name := by
  simp only [refusal?, h]

theorem refusal?_of_no_collisions (h : builder.examined.collisions = []) :
    builder.refusal? = (builder.fields.find? fun field ↦ !field.hasKnownChildren).map fun field ↦
      .unknownChildren field.name := by
  cases hpolicy : builder.collisionPolicy <;> simp only [refusal?, h, hpolicy]

theorem refusal?_of_collisions {kept dropped : Property} {rest : List (Property × Property)}
    (h : builder.collisionPolicy = .refuse)
    (hcollisions : builder.examined.collisions = (kept, dropped) :: rest) :
    builder.refusal? = some (.collision builder.name kept dropped) := by
  simp only [refusal?, h, hcollisions]

/-- A builder that is accepted under a lenient policy knows the children of all its fields. -/
theorem hasKnownChildren_of_accepted {α : Type} {derived answer : α}
    (hdrop : builder.collisionPolicy = .drop) (h : builder.accepted derived = .ok answer) :
    ∀ field ∈ builder.fields, field.hasKnownChildren = true := by
  cases hfound : builder.fields.find? fun field ↦ !field.hasKnownChildren with
  | none =>
    intro field hfield
    simpa using List.find?_eq_none.mp hfound field hfield
  | some field =>
    rw [accepted, refusal?_of_drop hdrop, hfound] at h
    cases h

theorem refuses_accepted_iff_refusal? {α : Type} (derived : α) :
    Refuses (builder.accepted derived) ↔
      ∃ failure, builder.refusal? = some failure ∧ failure.isRefusal = true := by
  rw [accepted]
  cases builder.refusal? with
  | none => exact iff_of_false (not_refuses_ok _) (by simp)
  | some failure => simp [refuses_error_iff]

/-- A policy refuses what is derived from a builder where it is strict and the declarations that are
looked at collide. -/
theorem refuses_accepted_iff {α : Type} (derived : α) :
    Refuses (builder.accepted derived) ↔
      builder.collisionPolicy = .refuse ∧ builder.examined.collisions ≠ [] := by
  have hunknown : ¬ ∃ failure, ((builder.fields.find? fun field ↦ !field.hasKnownChildren).map
      fun field ↦ Failure.unknownChildren field.name) = some failure ∧
        failure.isRefusal = true := by
    rintro ⟨failure, hfound, hrefusal⟩
    obtain ⟨field, _, rfl⟩ := Option.map_eq_some_iff.mp hfound
    exact Bool.false_ne_true hrefusal
  rw [refuses_accepted_iff_refusal?]
  cases hpolicy : builder.collisionPolicy with
  | drop =>
    rw [refusal?_of_drop hpolicy]
    exact iff_of_false hunknown nofun
  | refuse =>
    cases hcollisions : builder.examined.collisions with
    | nil =>
      rw [refusal?_of_no_collisions hcollisions]
      exact iff_of_false hunknown fun h ↦ h.2 rfl
    | cons pair rest =>
      rw [refusal?_of_collisions hpolicy hcollisions]
      exact iff_of_true ⟨_, rfl, rfl⟩ ⟨rfl, List.cons_ne_nil _ _⟩

variable {policies : Generator}

theorem collisions_examined_policedBy :
    (builder.policedBy policies).examined.collisions = builder.examined.collisions := rfl

/-- A builder whose declarations do not collide is accepted, or refused for the same cause, under
all policies. -/
theorem accepted_policedBy {α : Type} (hlenient : builder.IsLenient)
    (h : ¬ CollidesUnder policies builder) (derived : α) :
    (builder.policedBy policies).accepted derived = builder.accepted derived := by
  have hrefusal : (builder.policedBy policies).refusal? = builder.refusal? := by
    rw [refusal?_of_drop hlenient.drops]
    cases hstrict : policies.collisionPolicy with
    | drop => exact refusal?_of_drop hstrict
    | refuse =>
      have hnone : builder.collisions = [] := by
        by_contra hsome
        exact h ⟨hstrict, hsome⟩
      have hexamined : (builder.policedBy policies).examined.collisions = [] := by
        rw [collisions_examined_policedBy]
        exact List.prefix_nil.mp (hnone ▸ builder.collisions_examined_prefix)
      exact refusal?_of_no_collisions hexamined
  rw [accepted, accepted, hrefusal]

theorem refusedIf_accepted {α : Type} (hlenient : builder.IsLenient) (derived : α) :
    RefusedIf (CollidesUnder policies builder)
      (builder.accepted derived) ((builder.policedBy policies).accepted derived) := by
  constructor
  · intro hnot answer hanswer
    rw [accepted_policedBy hlenient hnot, hanswer]
  · rintro ⟨hrefuse, hcollisions⟩ answer hanswer
    obtain ⟨⟨kept, dropped⟩, rest, hsplit⟩ := List.exists_cons_of_ne_nil hcollisions
    have hexamined :
        (builder.policedBy policies).examined.collisions = (kept, dropped) :: rest := by
      have hknown := examined_of_known (hasKnownChildren_of_accepted hlenient.drops hanswer)
      rw [collisions_examined_policedBy, hknown, hsplit]
    refine ⟨.collision builder.name kept dropped, ?_, rfl⟩
    rw [accepted, refusal?_of_collisions hrefuse hexamined]
    rfl

/-- A constructor that has a name of its own gets the same one under all policies. -/
theorem constructorName_policedBy (hlenient : builder.IsLenient)
    (h : ¬ UnnamedUnder policies builder) :
    (builder.policedBy policies).constructorName = builder.constructorName := by
  have hpolicy : (builder.policedBy policies).unnamedPolicy = policies.unnamedPolicy := rfl
  have hid : (builder.policedBy policies).operationId = builder.operationId := rfl
  have hmethod : (builder.policedBy policies).method = builder.method := rfl
  have hseveral : (builder.policedBy policies).severalPaths = builder.severalPaths := rfl
  unfold constructorName
  rw [hpolicy, hid, hmethod, hseveral, hlenient.numbers]
  by_cases hnamed : builder.operationId.isTrue = true
  · rw [if_pos hnamed, if_pos hnamed]
  · rw [if_neg hnamed, if_neg hnamed]
    cases hnaming : builder.method with
    | none => rfl
    | some method =>
      cases hstrict : policies.unnamedPolicy with
      | indexed => rfl
      | refuse =>
        cases hpaths : builder.severalPaths with
        | false => rfl
        | true =>
          exact absurd ⟨hstrict, hpaths, by rw [namingMethod?, if_neg hnamed, hnaming]; rfl⟩ h

theorem refusedIf_constructorName (hlenient : builder.IsLenient) :
    RefusedIf (UnnamedUnder policies builder) builder.constructorName
      (builder.policedBy policies).constructorName := by
  constructor
  · intro hnot answer hanswer
    rw [constructorName_policedBy hlenient hnot, hanswer]
  · rintro ⟨hrefuse, hseveral, hnaming⟩ answer _
    obtain ⟨method, hmethod⟩ := Option.isSome_iff_exists.mp hnaming
    by_cases hnamed : builder.operationId.isTrue = true
    · rw [namingMethod?, if_pos hnamed] at hmethod
      cases hmethod
    · rw [namingMethod?, if_neg hnamed] at hmethod
      refine ⟨.unnamedOperation method.verb builder.relPath.display builder.object, ?_, rfl⟩
      simp [constructorName, policedBy, hnamed, hmethod, hseveral, hrefuse]

theorem layout_policedBy (hlenient : builder.IsLenient) (h : ¬ CollidesUnder policies builder) :
    (builder.policedBy policies).layout = builder.layout := by
  rw [layout, layout, accepted_policedBy hlenient h]
  rfl

theorem setters_policedBy (hlenient : builder.IsLenient) (h : ¬ CollidesUnder policies builder)
    (layout : Layout) (addComments : Bool) :
    (builder.policedBy policies).setters layout addComments =
      builder.setters layout addComments := by
  rw [setters, setters, accepted_policedBy hlenient h]
  rfl

theorem constructor_policedBy (hlenient : builder.IsLenient) (h : ¬ RefusedBy policies builder)
    (layout : Layout) (addComments : Bool) :
    (builder.policedBy policies).constructor layout addComments =
      builder.constructor layout addComments := by
  rw [constructor, constructor, accepted_policedBy hlenient fun hcollides ↦ h (Or.inl hcollides),
    constructorName_policedBy hlenient fun hunnamed ↦ h (Or.inr hunnamed)]
  rfl

theorem conversion_policedBy (hlenient : builder.IsLenient) (h : ¬ CollidesUnder policies builder)
    (layout : Layout) :
    (builder.policedBy policies).conversion layout = builder.conversion layout := by
  rw [conversion, conversion, accepted_policedBy hlenient h]
  rfl

theorem sendable_policedBy (hlenient : builder.IsLenient) (h : ¬ CollidesUnder policies builder)
    (layout : Layout) (method : HttpMethod) (defaultAny : Value) :
    (builder.policedBy policies).sendable layout method defaultAny =
      builder.sendable layout method defaultAny := by
  rw [sendable, sendable, accepted_policedBy hlenient h]
  rfl

end

end Builder

end TypestateBuilders
