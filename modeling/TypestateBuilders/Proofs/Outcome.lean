import Mathlib.Data.List.Forall2

/-!
# Outcomes

When a computation that may fail gives an answer, so did each of its steps: for one step after the
other (`bind_eq_ok`), for what is made of an answer (`map_eq_ok`), and for a step that is taken with
every input of a list (`mapM_eq_ok`).

Two computations end alike when both answer or both fail, and their answers or failures are related
(`Alike`). They do if each of their steps does (`Alike.bind`, `Alike.mapM`).
-/

set_option autoImplicit false
set_option relaxedAutoImplicit false

namespace TypestateBuilders.Outcome

variable {ε α β : Type}

theorem exists_of_isOk {outcome : Except ε α} (h : outcome.isOk = true) :
    ∃ answer, outcome = .ok answer := by
  cases outcome with
  | ok answer => exact ⟨answer, rfl⟩
  | error failure => cases h

theorem ok_bind (answer : α) (next : α → Except ε β) : (Except.ok answer >>= next) = next answer :=
  rfl

theorem map_map {γ : Type} (make : α → β) (make' : β → γ) (outcome : Except ε α) :
    (outcome.map make).map make' = outcome.map fun answer ↦ make' (make answer) := by
  cases outcome <;> rfl

theorem bind_eq_ok {first : Except ε α} {next : α → Except ε β} {answer : β} :
    first >>= next = .ok answer ↔ ∃ middle, first = .ok middle ∧ next middle = .ok answer := by
  cases first <;> simp [bind, Except.bind]

theorem map_eq_ok {first : Except ε α} {make : α → β} {answer : β} :
    first.map make = .ok answer ↔ ∃ middle, first = .ok middle ∧ make middle = answer := by
  cases first <;> simp [Except.map]

theorem mapError_eq_ok {ε' : Type} {first : Except ε α} {rename : ε → ε'} {answer : α} :
    first.mapError rename = .ok answer ↔ first = .ok answer := by
  cases first <;> simp [Except.mapError]

theorem mapM_eq_ok {step : α → Except ε β} {inputs : List α} {answers : List β} :
    inputs.mapM step = .ok answers ↔
      List.Forall₂ (fun input answer ↦ step input = .ok answer) inputs answers := by
  induction inputs generalizing answers with
  | nil => cases answers <;> simp [pure, Except.pure]
  | cons input rest ih =>
    rw [List.mapM_cons, bind_eq_ok]
    constructor
    · rintro ⟨answer, hanswer, hrest⟩
      obtain ⟨others, hothers, hanswers⟩ := bind_eq_ok.mp hrest
      obtain rfl := Except.ok.inj hanswers
      exact List.Forall₂.cons hanswer (ih.mp hothers)
    · rintro (_ | ⟨hanswer, hothers⟩)
      exact ⟨_, hanswer, bind_eq_ok.mpr ⟨_, ih.mpr hothers, rfl⟩⟩

/-- Going through inputs for which the same is done does the same. -/
theorem mapM_congr {m : Type → Type} [Monad m] [LawfulMonad m] {γ : Type} {step : α → m β}
    {step' : γ → m β} {list : List α} {list' : List γ}
    (h : List.Forall₂ (fun input input' ↦ step input = step' input') list list') :
    list.mapM step = list'.mapM step' := by
  induction h with
  | nil => rfl
  | cons hfirst _ ih => rw [List.mapM_cons, List.mapM_cons, hfirst, ih]

/-- Going through a list with a step that makes something of each input makes it of all of them. -/
theorem mapM_eq_ok_map {step : α → Except ε β} (make : α → β) {inputs : List α}
    (h : ∀ input ∈ inputs, step input = .ok (make input)) :
    inputs.mapM step = .ok (inputs.map make) := by
  rw [mapM_eq_ok, List.forall₂_map_right_iff, List.forall₂_same]
  exact h

/-- What was made of the inputs, where a step can only make one thing of each. -/
theorem eq_map_of_mapM_eq_ok {step : α → Except ε β} (make : α → β) {inputs : List α}
    {answers : List β} (hstep : ∀ input answer, step input = .ok answer → answer = make input)
    (h : inputs.mapM step = .ok answers) : answers = inputs.map make := by
  have hsteps := mapM_eq_ok.mp h
  clear h
  induction hsteps with
  | nil => rfl
  | cons hfirst _ ih => rw [List.map_cons, hstep _ _ hfirst, ih]

section

variable {related : α → β → Prop} {list : List α} {others : List β}

theorem exists_right_of_mem (h : List.Forall₂ related list others) {item : α}
    (hitem : item ∈ list) : ∃ other ∈ others, related item other := by
  induction h with
  | nil => exact absurd hitem List.not_mem_nil
  | cons hfirst _ ih =>
    rcases List.mem_cons.mp hitem with rfl | hrest
    · exact ⟨_, List.mem_cons_self, hfirst⟩
    · obtain ⟨other, hother, hrelated⟩ := ih hrest
      exact ⟨other, List.mem_cons_of_mem _ hother, hrelated⟩

theorem exists_left_of_mem (h : List.Forall₂ related list others) {other : β}
    (hother : other ∈ others) : ∃ item ∈ list, related item other :=
  exists_right_of_mem h.flip hother

/-- Lists with related items are alike in what is made of their items. -/
theorem map_eq_of_forall₂ {γ : Type} {make : α → γ} {make' : β → γ}
    (h : List.Forall₂ (fun item other ↦ make item = make' other) list others) :
    list.map make = others.map make' := by
  rw [← List.forall₂_eq_eq_eq, List.forall₂_map_left_iff, List.forall₂_map_right_iff]
  exact h

end

/-- Every input of a list that was gone through has its answer among the answers. -/
theorem exists_answer {step : α → Except ε β} {inputs : List α} {answers : List β}
    (h : inputs.mapM step = .ok answers) {input : α} (hinput : input ∈ inputs) :
    ∃ answer ∈ answers, step input = .ok answer :=
  exists_right_of_mem (mapM_eq_ok.mp h) hinput

/-- Every answer for a list that was gone through is that of one of its inputs. -/
theorem exists_input {step : α → Except ε β} {inputs : List α} {answers : List β}
    (h : inputs.mapM step = .ok answers) {answer : β} (hanswer : answer ∈ answers) :
    ∃ input ∈ inputs, step input = .ok answer :=
  exists_left_of_mem (mapM_eq_ok.mp h) hanswer

/-! ### Computations that end alike -/

/-- Two computations that both answer or both fail, where the answers or the failures are
related. -/
inductive Alike {ε ε' α β : Type} (failures : ε → ε' → Prop) (answers : α → β → Prop) :
    Except ε α → Except ε' β → Prop
  | answer {first : α} {second : β} (h : answers first second) :
      Alike failures answers (.ok first) (.ok second)
  | failure {first : ε} {second : ε'} (h : failures first second) :
      Alike failures answers (.error first) (.error second)

namespace Alike

variable {ε' ζ ζ' γ δ : Type} {failures : ε → ε' → Prop} {answers : α → β → Prop}
  {first : Except ε α} {second : Except ε' β}

theorem bind {others : γ → δ → Prop} {next : α → Except ε γ} {next' : β → Except ε' δ}
    (h : Alike failures answers first second)
    (hnext : ∀ answer answer', answers answer answer' →
      Alike failures others (next answer) (next' answer')) :
    Alike failures others (first >>= next) (second >>= next') := by
  rcases h with hanswer | hfailure
  · exact hnext _ _ hanswer
  · exact failure hfailure

theorem map {others : γ → δ → Prop} {make : α → γ} {make' : β → δ}
    (h : Alike failures answers first second)
    (hmake : ∀ answer answer', answers answer answer' → others (make answer) (make' answer')) :
    Alike failures others (first.map make) (second.map make') := by
  rcases h with hanswer | hfailure
  · exact answer (hmake _ _ hanswer)
  · exact failure hfailure

theorem mapError {others : ζ → ζ' → Prop} {rename : ε → ζ} {rename' : ε' → ζ'}
    (h : Alike failures answers first second)
    (hrename : ∀ failure failure', failures failure failure' →
      others (rename failure) (rename' failure')) :
    Alike others answers (first.mapError rename) (second.mapError rename') := by
  rcases h with hanswer | hfailure
  · exact answer hanswer
  · exact failure (hrename _ _ hfailure)

/-- Going through related inputs with a step that ends alike for them ends alike. -/
theorem mapM {inputs : γ → δ → Prop} {step : γ → Except ε α} {step' : δ → Except ε' β}
    {list : List γ} {list' : List δ} (hinputs : List.Forall₂ inputs list list')
    (hstep : ∀ input input', inputs input input' →
      Alike failures answers (step input) (step' input')) :
    Alike failures (List.Forall₂ answers) (list.mapM step) (list'.mapM step') := by
  induction hinputs with
  | nil => exact answer List.Forall₂.nil
  | cons hinput _ ih =>
    rw [List.mapM_cons, List.mapM_cons]
    refine (hstep _ _ hinput).bind fun _ _ hanswer ↦ ih.bind fun _ _ hanswers ↦ ?_
    exact answer (List.Forall₂.cons hanswer hanswers)

/-- Going through a list and through what is made of its elements ends alike if it does for each
element. -/
theorem mapM_map {make : γ → δ} {step : γ → Except ε α} {step' : δ → Except ε' β} {list : List γ}
    (hstep : ∀ input ∈ list, Alike failures answers (step input) (step' (make input))) :
    Alike failures (List.Forall₂ answers) (list.mapM step) ((list.map make).mapM step') := by
  have hinputs : List.Forall₂ (fun input other ↦ input ∈ list ∧ make input = other) list
      (list.map make) := by
    rw [List.forall₂_map_right_iff, List.forall₂_same]
    exact fun input hinput ↦ ⟨hinput, rfl⟩
  refine mapM hinputs ?_
  rintro input _ ⟨hinput, rfl⟩
  exact hstep input hinput

theorem of_eq {outcome : Except ε α} {failures : ε → ε → Prop} {answers : α → α → Prop}
    (hfailures : ∀ failure, failures failure failure) (hanswers : ∀ answer, answers answer answer) :
    Alike failures answers outcome outcome := by
  rcases outcome with reason | result
  · exact failure (hfailures reason)
  · exact answer (hanswers result)

theorem refl (outcome : Except ε α) : Alike Eq Eq outcome outcome :=
  of_eq (fun _ ↦ rfl) fun _ ↦ rfl

/-- Computations that end alike up to equality are equal. -/
theorem eq {first second : Except ε α} (h : Alike Eq Eq first second) : first = second := by
  rcases h with rfl | rfl <;> rfl

/-- Computations that both end like a third one end alike. -/
theorem of_common {others : γ → β → Prop} {failures' : ζ → ε' → Prop}
    {answersBoth : α → γ → Prop} {failuresBoth : ε → ζ → Prop} {third : Except ζ γ}
    (h : Alike failures answers first second) (hthird : Alike failures' others third second)
    (hfailures : ∀ {one other common}, failures one common → failures' other common →
      failuresBoth one other)
    (hanswers : ∀ {one other common}, answers one common → others other common →
      answersBoth one other) : Alike failuresBoth answersBoth first third := by
  rcases h with hanswer | hfailure
  · rcases hthird with hother | _
    exact answer (hanswers hanswer hother)
  · rcases hthird with _ | hother
    exact failure (hfailures hfailure hother)

end Alike

end TypestateBuilders.Outcome
