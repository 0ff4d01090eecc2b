import Mathlib.Data.List.Basic

/-!
# String literals

What a string literal of the generated language stands for. The reader (`StringLiteral.read`) starts
behind the opening quote and goes from character to character: most of them stand for themselves, a
backslash opens an escape, and the closing quote ends the literal (`StringLiteral.State.step`). The
end of a line may be written with two characters and counts as one; a carriage return by itself is
refused.

No character stands for more than one (`length_read`). So a text that is written down as it is comes
back exactly if it holds no quote, no backslash and no carriage return (`read_append_quote_iff`).
-/

set_option autoImplicit false
set_option relaxedAutoImplicit false

namespace TypestateBuilders.StringLiteral

/-- Where the reader is in a literal. -/
inductive State
  /-- Between two characters. -/
  | plain
  /-- Behind a backslash. -/
  | escaped
  /-- In front of the first of the two digits of a character. -/
  | highDigit
  /-- In front of the second digit. -/
  | lowDigit (high : Nat)
  /-- In front of the brace that opens the number of a character. -/
  | brace
  /-- Inside the braces, behind some digits. -/
  | number (digits value : Nat)
  /-- Behind an escaped end of a line, in front of what blank characters may follow. -/
  | skipping
  deriving DecidableEq, Repr

/-- The value of a hexadecimal digit. -/
def hexValue? (c : Char) : Option Nat :=
  if c.isDigit then some (c.toNat - '0'.toNat)
  else if 'a' ≤ c ∧ c ≤ 'f' then some (c.toNat - 'a'.toNat + 10)
  else if 'A' ≤ c ∧ c ≤ 'F' then some (c.toNat - 'A'.toNat + 10)
  else none

/-- The escapes of one character. -/
def escapedChar? (c : Char) : Option Char :=
  [('n', '\n'), ('r', '\r'), ('t', '\t'), ('0', '\x00'), ('\\', '\\'), ('\'', '\''),
    ('"', '"')].lookup c

/-- The blank characters that an escaped end of a line takes along. -/
def isSkipped (c : Char) : Bool :=
  c = ' ' || c = '\n' || c = '\t' || c = '\r'

namespace State

/-- Whether a quote ends the literal. -/
def isOpen : State → Bool
  | plain | skipping => true
  | _ => false

/-- A character that is no part of an escape. -/
def stepPlain (c : Char) : Option (State × List Char) :=
  if c = '\\' then some (escaped, [])
  else if c = '\r' then none
  else some (plain, [c])

/-- One more character: where the reader is then, and what it has read. -/
def step : State → Char → Option (State × List Char)
  | plain, c => stepPlain c
  | escaped, c =>
    if c = 'x' then some (highDigit, [])
    else if c = 'u' then some (brace, [])
    else if c = '\n' then some (skipping, [])
    else (escapedChar? c).map fun meant ↦ (plain, [meant])
  | highDigit, c => ((hexValue? c).filter (· < 8)).map fun high ↦ (lowDigit high, [])
  | lowDigit high, c => (hexValue? c).map fun low ↦ (plain, [Char.ofNat (16 * high + low)])
  | brace, c => if c = '\x7b' then some (number 0 0, []) else none
  | number digits value, c =>
    if c = '\x7d' ∧ 0 < digits ∧ value.isValidChar then some (plain, [Char.ofNat value])
    else if c = '_' ∧ 0 < digits then some (number digits value, [])
    else ((hexValue? c).filter fun _ ↦ digits < 6).map fun digit ↦
      (number (digits + 1) (16 * value + digit), [])
  | skipping, c => if isSkipped c then some (skipping, []) else stepPlain c

end State

/-- What a literal stands for, and what stands behind it; the reader starts behind the opening
quote. -/
def read (state : State) : List Char → Option (List Char × List Char)
  | [] => none
  | c :: rest =>
    if c = '\r' ∧ rest.head? = some '\n' then read state rest
    else if c = '"' ∧ state.isOpen then some ([], rest)
    else (state.step c).bind fun (next, first) ↦
      (read next rest).map fun (others, left) ↦ (first ++ others, left)

example :
    read .plain "say \\\"hi\\\"\\u\x7b21\x7d\")]".toList =
      some ("say \"hi\"!".toList, ")]".toList) := by
  decide

/-! ### Lengths -/

theorem length_stepPlain {next : State} {c : Char} {first : List Char}
    (h : State.stepPlain c = some (next, first)) : first.length ≤ 1 := by
  unfold State.stepPlain at h
  split_ifs at h <;> cases h <;> simp

/-- One character stands for one at most. -/
theorem length_step {state next : State} {c : Char} {first : List Char}
    (h : state.step c = some (next, first)) : first.length ≤ 1 := by
  cases state with
  | plain => exact length_stepPlain h
  | escaped =>
    simp only [State.step] at h
    split_ifs at h
    · cases h; simp
    · cases h; simp
    · cases h; simp
    · obtain ⟨meant, _, hmeant⟩ := Option.map_eq_some_iff.mp h
      cases hmeant; simp
  | highDigit =>
    obtain ⟨high, _, hhigh⟩ := Option.map_eq_some_iff.mp h
    cases hhigh; simp
  | lowDigit high =>
    obtain ⟨low, _, hlow⟩ := Option.map_eq_some_iff.mp h
    cases hlow; simp
  | brace =>
    simp only [State.step] at h
    split_ifs at h
    cases h; simp
  | number digits value =>
    simp only [State.step] at h
    split_ifs at h
    · cases h; simp
    · cases h; simp
    · obtain ⟨digit, _, hdigit⟩ := Option.map_eq_some_iff.mp h
      cases hdigit; simp
  | skipping =>
    simp only [State.step] at h
    split_ifs at h
    · cases h; simp
    · exact length_stepPlain h

/-- A literal stands for no more characters than stand in front of its closing quote. -/
theorem length_read {state : State} {text decoded left : List Char}
    (h : read state text = some (decoded, left)) :
    decoded.length + 1 + left.length ≤ text.length := by
  induction text generalizing state decoded with
  | nil => cases h
  | cons c rest ih =>
    rw [read] at h
    split_ifs at h
    · exact Nat.le_succ_of_le (ih h)
    · cases h
      simp [Nat.add_comm]
    · obtain ⟨⟨next, first⟩, hstep, hrest⟩ := Option.bind_eq_some_iff.mp h
      obtain ⟨⟨others, _⟩, hothers, hsame⟩ := Option.map_eq_some_iff.mp hrest
      cases hsame
      have hfirst := length_step hstep
      have hbound := ih hothers
      rw [List.length_append, List.length_cons]
      omega

/-! ### Texts that stand for themselves -/

/-- A character that stands for itself in a literal. -/
def IsVerbatim (c : Char) : Prop :=
  c ≠ '"' ∧ c ≠ '\\' ∧ c ≠ '\r'

instance (c : Char) : Decidable (IsVerbatim c) :=
  inferInstanceAs (Decidable (c ≠ '"' ∧ c ≠ '\\' ∧ c ≠ '\r'))

theorem read_cons_of_isVerbatim {c : Char} (hc : IsVerbatim c) (rest : List Char) :
    read .plain (c :: rest) =
      (read .plain rest).map fun (others, left) ↦ (c :: others, left) := by
  obtain ⟨hquote, hbackslash, hreturn⟩ := hc
  rw [read, if_neg fun h ↦ hreturn h.1, if_neg fun h ↦ hquote h.1, State.step, State.stepPlain,
    if_neg hbackslash, if_neg hreturn]
  rfl

/-- What is read in front of a quote begins with the first character only if this stands for
itself. -/
theorem isVerbatim_of_read {c : Char} {others rest left : List Char}
    (h : read .plain (c :: rest) = some (c :: others, left))
    (hlength : rest.length ≤ others.length + 1 + left.length) : IsVerbatim c := by
  refine ⟨?_, ?_, ?_⟩
  · rintro rfl
    rw [read, if_neg (by simp), if_pos ⟨rfl, rfl⟩] at h
    cases h
  · -- An escape would stand for fewer characters than it has.
    rintro rfl
    rw [read, if_neg (by simp), if_neg (by simp)] at h
    obtain ⟨⟨next, first⟩, hstep, hrest⟩ := Option.bind_eq_some_iff.mp h
    cases hstep
    obtain ⟨⟨decoded, _⟩, hdecoded, hsame⟩ := Option.map_eq_some_iff.mp hrest
    have hbound := length_read hdecoded
    cases hsame
    simp only [List.length_cons] at hbound
    omega
  · rintro rfl
    rw [read] at h
    split_ifs at h with hline hquote
    · have hbound := length_read h
      rw [List.length_cons] at hbound
      omega
    · exact absurd hquote.1 (by decide)
    · cases h

/-- A text stands for itself in a literal exactly if all its characters do. -/
theorem read_append_quote_iff {text rest : List Char} :
    read .plain (text ++ '"' :: rest) = some (text, rest) ↔ ∀ c ∈ text, IsVerbatim c := by
  induction text with
  | nil =>
    refine iff_of_true ?_ nofun
    rw [List.nil_append, read, if_neg (by simp), if_pos ⟨rfl, rfl⟩]
  | cons c text ih =>
    have hstep : IsVerbatim c → (read .plain (c :: text ++ '"' :: rest) = some (c :: text, rest) ↔
        read .plain (text ++ '"' :: rest) = some (text, rest)) := by
      intro hc
      rw [List.cons_append, read_cons_of_isVerbatim hc, Option.map_eq_some_iff]
      constructor
      · rintro ⟨⟨others, left⟩, hread, hsame⟩
        cases hsame
        exact hread
      · exact fun hread ↦ ⟨_, hread, rfl⟩
    rw [List.forall_mem_cons]
    constructor
    · intro h
      have hlength : (text ++ '"' :: rest).length = text.length + 1 + rest.length := by
        rw [List.length_append, List.length_cons]
        omega
      have hc : IsVerbatim c := isVerbatim_of_read h (Nat.le_of_eq hlength)
      exact ⟨hc, ih.mp ((hstep hc).mp h)⟩
    · rintro ⟨hc, htext⟩
      exact (hstep hc).mpr (ih.mpr htext)

end TypestateBuilders.StringLiteral
