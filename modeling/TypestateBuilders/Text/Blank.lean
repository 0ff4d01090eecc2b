/-!
# Blank characters

The characters that count as white space when the end of a line is trimmed: the five ASCII layout
characters, the four information separators, the space, the next-line control and every Unicode
space and line separator (`isBlank`). `trimRight` removes the blank characters at the end of a line
and keeps everything before them, so its result never ends in a blank (`trimRight_getLast?`).
-/

set_option autoImplicit false
set_option relaxedAutoImplicit false

namespace TypestateBuilders.Text

/-- White space: layout controls, information separators, and the Unicode spaces and line
separators. -/
def isBlank (c : Char) : Bool :=
  let code := c.toNat
  (0x09 ≤ code && code ≤ 0x0d) || (0x1c ≤ code && code ≤ 0x20) || code == 0x85 || code == 0xa0 ||
    code == 0x1680 || (0x2000 ≤ code && code ≤ 0x200a) || code == 0x2028 || code == 0x2029 ||
    code == 0x202f || code == 0x205f || code == 0x3000

/-- A line without the blank characters at its end. -/
def trimRight : List Char → List Char
  | [] => []
  | c :: rest =>
    match trimRight rest with
    | [] => if isBlank c then [] else [c]
    | kept => c :: kept

/-- The trimmed line does not end in a blank character. -/
theorem trimRight_getLast? (line : List Char) :
    ∀ c ∈ (trimRight line).getLast?, isBlank c = false := by
  induction line with
  | nil => simp [trimRight]
  | cons d rest ih =>
    unfold trimRight
    split
    · split
      · simp
      · rename_i hd
        simpa using hd
    · rename_i kept hkept
      intro c hc
      cases hrest : trimRight rest with
      | nil => simp_all
      | cons e tail => exact ih c (by simpa [hrest, List.getLast?_cons_cons] using hc)

/-- Every blank character of the standard library is blank here. -/
theorem isBlank_of_isWhitespace {c : Char} (h : c.isWhitespace = true) : isBlank c = true := by
  simp only [Char.isWhitespace, Bool.or_eq_true, decide_eq_true_eq] at h
  rcases h with ((rfl | rfl) | rfl) | rfl <;> decide

end TypestateBuilders.Text
