import Mathlib.Data.List.DropRight
import TypestateBuilders.Text.Blank

/-!
# Trimmed lines

What trimming keeps of a line is read from its end: a blank character there goes away, and any other
one ends the search (`Text.trimRight_concat`). So a trimmed line is the line without its longest
blank end (`Text.trimRight_eq_rdropWhile`), and nothing stays exactly of lines that are blank
(`Text.trimRight_eq_nil_iff`).
-/

set_option autoImplicit false
set_option relaxedAutoImplicit false

namespace TypestateBuilders.Text

theorem trimRight_concat (line : List Char) (last : Char) :
    trimRight (line ++ [last]) = if isBlank last then trimRight line else line ++ [last] := by
  induction line with
  | nil => rfl
  | cons c rest ih =>
    rw [List.cons_append, trimRight, ih]
    by_cases hlast : isBlank last = true
    · rw [if_pos hlast, if_pos hlast, trimRight]
    · rw [if_neg hlast, if_neg hlast]
      split
      · rename_i hnil
        exact absurd hnil (List.append_ne_nil_of_right_ne_nil rest (List.cons_ne_nil last []))
      · rfl

/-- A trimmed line is the line without the blank characters at its end. -/
theorem trimRight_eq_rdropWhile (line : List Char) : trimRight line = line.rdropWhile isBlank := by
  induction line using List.reverseRecOn with
  | nil => rfl
  | append_singleton line last ih => rw [trimRight_concat, List.rdropWhile_concat, ih]

theorem trimRight_eq_nil_iff {line : List Char} :
    trimRight line = [] ↔ line.all isBlank = true := by
  rw [trimRight_eq_rdropWhile, List.rdropWhile_eq_nil_iff, List.all_eq_true]

theorem trimRight_trimRight (line : List Char) : trimRight (trimRight line) = trimRight line := by
  rw [trimRight_eq_rdropWhile line, trimRight_eq_rdropWhile, List.rdropWhile_idempotent]

end TypestateBuilders.Text
