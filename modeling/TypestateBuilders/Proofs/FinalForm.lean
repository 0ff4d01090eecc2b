import TypestateBuilders.Generator.Source
import TypestateBuilders.Proofs.CodeLine
import TypestateBuilders.Proofs.Trimming

/-!
# Source texts in their final form

The final form of a source text is known from its lines that are not blank (`contentLines`) and from
the runs of blank lines around these (`blankRuns`). A line that is not blank stays, without its
blank end (`contentLines_tidyLines`), and of a run of blank lines at most two stay, as empty lines
(`blankRuns_tidyLines`). Both are said for any number of empty lines in front of the text, since
this number is all that is remembered of them.

Empty lines are counted alike when a text is brought into its final form again, so that it stays as
it is (`tidyLines_tidyLines`). `tidy_normal_form` says all this of texts.
-/

set_option autoImplicit false
set_option relaxedAutoImplicit false

namespace TypestateBuilders.FinalForm

open Text

/-- The lines of a text. -/
def linesOf (source : String) : List (List Char) :=
  source.toList.splitOn '\n'

/-- Whether a line is blank. -/
def isBlankLine (line : List Char) : Bool :=
  line.all isBlank

/-- The lines that are not blank. -/
def contentLines (lines : List (List Char)) : List (List Char) :=
  lines.filter fun line ↦ !isBlankLine line

/-- The runs of blank lines: the one in front of the first line that is not blank, those between
such lines, and the one behind the last. A run may be empty. -/
def blankRuns (lines : List (List Char)) : List (List (List Char)) :=
  lines.splitOnP fun line ↦ !isBlankLine line

variable {empty : Nat} {line : List Char} {lines : List (List Char)}

/-! ### One more line -/

theorem contentLines_cons_of_blank (h : isBlankLine line = true) :
    contentLines (line :: lines) = contentLines lines := by
  rw [contentLines, List.filter_cons_of_neg (by rw [h]; exact Bool.false_ne_true), contentLines]

theorem contentLines_cons_of_not_blank (h : isBlankLine line = false) :
    contentLines (line :: lines) = line :: contentLines lines := by
  rw [contentLines, List.filter_cons_of_pos (by rw [h]; rfl), contentLines]

/-- A blank line lengthens the run in front. -/
theorem blankRuns_cons_of_blank (h : isBlankLine line = true) :
    blankRuns (line :: lines) = (blankRuns lines).modifyHead (List.cons line) := by
  rw [blankRuns, List.splitOnP_cons_eq_if_modifyHead, h]
  rfl

/-- In front of a line that is not blank stands an empty run. -/
theorem blankRuns_cons_of_not_blank (h : isBlankLine line = false) :
    blankRuns (line :: lines) = [] :: blankRuns lines := by
  rw [blankRuns, List.splitOnP_cons_eq_if_modifyHead, h]
  rfl

/-- A blank line becomes an empty one behind less than two, and is left out otherwise. -/
theorem tidyLines_cons_of_blank (h : isBlankLine line = true) :
    tidyLines empty (line :: lines) =
      if empty < 2 then [] :: tidyLines (empty + 1) lines else tidyLines (empty + 1) lines := by
  rw [tidyLines, trimRight_eq_nil_iff.mpr h]

/-- A line that is not blank stays without its blank end, and the count starts again behind it. -/
theorem tidyLines_cons_of_not_blank (h : isBlankLine line = false) :
    tidyLines empty (line :: lines) = trimRight line :: tidyLines 0 lines := by
  rw [tidyLines]
  split
  · rename_i hnil
    rw [isBlankLine, trimRight_eq_nil_iff.mp hnil] at h
    cases h
  · rfl

theorem isBlankLine_trimRight : isBlankLine (trimRight line) = isBlankLine line := by
  rw [Bool.eq_iff_iff, isBlankLine, isBlankLine, ← trimRight_eq_nil_iff, trimRight_trimRight,
    trimRight_eq_nil_iff]

/-- Behind two empty lines it does not matter how many more there are. -/
theorem tidyLines_of_two_le (h : 2 ≤ empty) :
    tidyLines (empty + 1) lines = tidyLines empty lines := by
  induction lines generalizing empty with
  | nil => rfl
  | cons line rest ih =>
    cases hline : isBlankLine line with
    | true =>
      rw [tidyLines_cons_of_blank hline, tidyLines_cons_of_blank hline, if_neg (by omega),
        if_neg (by omega), ih (by omega)]
    | false => rw [tidyLines_cons_of_not_blank hline, tidyLines_cons_of_not_blank hline]

/-! ### All lines -/

/-- All lines are trimmed, and some of them are left out. -/
theorem tidyLines_sublist : List.Sublist (tidyLines empty lines) (lines.map trimRight) := by
  induction lines generalizing empty with
  | nil => exact List.Sublist.slnil
  | cons line rest ih =>
    rw [List.map_cons]
    cases hline : isBlankLine line with
    | true =>
      rw [tidyLines_cons_of_blank hline, trimRight_eq_nil_iff.mpr hline]
      split
      · exact List.Sublist.cons_cons [] ih
      · exact List.Sublist.cons [] ih
    | false =>
      rw [tidyLines_cons_of_not_blank hline]
      exact List.Sublist.cons_cons _ ih

/-- The first line always stays. -/
theorem tidyLines_ne_nil (h : lines ≠ []) : tidyLines 0 lines ≠ [] := by
  cases lines with
  | nil => exact absurd rfl h
  | cons line rest =>
    cases hline : isBlankLine line with
    | true =>
      rw [tidyLines_cons_of_blank hline]
      exact List.cons_ne_nil _ _
    | false =>
      rw [tidyLines_cons_of_not_blank hline]
      exact List.cons_ne_nil _ _

theorem contentLines_tidyLines :
    contentLines (tidyLines empty lines) = (contentLines lines).map trimRight := by
  induction lines generalizing empty with
  | nil => rfl
  | cons line rest ih =>
    cases hline : isBlankLine line with
    | true =>
      rw [tidyLines_cons_of_blank hline, contentLines_cons_of_blank hline]
      split
      · rw [contentLines_cons_of_blank rfl, ih]
      · rw [ih]
    | false =>
      rw [tidyLines_cons_of_not_blank hline, contentLines_cons_of_not_blank hline,
        contentLines_cons_of_not_blank (isBlankLine_trimRight.trans hline), ih, List.map_cons]

/-- What stays of a run of blank lines behind some empty ones. -/
def shortened (empty : Nat) (run : List (List Char)) : List (List Char) :=
  List.replicate (min run.length (2 - empty)) []

theorem shortened_nil : shortened empty [] = [] := by
  rw [shortened, List.length_nil, Nat.zero_min, List.replicate_zero]

/-- The empty lines in front count for the first run. -/
theorem blankRuns_tidyLines {first : List (List Char)} {others : List (List (List Char))}
    (h : blankRuns lines = first :: others) :
    blankRuns (tidyLines empty lines) = shortened empty first :: others.map (shortened 0) := by
  induction lines generalizing empty first others with
  | nil =>
    rw [blankRuns, List.splitOnP_nil] at h
    obtain ⟨rfl, rfl⟩ := List.cons.inj h
    rw [tidyLines, blankRuns, List.splitOnP_nil, shortened_nil, List.map_nil]
  | cons line rest ih =>
    obtain ⟨next, behind, hrest⟩ := List.exists_cons_of_ne_nil
      (List.splitOnP_ne_nil (fun line ↦ !isBlankLine line) rest)
    cases hline : isBlankLine line with
    | true =>
      rw [blankRuns_cons_of_blank hline, blankRuns, hrest, List.modifyHead_cons] at h
      obtain ⟨rfl, rfl⟩ := List.cons.inj h
      rw [tidyLines_cons_of_blank hline]
      by_cases hroom : empty < 2
      · have hlength : min (next.length + 1) (2 - empty) =
            min next.length (2 - (empty + 1)) + 1 := by
          omega
        rw [if_pos hroom, blankRuns_cons_of_blank rfl, ih hrest, List.modifyHead_cons, shortened,
          shortened, List.length_cons, hlength, List.replicate_succ]
      · have hlength : min (next.length + 1) (2 - empty) = min next.length (2 - (empty + 1)) := by
          omega
        rw [if_neg hroom, ih hrest, shortened, shortened, List.length_cons, hlength]
    | false =>
      rw [blankRuns_cons_of_not_blank hline, blankRuns, hrest] at h
      obtain ⟨rfl, rfl⟩ := List.cons.inj h
      rw [tidyLines_cons_of_not_blank hline,
        blankRuns_cons_of_not_blank (isBlankLine_trimRight.trans hline), ih hrest, List.map_cons,
        shortened_nil]

/-- The second time empty lines are counted as they were the first time. -/
theorem tidyLines_tidyLines : tidyLines empty (tidyLines empty lines) = tidyLines empty lines := by
  induction lines generalizing empty with
  | nil => rfl
  | cons line rest ih =>
    cases hline : isBlankLine line with
    | true =>
      rw [tidyLines_cons_of_blank hline]
      by_cases hroom : empty < 2
      · rw [if_pos hroom, tidyLines_cons_of_blank rfl, if_pos hroom, ih]
      · rw [if_neg hroom, tidyLines_of_two_le (Nat.le_of_not_lt hroom), ih]
    | false =>
      rw [tidyLines_cons_of_not_blank hline,
        tidyLines_cons_of_not_blank (isBlankLine_trimRight.trans hline), trimRight_trimRight, ih]

/-! ### Texts -/

/-- The lines of a text in its final form are those that its lines become. -/
theorem linesOf_tidy (source : String) : linesOf (tidy source) = tidyLines 0 (linesOf source) := by
  have hends : ∀ line ∈ tidyLines 0 (source.toList.splitOn '\n'), '\n' ∉ line := by
    intro line hline hend
    obtain ⟨whole, hwhole, rfl⟩ := List.mem_map.mp (tidyLines_sublist.subset hline)
    exact CodeLine.notMem_of_mem_splitOn hwhole (CodeLine.subset_trimRight whole hend)
  rw [linesOf, tidy, String.toList_ofList,
    List.splitOn_intercalate '\n' hends (tidyLines_ne_nil (List.splitOn_ne_nil '\n' _)), linesOf]

/-- The final form of a text keeps the lines that are not blank, in order and without their blank
ends, and of each run of blank lines at most two, which are empty. No line of it ends in a blank
character, and it is its own final form. -/
theorem tidy_normal_form (source : String) :
    contentLines (linesOf (tidy source)) =
        (contentLines (linesOf source)).map (List.rdropWhile isBlank) ∧
      blankRuns (linesOf (tidy source)) =
        (blankRuns (linesOf source)).map (fun run ↦ List.replicate (min run.length 2) []) ∧
      (∀ line ∈ linesOf (tidy source), ∀ c ∈ line.getLast?, isBlank c = false) ∧
      tidy (tidy source) = tidy source := by
  refine ⟨?_, ?_, ?_, ?_⟩
  · rw [linesOf_tidy, contentLines_tidyLines, funext trimRight_eq_rdropWhile]
  · obtain ⟨first, others, hruns⟩ := List.exists_cons_of_ne_nil
      (List.splitOnP_ne_nil (fun line ↦ !isBlankLine line) (linesOf source))
    rw [linesOf_tidy, blankRuns_tidyLines hruns, blankRuns, hruns]
    rfl
  · intro line hline
    rw [linesOf_tidy] at hline
    obtain ⟨whole, _, rfl⟩ := List.mem_map.mp (tidyLines_sublist.subset hline)
    exact trimRight_getLast? whole
  · calc tidy (tidy source)
        = String.ofList (['\n'].intercalate (tidyLines 0 (linesOf (tidy source)))) := rfl
      _ = String.ofList (['\n'].intercalate (tidyLines 0 (linesOf source))) := by
        rw [linesOf_tidy, tidyLines_tidyLines]
      _ = tidy source := rfl

end TypestateBuilders.FinalForm
