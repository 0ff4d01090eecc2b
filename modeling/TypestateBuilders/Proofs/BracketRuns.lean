import TypestateBuilders.Proofs.DocLines
import Mathlib.Algebra.Ring.Parity

/-!
# Brackets in doc comments

Behind an odd number of backslashes a bracket is a literal character, since backslashes are read in
pairs and one of them is left for the bracket; behind an even number it opens or closes a link. The
numbers of backslashes in a row in front of the brackets of a text are its bracket runs
(`DocComment.bracketRuns`, `DocComment.forall_mem_bracketRuns_iff`).

Neither the blank end of a line nor the mark in front of it nor an end of a line takes part in these
runs, and escaping makes each of them longer by one. So the doc comment for a description has the
runs of the description, each longer by one (`bracketRuns_docLines`), and its brackets are literal
characters exactly if no bracket of the description is one (`brackets_literal_iff`). A description
that escapes a bracket itself gets it back as a bracket of a link (`exists_bracket_not_literal`).
-/

set_option autoImplicit false
set_option relaxedAutoImplicit false

namespace TypestateBuilders

namespace DocComment

open Text

/-- How many backslashes in a row a text ends in. -/
def backslashesAtEnd (text : List Char) : Nat :=
  (text.rtakeWhile (· = '\\')).length

/-- A bracket of the text stands directly behind the beginning of it that is given. -/
def BracketBehind (text before : List Char) : Prop :=
  ∃ c, isBracket c = true ∧ before ++ [c] <+: text

/-- Each bracket of a text is a literal character: the backslashes in a row in front of it are odd
in number. -/
def BracketsLiteral (text : List Char) : Prop :=
  ∀ before, BracketBehind text before → Odd (backslashesAtEnd before)

/-- How many backslashes in a row stand in front of each bracket of a text, in the order of the
brackets, when `run` of them stand in front of the text. -/
def bracketRuns (run : Nat) : List Char → List Nat
  | [] => []
  | c :: rest =>
    if isBracket c then run :: bracketRuns 0 rest
    else bracketRuns (if c = '\\' then run + 1 else 0) rest

variable {run : Nat} {c : Char} {rest : List Char}

theorem bracketRuns_cons_of_isBracket (h : isBracket c = true) :
    bracketRuns run (c :: rest) = run :: bracketRuns 0 rest := by
  rw [bracketRuns, if_pos h]

theorem bracketRuns_cons_of_not_isBracket (h : isBracket c = false) :
    bracketRuns run (c :: rest) = bracketRuns (if c = '\\' then run + 1 else 0) rest := by
  rw [bracketRuns, if_neg (Bool.eq_false_iff.mp h)]

theorem bracketRuns_cons_backslash : bracketRuns run ('\\' :: rest) = bracketRuns (run + 1) rest :=
  bracketRuns_cons_of_not_isBracket rfl

/-! ### Places of brackets -/

theorem bracketBehind_cons_nil_iff : BracketBehind (c :: rest) [] ↔ isBracket c = true := by
  simp [BracketBehind]

theorem bracketBehind_cons_cons_iff {d : Char} {before : List Char} :
    BracketBehind (c :: rest) (d :: before) ↔ d = c ∧ BracketBehind rest before := by
  simp [BracketBehind, and_left_comm]

theorem backslashesAtEnd_concat (text : List Char) (c : Char) :
    backslashesAtEnd (text ++ [c]) = if c = '\\' then backslashesAtEnd text + 1 else 0 := by
  rw [backslashesAtEnd, List.rtakeWhile_concat]
  by_cases hc : c = '\\'
  · rw [if_pos (decide_eq_true hc), if_pos hc, List.length_append]
    rfl
  · rw [if_neg (by simpa using hc), if_neg hc]
    rfl

/-- The runs of a text behind another one, by the places of its brackets. -/
theorem mem_bracketRuns_append_iff {front text : List Char} {length : Nat} :
    length ∈ bracketRuns (backslashesAtEnd front) text ↔
      ∃ before, BracketBehind text before ∧ backslashesAtEnd (front ++ before) = length := by
  induction text generalizing front with
  | nil => simp [bracketRuns, BracketBehind]
  | cons c rest ih =>
    -- A bracket is the first character, or it is one of the others, with that in front of it.
    have hplaces : (∃ before, BracketBehind (c :: rest) before ∧
          backslashesAtEnd (front ++ before) = length) ↔
        (isBracket c = true ∧ backslashesAtEnd front = length) ∨
          length ∈ bracketRuns (backslashesAtEnd (front ++ [c])) rest := by
      rw [ih]
      constructor
      · rintro ⟨_ | ⟨d, before⟩, hbehind, hlength⟩
        · rw [List.append_nil] at hlength
          exact Or.inl ⟨bracketBehind_cons_nil_iff.mp hbehind, hlength⟩
        · obtain ⟨rfl, hrest⟩ := bracketBehind_cons_cons_iff.mp hbehind
          exact Or.inr ⟨before, hrest, by rwa [List.append_assoc]⟩
      · rintro (⟨hbracket, hlength⟩ | ⟨before, hrest, hlength⟩)
        · exact ⟨[], bracketBehind_cons_nil_iff.mpr hbracket, by rwa [List.append_nil]⟩
        · rw [List.append_assoc] at hlength
          exact ⟨c :: before, bracketBehind_cons_cons_iff.mpr ⟨rfl, hrest⟩, hlength⟩
    rw [hplaces, backslashesAtEnd_concat]
    cases hbracket : isBracket c with
    | true =>
      have hother : c ≠ '\\' := by
        rintro rfl
        cases hbracket
      rw [bracketRuns_cons_of_isBracket hbracket, if_neg hother, List.mem_cons, eq_comm]
      simp
    | false =>
      rw [bracketRuns_cons_of_not_isBracket hbracket]
      simp

/-- The runs of a text, by the places of its brackets. -/
theorem mem_bracketRuns_iff {text : List Char} {length : Nat} :
    length ∈ bracketRuns 0 text ↔
      ∃ before, BracketBehind text before ∧ backslashesAtEnd before = length :=
  @mem_bracketRuns_append_iff [] text length

/-- What holds at each bracket of a text holds of each of its runs. -/
theorem forall_mem_bracketRuns_iff {text : List Char} {property : Nat → Prop} :
    (∀ length ∈ bracketRuns 0 text, property length) ↔
      ∀ before, BracketBehind text before → property (backslashesAtEnd before) := by
  simp only [mem_bracketRuns_iff, forall_exists_index, and_imp, forall_apply_eq_imp_iff₂]

/-! ### Runs of a doc comment -/

/-- Escaping makes each run longer by one. -/
theorem bracketRuns_escapeBrackets (run : Nat) (line : List Char) :
    bracketRuns run (escapeBrackets line) = (bracketRuns run line).map (· + 1) := by
  induction line generalizing run with
  | nil => rfl
  | cons c rest ih =>
    cases hbracket : isBracket c with
    | true =>
      rw [escapeBrackets_cons_of_isBracket hbracket, bracketRuns_cons_backslash,
        bracketRuns_cons_of_isBracket hbracket, bracketRuns_cons_of_isBracket hbracket, ih]
      rfl
    | false =>
      rw [escapeBrackets_cons_of_not_isBracket hbracket,
        bracketRuns_cons_of_not_isBracket hbracket, bracketRuns_cons_of_not_isBracket hbracket, ih]

/-- What stands behind the last bracket takes no part in the runs. -/
theorem bracketRuns_append_of_no_bracket {run : Nat} {text ending : List Char}
    (h : ∀ c ∈ ending, isBracket c = false) :
    bracketRuns run (text ++ ending) = bracketRuns run text := by
  induction text generalizing run with
  | nil =>
    induction ending generalizing run with
    | nil => rfl
    | cons c rest ih =>
      obtain ⟨hc, hrest⟩ := List.forall_mem_cons.mp h
      rw [List.nil_append, bracketRuns_cons_of_not_isBracket hc]
      exact ih hrest
  | cons c rest ih => rw [List.cons_append, bracketRuns, bracketRuns, ih, ih]

/-- Runs do not reach over the end of a line. -/
theorem bracketRuns_append_newline (run : Nat) (line rest : List Char) :
    bracketRuns run (line ++ '\n' :: rest) = bracketRuns run line ++ bracketRuns 0 rest := by
  induction line generalizing run with
  | nil => exact bracketRuns_cons_of_not_isBracket rfl
  | cons c line ih =>
    rw [List.cons_append, bracketRuns, bracketRuns, ih, ih]
    split
    · rfl
    · rfl

/-- The runs of a text are those of its lines. -/
theorem flatMap_bracketRuns_splitOn (text : List Char) :
    (text.splitOn '\n').flatMap (bracketRuns 0) = bracketRuns 0 text := by
  have hjoined : ∀ lines : List (List Char),
      bracketRuns 0 (['\n'].intercalate lines) = lines.flatMap (bracketRuns 0) := by
    intro lines
    induction lines with
    | nil => rfl
    | cons line others ih =>
      cases others with
      | nil => rw [List.intercalate_singleton, List.flatMap_singleton]
      | cons next rest =>
        rw [List.intercalate_cons_cons, List.append_assoc, List.singleton_append,
          bracketRuns_append_newline, ih]
        rfl
  rw [← hjoined, List.intercalate_splitOn]

/-- The doc comment for a line has the runs of the line, each longer by one. -/
theorem bracketRuns_encodeLine (line : List Char) :
    bracketRuns 0 (encodeLine line) = (bracketRuns 0 line).map (· + 1) := by
  have htrimmed : bracketRuns 0 (trimRight (escapeBrackets line)) =
      (bracketRuns 0 line).map (· + 1) := by
    have hend : ∀ c ∈ (escapeBrackets line).rtakeWhile isBlank, isBracket c = false := by
      intro c hc
      have hblank : isBlank c = true := List.mem_rtakeWhile_imp hc
      exact Bool.eq_false_iff.mpr fun hbracket ↦
        Bool.eq_false_iff.mp (isBlank_of_isBracket hbracket) hblank
    rw [trimRight_eq_rdropWhile, ← bracketRuns_append_of_no_bracket hend,
      List.rdropWhile_append_rtakeWhile, bracketRuns_escapeBrackets]
  rw [← htrimmed, encodeLine]
  -- The mark holds no bracket, and its last character is no backslash.
  cases trimRight (escapeBrackets line) with
  | nil => rfl
  | cons first rest => rfl

end DocComment

open DocComment

/-- The doc comment for a description has the runs of the description, each longer by one. -/
theorem bracketRuns_docLines (description : String) :
    (docLines (some description)).flatMap (fun line ↦ bracketRuns 0 line.toList) =
      (bracketRuns 0 description.toList).map (· + 1) := by
  rw [docLines, encode, List.map_map, List.flatMap_map, ← flatMap_bracketRuns_splitOn,
    List.map_flatMap]
  refine List.flatMap_congr fun line _ ↦ ?_
  rw [Function.comp_apply, String.toList_ofList, bracketRuns_encodeLine]

/-- The brackets of a doc comment are literal characters exactly if each bracket of the description
stands behind an even number of backslashes in a row. -/
theorem brackets_literal_iff (description : String) :
    (∀ line ∈ docLines (some description), BracketsLiteral line.toList) ↔
      ∀ before, BracketBehind description.toList before → Even (backslashesAtEnd before) := by
  have hlines : (∀ line ∈ docLines (some description), BracketsLiteral line.toList) ↔
      ∀ length ∈ (docLines (some description)).flatMap fun line ↦ bracketRuns 0 line.toList,
        Odd length := by
    rw [List.forall_mem_flatMap]
    exact forall₂_congr fun _ _ ↦ forall_mem_bracketRuns_iff.symm
  rw [hlines, bracketRuns_docLines, List.forall_mem_map, ← forall_mem_bracketRuns_iff]
  exact forall₂_congr fun _ _ ↦ Nat.odd_add_one.trans Nat.not_odd_iff_even

/-- A bracket that a description escapes itself is no literal character of the doc comment. -/
theorem exists_bracket_not_literal :
    docLines (some "\\[") = ["/// \\\\["] ∧
      ¬ ∀ (description : String), ∀ line ∈ docLines (some description),
        BracketsLiteral line.toList := by
  have hlines : docLines (some "\\[") = ["/// \\\\["] := by decide
  refine ⟨hlines, fun hliteral ↦ ?_⟩
  have hodd : Odd (backslashesAtEnd "/// \\\\".toList) :=
    hliteral "\\[" "/// \\\\[" (by rw [hlines]; exact List.mem_singleton_self _)
      "/// \\\\".toList ⟨'[', rfl, List.prefix_rfl⟩
  exact absurd hodd (by decide)

end TypestateBuilders
