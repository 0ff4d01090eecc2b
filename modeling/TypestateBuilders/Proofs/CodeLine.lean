import Mathlib.Data.List.Forall2
import TypestateBuilders.DocComment
import TypestateBuilders.Template.Basic

/-!
# Lines of code

A line is a doc comment when three slashes are the first thing on it that is not blank
(`isComment`), and all other lines are code (`codeLines`). `withoutComments` is what is left of a
source text when its doc comments are deleted.

The end of a line separates its code from the code behind it (`codeLines_append_newline`), so what
is code in a text put together from lines or from parts is known from these
(`codeLines_textOfLines`, `codeLines_intercalate`). Nothing of a description is code, behind any
indent (`codeLines_indented`): no line of it leaves the doc comment (`isDocLine_of_mem_docLines`).
-/

set_option autoImplicit false
set_option relaxedAutoImplicit false

namespace TypestateBuilders.CodeLine

/-- Whether a line is a doc comment. -/
def isComment (line : List Char) : Bool :=
  "///".toList.isPrefixOf (line.dropWhile Text.isBlank)

/-- The lines of a text that are no doc comments. -/
def codeLines (source : List Char) : List (List Char) :=
  (source.splitOn '\n').filter fun line ↦ !isComment line

/-- A source text with its doc comments deleted. -/
def withoutComments (source : String) : String :=
  String.ofList (['\n'].intercalate (codeLines source.toList))

/-- The lines of code of several texts, one after the other. -/
def codeOf (texts : List String) : List (List Char) :=
  texts.flatMap fun text ↦ codeLines text.toList

/-- What stands behind the end of a line does not change what stands in front of it. -/
theorem codeLines_append_newline (first rest : List Char) :
    codeLines (first ++ '\n' :: rest) = codeLines first ++ codeLines rest := by
  rw [codeLines, List.splitOn_append_cons_self, List.filter_append]
  rfl

@[simp] theorem codeOf_nil : codeOf [] = [] := rfl

@[simp] theorem codeOf_cons (text : String) (texts : List String) :
    codeOf (text :: texts) = codeLines text.toList ++ codeOf texts :=
  List.flatMap_cons ..

@[simp] theorem codeOf_append (texts others : List String) :
    codeOf (texts ++ others) = codeOf texts ++ codeOf others :=
  List.flatMap_append ..

/-- The code of blocks with lines between them is known from the code of the blocks. -/
theorem codeOf_intercalate (separator : List String) (blocks : List (List String)) :
    codeOf (separator.intercalate blocks) =
      (codeOf separator).intercalate (blocks.map codeOf) := by
  induction blocks with
  | nil => rfl
  | cons block rest ih =>
    rcases rest with _ | ⟨next, rest⟩
    · rw [List.intercalate_singleton, List.map_singleton, List.intercalate_singleton]
    · rw [List.intercalate_cons_cons, codeOf_append, codeOf_append, ih]
      simp only [List.map_cons, List.intercalate_cons_cons]

/-- Blocks without code are none when they are put together. -/
theorem codeOf_intercalate_of_no_code {blocks : List (List String)}
    (h : ∀ block ∈ blocks, codeOf block = []) : codeOf ([].intercalate blocks) = [] := by
  induction blocks with
  | nil => rfl
  | cons block rest ih =>
    have hrest := ih fun other hother ↦ h other (List.mem_cons_of_mem _ hother)
    have hblock := h block (List.mem_cons_self ..)
    rcases rest with _ | ⟨next, rest⟩
    · rwa [List.intercalate_singleton]
    · rw [List.intercalate_cons_cons, List.append_nil, codeOf_append, hblock, hrest,
        List.append_nil]

/-- Two source texts with the same lines of code. -/
def SameCode (first second : String) : Prop :=
  codeLines first.toList = codeLines second.toList

theorem SameCode.withoutComments_eq {first second : String} (h : SameCode first second) :
    withoutComments first = withoutComments second := by
  rw [withoutComments, h, withoutComments]

/-! ### Texts that are put together -/

/-- The code of a text of lines is that of its lines; behind the end of the last line stands an
empty one. -/
theorem codeLines_textOfLines (lines : List String) :
    codeLines (Template.textOfLines lines).toList = codeOf lines ++ [[]] := by
  unfold Template.textOfLines
  induction lines with
  | nil => decide
  | cons line rest ih =>
    have hline : (String.join ((line :: rest).map fun line ↦ line ++ "\n")).toList =
        line.toList ++ '\n' :: (String.join (rest.map fun line ↦ line ++ "\n")).toList := by
      simp
    rw [hline, codeLines_append_newline, ih, codeOf_cons, List.append_assoc]

/-- The code of parts with line ends between them is that of the parts. -/
theorem codeLines_intercalate {parts : List String} (h : parts ≠ []) :
    codeLines ("\n".intercalate parts).toList = codeOf parts := by
  induction parts with
  | nil => exact absurd rfl h
  | cons part rest ih =>
    by_cases hrest : rest = []
    · subst hrest
      simp
    · have hpart : ("\n".intercalate (part :: rest)).toList =
          part.toList ++ '\n' :: ("\n".intercalate rest).toList := by
        rw [String.intercalate_cons_of_ne_nil hrest]
        simp
      rw [hpart, codeLines_append_newline, ih hrest, codeOf_cons]

/-- Parts with the same code make texts with the same code. -/
theorem SameCode.intercalate {parts others : List String} (h : List.Forall₂ SameCode parts others) :
    SameCode ("\n".intercalate parts) ("\n".intercalate others) := by
  have hcode : codeOf parts = codeOf others := by
    induction h with
    | nil => rfl
    | cons hpart _ ih => rw [codeOf_cons, codeOf_cons, hpart, ih]
  rcases h with _ | ⟨hpart, hrest⟩
  · rfl
  · rw [SameCode, codeLines_intercalate (by simp), codeLines_intercalate (by simp), hcode]

/-! ### Descriptions -/

/-- One line that is a doc comment. -/
def IsDocLine (line : String) : Prop :=
  '\n' ∉ line.toList ∧ "///".toList <+: line.toList

theorem isDocLine_of_mem_nil : ∀ line ∈ ([] : List String), IsDocLine line :=
  fun _ hline ↦ absurd hline List.not_mem_nil

/-- A text of spaces. -/
def isIndent (text : String) : Bool :=
  text.toList.all (· = ' ')

/-- A doc comment behind an indent is no code. -/
theorem codeLines_indented {indent line : String} (hindent : isIndent indent = true)
    (hline : IsDocLine line) : codeLines (indent ++ line).toList = [] := by
  obtain ⟨hend, rest, hrest⟩ := hline
  have hspace : ∀ c ∈ indent.toList, c = ' ' := by
    simpa [isIndent] using hindent
  have hone : '\n' ∉ (indent ++ line).toList := by
    rw [String.toList_append, List.mem_append]
    rintro (hin | hin)
    · exact absurd (hspace _ hin) (by decide)
    · exact hend hin
  have hcomment : isComment (indent ++ line).toList = true := by
    have hblank : ∀ c ∈ indent.toList, Text.isBlank c = true := by
      intro c hc
      rw [hspace c hc]
      decide
    rw [isComment, String.toList_append, ← hrest, List.dropWhile_append_of_pos hblank]
    exact List.isPrefixOf_iff_prefix.mpr (List.prefix_append _ rest)
  rw [codeLines, List.splitOn_eq_singleton hone, List.filter_cons_of_neg (by rw [hcomment]; decide),
    List.filter_nil]

theorem subset_trimRight (line : List Char) : Text.trimRight line ⊆ line := by
  induction line with
  | nil => exact List.Subset.refl _
  | cons c rest ih =>
    unfold Text.trimRight
    split
    · split
      · exact List.nil_subset _
      · exact List.cons_subset_cons c (List.nil_subset rest)
    · exact List.cons_subset_cons c ih

/-- The parts of a text between the ends of its lines hold no such end. -/
theorem notMem_of_mem_splitOn {text line : List Char} (h : line ∈ text.splitOn '\n') :
    '\n' ∉ line := by
  induction text generalizing line with
  | nil =>
    rw [List.splitOn_nil, List.mem_singleton] at h
    simp [h]
  | cons c rest ih =>
    rw [List.splitOn_cons_eq_if_modifyHead] at h
    by_cases hc : (c == '\n') = true
    · rw [if_pos hc] at h
      rcases List.mem_cons.mp h with rfl | hrest
      · exact List.not_mem_nil
      · exact ih hrest
    · rw [if_neg hc] at h
      obtain ⟨first, others, hsplit⟩ := List.exists_cons_of_ne_nil (List.splitOn_ne_nil '\n' rest)
      rw [hsplit, List.modifyHead_cons] at h
      rcases List.mem_cons.mp h with rfl | hothers
      · have hfirst : '\n' ∉ first := ih (by rw [hsplit]; exact List.mem_cons_self ..)
        rw [List.mem_cons]
        rintro (rfl | hin)
        · exact hc rfl
        · exact hfirst hin
      · exact ih (by rw [hsplit]; exact List.mem_cons_of_mem _ hothers)

/-- Escaping brackets adds no end of a line. -/
theorem notMem_escapeBrackets {line : List Char} (h : '\n' ∉ line) :
    '\n' ∉ DocComment.escapeBrackets line := by
  intro hend
  obtain ⟨c, hc, hescaped⟩ := List.mem_flatMap.mp hend
  by_cases hbracket : c = '[' ∨ c = ']'
  · rw [if_pos hbracket] at hescaped
    rcases hbracket with rfl | rfl <;> simp at hescaped
  · rw [if_neg hbracket, List.mem_singleton] at hescaped
    exact h (hescaped ▸ hc)

/-- Each line of the doc comment for a description is a doc comment. -/
theorem isDocLine_of_mem_docLines {description line : String}
    (h : line ∈ docLines (some description)) : IsDocLine line := by
  obtain ⟨_, hencoded, rfl⟩ := List.mem_map.mp h
  obtain ⟨characters, hcharacters, rfl⟩ := List.mem_map.mp hencoded
  have hone : '\n' ∉ Text.trimRight (DocComment.escapeBrackets characters) :=
    fun hend ↦ notMem_escapeBrackets (notMem_of_mem_splitOn hcharacters) (subset_trimRight _ hend)
  unfold DocComment.encodeLine IsDocLine
  rw [String.toList_ofList]
  split
  · exact ⟨by decide, List.prefix_rfl⟩
  · refine ⟨?_, List.prefix_append_of_prefix (by decide)⟩
    rw [List.mem_append]
    rintro (hin | hin)
    · exact absurd hin (by decide)
    · exact hone hin

end TypestateBuilders.CodeLine
