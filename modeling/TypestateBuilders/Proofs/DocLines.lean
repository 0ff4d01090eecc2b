import TypestateBuilders.Proofs.CodeLine
import TypestateBuilders.Proofs.Trimming

/-!
# Descriptions as doc comments

A doc comment tells the lines of its description. `DocComment.decodeLine` takes the mark off a line
of the comment, and the backslash in front of each bracket (`DocComment.unescapeBrackets`). Since a
backslash stands in front of every bracket that was escaped, and none of these is the first
character of an escaped text (`DocComment.head?_escapeBrackets`), this gives back the text that was
escaped (`DocComment.unescapeBrackets_escapeBrackets`), with whatever backslashes it holds itself.

A bracket is not blank, so a line can be trimmed before or after its brackets are escaped
(`DocComment.rdropWhile_escapeBrackets`). What is read off a doc comment is therefore the line of
the description without its blank end (`docLines_faithful`).
-/

set_option autoImplicit false
set_option relaxedAutoImplicit false

namespace TypestateBuilders

namespace DocComment

open Text

/-- Whether a character is a bracket. -/
def isBracket (c : Char) : Bool :=
  c = '[' || c = ']'

/-- A line without the backslash that stands directly in front of each bracket. -/
def unescapeBrackets : List Char → List Char
  | [] => []
  | c :: rest =>
    if c = '\\' && rest.head?.any isBracket then unescapeBrackets rest
    else c :: unescapeBrackets rest

/-- The text that a line of a doc comment tells: what stands behind its mark, and behind the space
that follows it, with its brackets as they were. -/
def decodeLine (comment : List Char) : List Char :=
  unescapeBrackets
    (if "/// ".toList.isPrefixOf comment then comment.drop 4 else comment.drop 3)

/-! ### Brackets -/

variable {c : Char} {line : List Char}

theorem escapeBrackets_cons_of_isBracket (h : isBracket c = true) :
    escapeBrackets (c :: line) = '\\' :: c :: escapeBrackets line := by
  have hbracket : c = '[' ∨ c = ']' := by simpa [isBracket] using h
  rw [escapeBrackets, List.flatMap_cons, if_pos hbracket]
  rfl

theorem escapeBrackets_cons_of_not_isBracket (h : isBracket c = false) :
    escapeBrackets (c :: line) = c :: escapeBrackets line := by
  have hother : ¬ (c = '[' ∨ c = ']') := by simpa [isBracket] using h
  rw [escapeBrackets, List.flatMap_cons, if_neg hother]
  rfl

/-- No escaped text begins with a bracket. -/
theorem head?_escapeBrackets (line : List Char) :
    (escapeBrackets line).head?.any isBracket = false := by
  cases line with
  | nil => rfl
  | cons c rest =>
    cases hbracket : isBracket c with
    | true =>
      rw [escapeBrackets_cons_of_isBracket hbracket]
      rfl
    | false =>
      rw [escapeBrackets_cons_of_not_isBracket hbracket]
      exact hbracket

/-- Backslashes in front of brackets are taken away as they came in. -/
theorem unescapeBrackets_escapeBrackets (line : List Char) :
    unescapeBrackets (escapeBrackets line) = line := by
  induction line with
  | nil => rfl
  | cons c rest ih =>
    have hrest : (c = '\\' && (escapeBrackets rest).head?.any isBracket) = false := by
      rw [head?_escapeBrackets, Bool.and_false]
    have hlast : unescapeBrackets (c :: escapeBrackets rest) = c :: rest := by
      rw [unescapeBrackets, hrest, if_neg Bool.false_ne_true, ih]
    cases hbracket : isBracket c with
    | true =>
      have hopen : ('\\' = '\\' && (c :: escapeBrackets rest).head?.any isBracket) = true := by
        simpa using hbracket
      rw [escapeBrackets_cons_of_isBracket hbracket, unescapeBrackets, hopen, if_pos rfl, hlast]
    | false => rw [escapeBrackets_cons_of_not_isBracket hbracket, hlast]

theorem isBlank_of_isBracket (h : isBracket c = true) : isBlank c = false := by
  have hbracket : c = '[' ∨ c = ']' := by simpa [isBracket] using h
  rcases hbracket with rfl | rfl <;> rfl

/-- Escaping brackets leaves the blank end of a line as it is. -/
theorem rdropWhile_escapeBrackets (line : List Char) :
    (escapeBrackets line).rdropWhile isBlank = escapeBrackets (line.rdropWhile isBlank) := by
  induction line using List.reverseRecOn with
  | nil => rfl
  | append_singleton line last ih =>
    have happend : escapeBrackets (line ++ [last]) =
        escapeBrackets line ++ escapeBrackets [last] := List.flatMap_append ..
    rw [List.rdropWhile_concat]
    cases hbracket : isBracket last with
    | true =>
      have hlast : ¬ isBlank last = true := Bool.eq_false_iff.mp (isBlank_of_isBracket hbracket)
      have hend : escapeBrackets (line ++ [last]) = escapeBrackets line ++ ['\\'] ++ [last] := by
        rw [happend, escapeBrackets_cons_of_isBracket hbracket, List.append_assoc]
        rfl
      rw [if_neg hlast, hend, List.rdropWhile_concat_neg _ _ _ hlast]
    | false =>
      have hend : escapeBrackets (line ++ [last]) = escapeBrackets line ++ [last] := by
        rw [happend, escapeBrackets_cons_of_not_isBracket hbracket]
        rfl
      rw [hend, List.rdropWhile_concat, ih]
      split
      · rfl
      · exact hend.symm

/-! ### Lines of a doc comment -/

/-- What a line of a doc comment says about a line of a description. -/
structure Encodes (encoded : String) (line : List Char) : Prop where
  /-- It is a bare mark, or a mark with a text behind it. -/
  marked : encoded = "///" ∨ ∃ text, encoded = "/// " ++ text
  /-- It is one line. -/
  one_line : '\n' ∉ encoded.toList
  /-- It does not end in a blank character. -/
  trimmed : ∀ c ∈ encoded.toList.getLast?, isBlank c = false
  /-- It tells the line without the blank characters at its end. -/
  decodes : decodeLine encoded.toList = line.rdropWhile isBlank

/-- The line that is made of a line of a description tells it. -/
theorem encodes_encodeLine {line : List Char} (h : '\n' ∉ encodeLine line) :
    Encodes (String.ofList (encodeLine line)) line := by
  have htext := rdropWhile_escapeBrackets line
  rw [← trimRight_eq_rdropWhile] at htext
  have hdecodes := unescapeBrackets_escapeBrackets (line.rdropWhile isBlank)
  rw [← htext] at hdecodes
  have htrimmed := trimRight_getLast? (escapeBrackets line)
  cases hcontent : trimRight (escapeBrackets line) with
  | nil =>
    have hline : encodeLine line = "///".toList := by rw [encodeLine, hcontent]
    rw [hcontent] at hdecodes
    rw [hline]
    refine ⟨Or.inl rfl, by decide, fun c hc ↦ ?_, hdecodes⟩
    obtain rfl : '/' = c := Option.some.inj hc
    rfl
  | cons first rest =>
    have hline : encodeLine line = "/// ".toList ++ first :: rest := by rw [encodeLine, hcontent]
    rw [hcontent] at htrimmed hdecodes
    rw [hline] at h ⊢
    refine ⟨Or.inr ⟨String.ofList (first :: rest), ?_⟩, ?_, ?_, ?_⟩
    · rw [String.ofList_append, String.ofList_toList]
    · rwa [String.toList_ofList]
    · rwa [String.toList_ofList, List.getLast?_append_of_ne_nil _ (List.cons_ne_nil first rest)]
    · rw [String.toList_ofList, decodeLine,
        if_pos (List.isPrefixOf_iff_prefix.mpr (List.prefix_append ..))]
      exact hdecodes

end DocComment

/-- A doc comment is a faithful account of its description. It has one line for each line of the
description, in order. Each of these is a mark, or a mark and a text, without an end of a line in it
or a blank character at its end, and it tells the line of the description without its blank end. -/
theorem docLines_faithful (description : String) :
    List.Forall₂ DocComment.Encodes (docLines (some description))
      (description.toList.splitOn '\n') := by
  rw [docLines, DocComment.encode, List.map_map, List.forall₂_map_left_iff, List.forall₂_same]
  intro line hline
  have hmem : String.ofList (DocComment.encodeLine line) ∈ docLines (some description) :=
    List.mem_map_of_mem (List.mem_map_of_mem hline)
  have hone := (CodeLine.isDocLine_of_mem_docLines hmem).1
  rw [String.toList_ofList] at hone
  exact DocComment.encodes_encodeLine hone

end TypestateBuilders
