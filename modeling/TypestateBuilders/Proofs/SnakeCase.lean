import TypestateBuilders.Proofs.Words

/-!
# Snake case is stable

Words in small letters that are joined by underscores are found again, each as it is
(`splitWords_intercalate`). So a name in snake case is its own snake case (`snakeChars_snakeChars`),
also after the repairs that make it an identifier (`convert_snake_convert`). The suffix of a keyword
does not change the words of a name (`splitWords_append_underscore`), and the identifier of an
identifier is the identifier itself (`fieldIdent_fieldIdent`).
-/

set_option autoImplicit false
set_option relaxedAutoImplicit false

namespace TypestateBuilders.Naming

/-! ### Words in small letters -/

/-- A small letter or digit does not end a word in front of another one. -/
theorem continues_of_small {c d : Char} (hc : isSmallChar c = true) (hd : isSmallChar d = true)
    (rest : List Char) : continues c (d :: rest) = true := by
  rw [continues, if_neg (not_isUpper_of_isSmallChar hc)]
  exact hd

/-- A small letter or digit ends a word in front of what belongs to no word. -/
theorem not_continues_of_small {c : Char} (hc : isSmallChar c = true) {rest : List Char}
    (hrest : ∀ d ∈ rest.head?, isWordChar d = false) : continues c rest = false := by
  cases rest with
  | nil => rfl
  | cons d rest =>
    have hd : isWordChar d = false := hrest d rfl
    rw [continues, if_neg (not_isUpper_of_isSmallChar hc)]
    rw [isWordChar, Bool.or_eq_false_iff, Bool.or_eq_false_iff] at hd
    rw [hd.1.2, hd.2, Bool.or_false]

/-- A word in small letters is found in front of what belongs to no word. -/
theorem splitWords_append {word : List Char} (hword : IsSmallWord word) {rest : List Char}
    (hrest : ∀ d ∈ rest.head?, isWordChar d = false) :
    splitWords (word ++ rest) = word :: splitWords rest := by
  obtain ⟨hnonempty, hsmall⟩ := hword
  induction word with
  | nil => exact absurd rfl hnonempty
  | cons c word ih =>
    obtain ⟨hc, hsmall⟩ := List.forall_mem_cons.mp hsmall
    rw [List.cons_append, splitWords, if_pos (isWordChar_of_isSmallChar hc)]
    cases word with
    | nil =>
      rw [List.nil_append, if_neg (by simp [not_continues_of_small hc hrest])]
    | cons d word =>
      have hd : isSmallChar d = true := hsmall d (List.mem_cons_self ..)
      rw [ih (List.cons_ne_nil _ _) hsmall, List.cons_append,
        if_pos (continues_of_small hc hd (word ++ rest)), lengthenFirst]

theorem splitWords_underscore (name : List Char) : splitWords ('_' :: name) = splitWords name := by
  rw [splitWords, if_neg (by decide)]

/-- Words in small letters are found again when they are joined by underscores. -/
theorem splitWords_intercalate {words : List (List Char)} (h : ∀ word ∈ words, IsSmallWord word) :
    splitWords (['_'].intercalate words) = words := by
  induction words with
  | nil => rfl
  | cons word others ih =>
    obtain ⟨hword, hothers⟩ := List.forall_mem_cons.mp h
    cases others with
    | nil =>
      have halone : splitWords (word ++ []) = word :: splitWords [] :=
        splitWords_append hword fun _ hnone ↦ absurd hnone (by simp)
      rw [List.append_nil] at halone
      rw [List.intercalate_singleton, halone, splitWords]
    | cons next rest =>
      rw [List.intercalate_cons_cons, List.append_assoc, splitWords_append hword,
        List.singleton_append, splitWords_underscore, ih hothers]
      intro d hd
      obtain rfl : '_' = d := Option.some.inj hd
      rfl

/-- The words of a name in snake case are those of the name, in small letters. -/
theorem splitWords_snakeChars (name : List Char) :
    splitWords (snakeChars name) = lowerWords name :=
  splitWords_intercalate fun _ ↦ isSmallWord_of_mem_lowerWords

/-- Words in small letters that are joined by underscores are the words of what they make. -/
theorem lowerWords_intercalate {words : List (List Char)} (h : ∀ word ∈ words, IsSmallWord word) :
    lowerWords (['_'].intercalate words) = words := by
  rw [lowerWords, splitWords_intercalate h]
  exact (List.map_congr_left fun word hword ↦ lowerWord_of_small (h word hword).small).trans
    (List.map_id _)

/-- A name in snake case is its own snake case. -/
theorem snakeChars_snakeChars (name : List Char) :
    snakeChars (snakeChars name) = snakeChars name :=
  congrArg ['_'].intercalate (lowerWords_intercalate fun _ ↦ isSmallWord_of_mem_lowerWords)

/-! ### Underscores at the end -/

/-- An underscore at the end of a name ends no word earlier. -/
theorem continues_append_underscore (c : Char) (rest : List Char) :
    continues c (rest ++ ['_']) = continues c rest := by
  cases rest with
  | nil =>
    show (if c.isUpper then _ else _) = false
    split <;> rfl
  | cons d rest =>
    have hnext : (rest ++ ['_']).head?.any Char.isLower = rest.head?.any Char.isLower := by
      cases rest <;> rfl
    rw [List.cons_append, continues, continues, hnext]

/-- An underscore at the end of a name belongs to no word. -/
theorem splitWords_append_underscore (name : List Char) :
    splitWords (name ++ ['_']) = splitWords name := by
  induction name with
  | nil => rfl
  | cons c rest ih => rw [List.cons_append, splitWords, splitWords, continues_append_underscore, ih]

/-! ### Identifiers -/

/-- A repaired name in snake case has the words of the name. -/
theorem snakeChars_repairStart {name : List Char} (h : snakeChars name ≠ []) :
    snakeChars (repairStart (snakeChars name)) = snakeChars name := by
  obtain ⟨c, rest, hname⟩ := List.exists_cons_of_ne_nil h
  have hstable := snakeChars_snakeChars name
  rw [hname] at hstable ⊢
  rw [repairStart_cons]
  split
  · rw [snakeChars, splitWords_underscore]
    exact hstable
  · exact hstable

/-- A name that is an identifier in snake case is its own. -/
theorem convert_snake_convert (name : String) :
    Sanitizer.convert .snake (Sanitizer.convert .snake name) = Sanitizer.convert .snake name := by
  rw [Sanitizer.convert, Sanitizer.convert, String.toList_ofList, LetterCase.layOut,
    LetterCase.layOut]
  by_cases hempty : snakeChars name.toList = []
  · rw [hempty]
    decide
  · rw [snakeChars_repairStart hempty]

/-- A suffix does not change the identifier in snake case. -/
theorem convert_snake_append_suffix (name : String) :
    Sanitizer.convert .snake (name ++ keywordSuffix) = Sanitizer.convert .snake name := by
  have hsuffix : keywordSuffix.toList = ['_'] := rfl
  rw [Sanitizer.convert, Sanitizer.convert, String.toList_append, hsuffix, LetterCase.layOut,
    LetterCase.layOut, snakeChars, splitWords_append_underscore]
  rfl

/-- The identifier of an identifier is the identifier itself. -/
theorem fieldIdent_fieldIdent (name : String) : fieldIdent (fieldIdent name) = fieldIdent name := by
  have hsame : Sanitizer.convert .snake (fieldIdent name) = Sanitizer.convert .snake name := by
    rw [fieldIdent, Sanitizer.sanitize, Sanitizer.avoidTaken]
    split
    · rw [convert_snake_append_suffix, convert_snake_convert]
    · exact convert_snake_convert name
  conv_lhs => rw [fieldIdent, Sanitizer.sanitize, hsame]
  rfl

end TypestateBuilders.Naming
