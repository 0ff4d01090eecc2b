import Mathlib
import TypestateBuilders.Naming.Identifier

/-!
# What the cases of a name keep of its words

Words are never empty and hold ASCII letters and digits alone (`isWordChar_of_mem_splitWords`), so a
name in any case is made of these and of underscores (`isIdentChar_of_mem_convert`).

Snake case shows where one word ends and the next one begins. Pascal case shows it by a capital, and
there is none in front of a digit: a word that begins with a digit cannot be told from the end of
the word before it. What Pascal case keeps are the words in small letters with such words put behind
the ones before them (`stems`). Two names have the same Pascal case exactly when their stems are the
same (`pascalChars_eq_iff`), and so do the identifiers of markers, which are made from it
(`markerIdent_eq_iff`).
-/

set_option autoImplicit false
set_option relaxedAutoImplicit false

namespace TypestateBuilders.Naming

/-! ### Characters -/

/-- A small ASCII letter or a digit: what words in small letters hold. -/
def isSmallChar (c : Char) : Bool :=
  c.isLower || c.isDigit

/-- A character that identifiers may hold. -/
def isIdentChar (c : Char) : Bool :=
  isWordChar c || c == '_'

theorem not_isAlpha_of_isDigit {c : Char} (h : c.isDigit = true) : ¬ c.isAlpha = true := by
  simp only [Char.isAlpha, Char.isUpper, Char.isLower, Char.isDigit, UInt32.le_iff_toNat_le,
    Bool.or_eq_true, Bool.and_eq_true, decide_eq_true_eq] at h ⊢
  simp at h ⊢
  omega

theorem isWordChar_eq (c : Char) : isWordChar c = (c.isAlpha || c.isDigit) := rfl

theorem isSmallChar_toLower {c : Char} (h : isWordChar c = true) :
    isSmallChar c.toLower = true := by
  rw [isSmallChar, Char.isLower_toLower_eq_isAlpha]
  by_cases halpha : c.isAlpha = true
  · rw [halpha, Bool.true_or]
  · have hdigit : c.isDigit = true := by simpa [isWordChar_eq, halpha] using h
    have hupper : ¬ c.isUpper = true := fun hupper ↦ halpha (by rw [Char.isAlpha, hupper]; rfl)
    rw [Char.toLower_eq_of_not_isUpper hupper, hdigit, Bool.or_true]

theorem not_isUpper_of_isSmallChar {c : Char} (h : isSmallChar c = true) : ¬ c.isUpper = true := by
  intro hupper
  rcases Bool.or_eq_true_iff.mp h with hlower | hdigit
  · exact Char.not_isLower_of_isUpper hupper hlower
  · exact not_isAlpha_of_isDigit hdigit (by rw [Char.isAlpha, hupper]; rfl)

theorem toLower_of_isSmallChar {c : Char} (h : isSmallChar c = true) : c.toLower = c :=
  Char.toLower_eq_of_not_isUpper (not_isUpper_of_isSmallChar h)

theorem toUpper_of_isDigit {c : Char} (h : c.isDigit = true) : c.toUpper = c := by
  apply Char.toUpper_eq_of_not_isLower
  intro hlower
  exact not_isAlpha_of_isDigit h (by rw [Char.isAlpha, hlower, Bool.or_true])

/-- Small letters and digits stay apart as capitals. -/
theorem eq_of_toUpper_eq {c d : Char} (hc : isSmallChar c = true) (hd : isSmallChar d = true)
    (h : c.toUpper = d.toUpper) : c = d := by
  have hlower := congrArg Char.toLower h
  rwa [Char.toLower_toUpper_eq_toLower, Char.toLower_toUpper_eq_toLower, toLower_of_isSmallChar hc,
    toLower_of_isSmallChar hd] at hlower

theorem isWordChar_of_isSmallChar {c : Char} (h : isSmallChar c = true) : isWordChar c = true := by
  rcases Bool.or_eq_true_iff.mp h with hlower | hdigit
  · rw [isWordChar, hlower, Bool.or_true, Bool.true_or]
  · rw [isWordChar, hdigit, Bool.or_true]

/-- A letter or digit that is no capital is a small letter or a digit. -/
theorem isSmallChar_of_not_isUpper {c : Char} (hword : isWordChar c = true)
    (hupper : ¬ c.isUpper = true) : isSmallChar c = true := by
  rw [isWordChar, Bool.eq_false_iff.mpr hupper] at hword
  exact hword

theorem isWordChar_toUpper {c : Char} (h : isWordChar c = true) : isWordChar c.toUpper = true := by
  rw [isWordChar_eq, Char.isAlpha_toUpper_eq_isAlpha]
  by_cases halpha : c.isAlpha = true
  · rw [halpha, Bool.true_or]
  · have hdigit : c.isDigit = true := by simpa [isWordChar_eq, halpha] using h
    rw [toUpper_of_isDigit hdigit, hdigit, Bool.or_true]

/-! ### Words -/

theorem mem_lengthenFirst {c : Char} {words : List (List Char)} {word : List Char}
    (h : word ∈ lengthenFirst c words) :
    (∃ rest ∈ [] :: words, word = c :: rest) ∨ word ∈ words := by
  cases words with
  | nil =>
    exact Or.inl ⟨[], List.mem_cons_self .., List.mem_singleton.mp h⟩
  | cons first others =>
    rcases List.mem_cons.mp h with rfl | hother
    · exact Or.inl ⟨first, List.mem_cons_of_mem _ (List.mem_cons_self ..), rfl⟩
    · exact Or.inr (List.mem_cons_of_mem _ hother)

/-- Words are nonempty and hold letters and digits alone. -/
theorem isWordChar_of_mem_splitWords {name word : List Char} (h : word ∈ splitWords name) :
    word ≠ [] ∧ ∀ c ∈ word, isWordChar c = true := by
  induction name generalizing word with
  | nil => exact absurd h List.not_mem_nil
  | cons c rest ih =>
    rw [splitWords] at h
    by_cases hword : isWordChar c = true
    · have hopened : ∀ tail, (∀ d ∈ tail, isWordChar d = true) →
          c :: tail ≠ [] ∧ ∀ d ∈ c :: tail, isWordChar d = true :=
        fun tail htail ↦ ⟨List.cons_ne_nil _ _, List.forall_mem_cons.mpr ⟨hword, htail⟩⟩
      rw [if_pos hword] at h
      by_cases hcontinues : continues c rest = true
      · rw [if_pos hcontinues] at h
        rcases mem_lengthenFirst h with ⟨tail, htail, rfl⟩ | hother
        · rcases List.mem_cons.mp htail with rfl | hmem
          · exact hopened [] fun _ hnone ↦ absurd hnone List.not_mem_nil
          · exact hopened tail (ih hmem).2
        · exact ih hother
      · rw [if_neg hcontinues] at h
        rcases List.mem_cons.mp h with rfl | hother
        · exact hopened [] fun _ hnone ↦ absurd hnone List.not_mem_nil
        · exact ih hother
    · rw [if_neg hword] at h
      exact ih h

/-- The words of a name in small letters. -/
def lowerWords (name : List Char) : List (List Char) :=
  (splitWords name).map lowerWord

/-- A word that holds small letters and digits, and at least one of them. -/
structure IsSmallWord (word : List Char) : Prop where
  nonempty : word ≠ []
  small : ∀ c ∈ word, isSmallChar c = true

theorem isSmallWord_of_mem_lowerWords {name word : List Char} (h : word ∈ lowerWords name) :
    IsSmallWord word := by
  obtain ⟨original, hmem, rfl⟩ := List.mem_map.mp h
  obtain ⟨hnonempty, hchars⟩ := isWordChar_of_mem_splitWords hmem
  constructor
  · exact fun hempty ↦ hnonempty (List.map_eq_nil_iff.mp hempty)
  · intro c hc
    obtain ⟨d, hd, rfl⟩ := List.mem_map.mp hc
    exact isSmallChar_toLower (hchars d hd)

theorem lowerWord_of_small {word : List Char} (h : ∀ c ∈ word, isSmallChar c = true) :
    lowerWord word = word := by
  rw [lowerWord, List.map_congr_left fun c hc ↦ toLower_of_isSmallChar (h c hc), List.map_id']

theorem capitalizeWord_lowerWord (word : List Char) :
    capitalizeWord (lowerWord word) = capitalizeWord word := by
  cases word with
  | nil => rfl
  | cons c rest =>
    have hrest : Char.toLower ∘ Char.toLower = Char.toLower :=
      funext fun c ↦ Char.toLower_toLower_eq_toLower c
    simp only [lowerWord, List.map_cons, capitalizeWord, Char.toUpper_toLower_eq_toUpper,
      List.map_map, hrest]

/-- Words, each with a capital in front, one after the other. -/
def capitalized (words : List (List Char)) : List Char :=
  (words.map capitalizeWord).flatten

theorem capitalized_cons {c : Char} {rest : List Char} {words : List (List Char)}
    (h : ∀ d ∈ rest, isSmallChar d = true) :
    capitalized ((c :: rest) :: words) = c.toUpper :: (rest ++ capitalized words) := by
  rw [capitalized, List.map_cons, List.flatten_cons, capitalizeWord, lowerWord_of_small h]
  rfl

theorem pascalChars_eq_capitalized (name : List Char) :
    pascalChars name = capitalized (lowerWords name) := by
  rw [pascalChars, capitalized, lowerWords, List.map_map,
    List.map_congr_left fun word _ ↦ (capitalizeWord_lowerWord word).symm]
  rfl

/-! ### Stems -/

/-- A word in front of others, with the next one put behind it if that begins with a digit. -/
def glue (word : List Char) : List (List Char) → List (List Char)
  | [] => [word]
  | next :: others =>
    if next.head?.any Char.isDigit then (word ++ next) :: others else word :: next :: others

/-- What Pascal case keeps of a name: its words in small letters, where those that begin with a
digit stand behind the word before them. -/
def stems (name : String) : List (List Char) :=
  (lowerWords name.toList).foldr glue []

/-- Words of which only the first one may begin with a digit. -/
structure AreStems (words : List (List Char)) : Prop where
  small : ∀ word ∈ words, IsSmallWord word
  opened : ∀ word ∈ words.tail, word.head?.any Char.isDigit = false

theorem areStems_glue {word : List Char} {words : List (List Char)} (hword : IsSmallWord word)
    (h : AreStems words) : AreStems (glue word words) := by
  cases words with
  | nil =>
    exact ⟨by simpa [glue] using hword, by simp [glue]⟩
  | cons next others =>
    obtain ⟨hnext, hothers⟩ := List.forall_mem_cons.mp h.small
    by_cases hdigit : next.head?.any Char.isDigit = true
    · rw [glue, if_pos hdigit]
      refine ⟨List.forall_mem_cons.mpr ⟨⟨?_, ?_⟩, hothers⟩, h.opened⟩
      · exact List.append_ne_nil_of_left_ne_nil hword.nonempty _
      · exact List.forall_mem_append.mpr ⟨hword.small, hnext.small⟩
    · rw [glue, if_neg hdigit]
      refine ⟨List.forall_mem_cons.mpr ⟨hword, h.small⟩, ?_⟩
      exact List.forall_mem_cons.mpr ⟨Bool.eq_false_iff.mpr hdigit, h.opened⟩

theorem areStems_foldr_glue {words : List (List Char)} (h : ∀ word ∈ words, IsSmallWord word) :
    AreStems (words.foldr glue []) := by
  induction words with
  | nil =>
    exact ⟨fun _ hmem ↦ absurd hmem List.not_mem_nil, fun _ hmem ↦ absurd hmem List.not_mem_nil⟩
  | cons word words ih =>
    obtain ⟨hword, hrest⟩ := List.forall_mem_cons.mp h
    exact areStems_glue hword (ih hrest)

theorem areStems_stems (name : String) : AreStems (stems name) :=
  areStems_foldr_glue fun _ ↦ isSmallWord_of_mem_lowerWords

/-- A word behind another one changes its first letter only if that is a letter. -/
theorem capitalizeWord_append {word next : List Char} (hword : word ≠ [])
    (hnext : IsSmallWord next) (hdigit : next.head?.any Char.isDigit = true) :
    capitalizeWord (word ++ next) = capitalizeWord word ++ capitalizeWord next := by
  obtain ⟨c, rest, rfl⟩ := List.exists_cons_of_ne_nil hword
  obtain ⟨d, others, rfl⟩ := List.exists_cons_of_ne_nil hnext.nonempty
  have hsmall : lowerWord (d :: others) = d :: others := lowerWord_of_small hnext.small
  have hkept : d.toUpper = d.toLower := by
    rw [toUpper_of_isDigit (by simpa using hdigit),
      toLower_of_isSmallChar (hnext.small d (List.mem_cons_self ..))]
  simp only [List.cons_append, capitalizeWord, lowerWord, List.map_append, List.map_cons, hkept]

theorem capitalized_glue {word : List Char} {words : List (List Char)} (hword : IsSmallWord word)
    (h : AreStems words) : capitalized (glue word words) = capitalized (word :: words) := by
  cases words with
  | nil => rfl
  | cons next others =>
    by_cases hdigit : next.head?.any Char.isDigit = true
    · have hnext := h.small next (List.mem_cons_self ..)
      rw [glue, if_pos hdigit, capitalized, List.map_cons, List.flatten_cons,
        capitalizeWord_append hword.nonempty hnext hdigit, List.append_assoc]
      rfl
    · rw [glue, if_neg hdigit]

theorem capitalized_foldr_glue {words : List (List Char)} (h : ∀ word ∈ words, IsSmallWord word) :
    capitalized (words.foldr glue []) = capitalized words := by
  induction words with
  | nil => rfl
  | cons word words ih =>
    obtain ⟨hword, hrest⟩ := List.forall_mem_cons.mp h
    rw [List.foldr_cons, capitalized_glue hword (areStems_foldr_glue hrest)]
    simp only [capitalized] at ih ⊢
    rw [List.map_cons, List.map_cons, List.flatten_cons, List.flatten_cons, ih hrest]

/-- Pascal case is made of the stems of a name. -/
theorem pascalChars_eq_stems (name : String) :
    pascalChars name.toList = capitalized (stems name) := by
  rw [pascalChars_eq_capitalized, stems, capitalized_foldr_glue]
  exact fun _ ↦ isSmallWord_of_mem_lowerWords

/-- A word that opens with a letter opens with a capital in Pascal case. -/
theorem isUpper_head_capitalized {words : List (List Char)}
    (hwords : ∀ word ∈ words, IsSmallWord word)
    (hopened : ∀ word ∈ words, word.head?.any Char.isDigit = false) :
    ∀ c ∈ (capitalized words).head?, c.isUpper = true := by
  intro c hc
  cases words with
  | nil => cases hc
  | cons word others =>
    have hword := hwords word (List.mem_cons_self ..)
    obtain ⟨d, rest, rfl⟩ := List.exists_cons_of_ne_nil hword.nonempty
    have hsmall : isSmallChar d = true := hword.small d (List.mem_cons_self ..)
    have hdigit : d.isDigit = false := by simpa using hopened (d :: rest) (List.mem_cons_self ..)
    obtain rfl : d.toUpper = c := by simpa [capitalized, capitalizeWord] using hc
    rw [isSmallChar, hdigit, Bool.or_false] at hsmall
    rw [Char.isUpper_toUpper_eq_isAlpha, Char.isAlpha, hsmall, Bool.or_true]

/-- The first of two runs of small characters can be told apart by what stands behind them, if that
opens with a capital. -/
theorem append_inj_of_isUpper_head {first second rest rest' : List Char}
    (hfirst : ∀ c ∈ first, isSmallChar c = true) (hsecond : ∀ c ∈ second, isSmallChar c = true)
    (hrest : ∀ c ∈ rest.head?, c.isUpper = true) (hrest' : ∀ c ∈ rest'.head?, c.isUpper = true)
    (h : first ++ rest = second ++ rest') : first = second ∧ rest = rest' := by
  have htake : ∀ run tail : List Char, (∀ c ∈ run, isSmallChar c = true) →
      (∀ c ∈ tail.head?, c.isUpper = true) → (run ++ tail).takeWhile isSmallChar = run := by
    intro run tail hrun htail
    rw [List.takeWhile_append_of_pos hrun]
    cases tail with
    | nil => simp
    | cons c tail =>
      have hcapital : ¬ isSmallChar c = true := fun hsmall ↦
        not_isUpper_of_isSmallChar hsmall (htail c rfl)
      rw [List.takeWhile_cons_of_neg hcapital, List.append_nil]
  have hsame : first = second := by
    rw [← htake first rest hfirst hrest, h, htake second rest' hsecond hrest']
  subst hsame
  exact ⟨rfl, List.append_cancel_left h⟩

/-- Stems can be read off Pascal case. -/
theorem capitalized_inj {words others : List (List Char)} (hwords : AreStems words)
    (hothers : AreStems others) (h : capitalized words = capitalized others) : words = others := by
  induction words generalizing others with
  | nil =>
    cases others with
    | nil => rfl
    | cons other rest =>
      obtain ⟨c, tail, rfl⟩ :=
        List.exists_cons_of_ne_nil (hothers.small other (List.mem_cons_self ..)).nonempty
      cases h
  | cons word words ih =>
    have hword := hwords.small word (List.mem_cons_self ..)
    obtain ⟨c, tail, rfl⟩ := List.exists_cons_of_ne_nil hword.nonempty
    cases others with
    | nil => cases h
    | cons other others =>
      have hother := hothers.small other (List.mem_cons_self ..)
      obtain ⟨d, tail', rfl⟩ := List.exists_cons_of_ne_nil hother.nonempty
      obtain ⟨hc, htail⟩ := List.forall_mem_cons.mp hword.small
      obtain ⟨hd, htail'⟩ := List.forall_mem_cons.mp hother.small
      have hrest := fun word hmem ↦ hwords.small word (List.mem_cons_of_mem _ hmem)
      have hrest' := fun word hmem ↦ hothers.small word (List.mem_cons_of_mem _ hmem)
      rw [capitalized_cons htail, capitalized_cons htail'] at h
      obtain ⟨hhead, hbehind⟩ := List.cons.inj h
      obtain ⟨hsame, hcapitalized⟩ := append_inj_of_isUpper_head htail htail'
        (isUpper_head_capitalized hrest hwords.opened)
        (isUpper_head_capitalized hrest' hothers.opened) hbehind
      rw [eq_of_toUpper_eq hc hd hhead, hsame,
        ih ⟨hrest, fun word hmem ↦ hwords.opened word (List.mem_of_mem_tail hmem)⟩
          ⟨hrest', fun word hmem ↦ hothers.opened word (List.mem_of_mem_tail hmem)⟩ hcapitalized]

/-- Names share their Pascal case exactly when they share their stems. -/
theorem pascalChars_eq_iff {name other : String} :
    pascalChars name.toList = pascalChars other.toList ↔ stems name = stems other := by
  rw [pascalChars_eq_stems, pascalChars_eq_stems]
  exact ⟨capitalized_inj (areStems_stems name) (areStems_stems other), fun h ↦ by rw [h]⟩

/-! ### Identifiers -/

theorem isIdentChar_of_isWordChar {c : Char} (h : isWordChar c = true) : isIdentChar c = true := by
  rw [isIdentChar, h, Bool.true_or]

theorem isWordChar_of_mem_pascalChars {name : List Char} {c : Char} (h : c ∈ pascalChars name) :
    isWordChar c = true := by
  obtain ⟨_, hword, hc⟩ := List.mem_flatten.mp h
  obtain ⟨word, hmem, rfl⟩ := List.mem_map.mp hword
  have hchars := (isWordChar_of_mem_splitWords hmem).2
  cases word with
  | nil => exact absurd hc List.not_mem_nil
  | cons d rest =>
    obtain ⟨hd, hrest⟩ := List.forall_mem_cons.mp hchars
    rcases List.mem_cons.mp hc with rfl | htail
    · exact isWordChar_toUpper hd
    · obtain ⟨e, he, rfl⟩ := List.mem_map.mp htail
      exact isWordChar_of_isSmallChar (isSmallChar_toLower (hrest e he))

/-- What stands in joined words stands in a word or in what joins them. -/
theorem mem_of_mem_intercalate {separator : List Char} {words : List (List Char)} {c : Char}
    (h : c ∈ separator.intercalate words) : c ∈ separator ∨ ∃ word ∈ words, c ∈ word := by
  induction words with
  | nil => exact absurd h List.not_mem_nil
  | cons word others ih =>
    have hword : c ∈ word → ∃ word' ∈ word :: others, c ∈ word' :=
      fun hc ↦ ⟨word, List.mem_cons_self .., hc⟩
    cases others with
    | nil => exact Or.inr (hword (by rwa [List.intercalate_singleton] at h))
    | cons next rest =>
      rw [List.intercalate_cons_cons, List.append_assoc] at h
      rcases List.mem_append.mp h with hc | hrest
      · exact Or.inr (hword hc)
      · rcases List.mem_append.mp hrest with hseparator | hothers
        · exact Or.inl hseparator
        · refine (ih hothers).imp_right fun ⟨other, hother, hc⟩ ↦ ?_
          exact ⟨other, List.mem_cons_of_mem _ hother, hc⟩

theorem isIdentChar_of_mem_snakeChars {name : List Char} {c : Char} (h : c ∈ snakeChars name) :
    isIdentChar c = true := by
  rcases mem_of_mem_intercalate h with hseparator | ⟨word, hword, hc⟩
  · rw [List.mem_singleton.mp hseparator]
    rfl
  · have hsmall := (isSmallWord_of_mem_lowerWords hword).small c hc
    exact isIdentChar_of_isWordChar (isWordChar_of_isSmallChar hsmall)

theorem isIdentChar_toUpper {c : Char} (h : isIdentChar c = true) :
    isIdentChar c.toUpper = true := by
  rcases Bool.or_eq_true_iff.mp h with hword | hunderscore
  · exact isIdentChar_of_isWordChar (isWordChar_toUpper hword)
  · rw [beq_iff_eq.mp hunderscore]
    rfl

theorem isIdentChar_of_mem_camelChars {name : List Char} {c : Char} (h : c ∈ camelChars name) :
    isIdentChar c = true := by
  have hpascal : ∀ d ∈ pascalChars name, isWordChar d = true :=
    fun _ ↦ isWordChar_of_mem_pascalChars
  rw [camelChars] at h
  cases hname : pascalChars name with
  | nil =>
    rw [hname] at h
    exact absurd h List.not_mem_nil
  | cons d rest =>
    rw [hname] at h hpascal
    obtain ⟨hd, hrest⟩ := List.forall_mem_cons.mp hpascal
    rcases List.mem_cons.mp h with rfl | htail
    · exact isIdentChar_of_isWordChar (isWordChar_of_isSmallChar (isSmallChar_toLower hd))
    · exact isIdentChar_of_isWordChar (hrest c htail)

/-- A name in any case holds what identifiers may hold. -/
theorem isIdentChar_of_mem_layOut {letterCase : LetterCase} {name : List Char} {c : Char}
    (h : c ∈ letterCase.layOut name) : isIdentChar c = true := by
  cases letterCase with
  | snake => exact isIdentChar_of_mem_snakeChars h
  | camel => exact isIdentChar_of_mem_camelChars h
  | pascal => exact isIdentChar_of_isWordChar (isWordChar_of_mem_pascalChars h)
  | screamingSnake =>
    obtain ⟨d, hd, rfl⟩ := List.mem_map.mp h
    exact isIdentChar_toUpper (isIdentChar_of_mem_snakeChars hd)

theorem repairStart_cons (c : Char) (rest : List Char) :
    repairStart (c :: rest) = if c.isDigit then '_' :: c :: rest else c :: rest := rfl

theorem isIdentChar_of_mem_repairStart {name : List Char} (h : ∀ c ∈ name, isIdentChar c = true) :
    ∀ c ∈ repairStart name, isIdentChar c = true := by
  cases name with
  | nil => exact List.all_eq_true.mp rfl
  | cons c rest =>
    rw [repairStart_cons]
    by_cases hdigit : c.isDigit = true
    · rw [if_pos hdigit]
      exact List.forall_mem_cons.mpr ⟨rfl, h⟩
    · rw [if_neg hdigit]
      exact h

theorem isIdentChar_of_mem_convert {letterCase : LetterCase} {name : String} :
    ∀ c ∈ (Sanitizer.convert letterCase name).toList, isIdentChar c = true := by
  rw [Sanitizer.convert, String.toList_ofList]
  exact isIdentChar_of_mem_repairStart fun _ ↦ isIdentChar_of_mem_layOut

/-- Identifiers hold ASCII letters, digits and underscores alone. -/
theorem isIdentChar_of_mem_sanitize {letterCase : LetterCase} {name : String} :
    ∀ c ∈ (rustSanitizer.sanitize name letterCase keywordSuffix).toList, isIdentChar c = true := by
  rw [Sanitizer.sanitize, Sanitizer.avoidTaken]
  by_cases htaken : rustSanitizer.isTaken (Sanitizer.convert letterCase name) = true
  · rw [if_pos htaken, String.toList_append]
    exact List.forall_mem_append.mpr ⟨isIdentChar_of_mem_convert, List.all_eq_true.mp rfl⟩
  · rw [if_neg htaken]
    exact isIdentChar_of_mem_convert

/-- Repairs do not put an underscore at the end of a name. -/
theorem getLast?_repairStart {name : List Char} (h : name.getLast? ≠ some '_') :
    (repairStart name).getLast? ≠ some '_' := by
  cases name with
  | nil => decide
  | cons c rest =>
    rw [repairStart_cons]
    by_cases hdigit : c.isDigit = true
    · rwa [if_pos hdigit, List.getLast?_cons_cons]
    · rwa [if_neg hdigit]

/-- A name in Pascal case does not end in an underscore. -/
theorem getLast?_pascalChars (name : List Char) : (pascalChars name).getLast? ≠ some '_' :=
  fun hunderscore ↦
    absurd (isWordChar_of_mem_pascalChars (List.mem_of_getLast? hunderscore)) (by decide)

/-- A name in Pascal case does not open with a small letter. -/
theorem not_isLower_head_pascalChars {name : List Char} :
    ∀ c ∈ (pascalChars name).head?, ¬ c.isLower = true := by
  have hwords : ∀ word ∈ splitWords name, word ≠ [] :=
    fun _ hword ↦ (isWordChar_of_mem_splitWords hword).1
  intro c hc
  rw [pascalChars] at hc
  cases hname : splitWords name with
  | nil =>
    rw [hname] at hc
    cases hc
  | cons word others =>
    rw [hname] at hc hwords
    obtain ⟨d, rest, rfl⟩ := List.exists_cons_of_ne_nil (hwords word (List.mem_cons_self ..))
    obtain rfl : d.toUpper = c := Option.some.inj hc
    rw [Char.isLower_toUpper_eq_false]
    exact Bool.false_ne_true

/-- Repairs keep apart what does not open with a small letter or an underscore. -/
theorem repairStart_inj {name other : List Char}
    (hname : ∀ c ∈ name.head?, isWordChar c = true ∧ ¬ c.isLower = true)
    (hother : ∀ c ∈ other.head?, isWordChar c = true ∧ ¬ c.isLower = true)
    (h : repairStart name = repairStart other) : name = other := by
  -- What a repair puts in front does not open any of the names.
  have hempty : ∀ {c : Char} {rest : List Char}, isWordChar c = true ∧ ¬ c.isLower = true →
      repairStart (c :: rest) ≠ repairStart [] := by
    intro c rest ⟨_, hlower⟩ hrepair
    rw [repairStart_cons] at hrepair
    split at hrepair
    · exact absurd (List.cons.inj hrepair).1 (by decide)
    · exact hlower (by rw [(List.cons.inj hrepair).1]; rfl)
  cases name with
  | nil =>
    cases other with
    | nil => rfl
    | cons d others => exact absurd h.symm (hempty (hother d rfl))
  | cons c rest =>
    cases other with
    | nil => exact absurd h (hempty (hname c rfl))
    | cons d others =>
      have hmark : ∀ {e : Char}, isWordChar e = true → e ≠ '_' := by
        rintro _ hword rfl
        exact absurd hword (by decide)
      rw [repairStart_cons, repairStart_cons] at h
      split at h
      · split at h
        · exact (List.cons.inj h).2
        · exact absurd (List.cons.inj h).1.symm (hmark (hother d rfl).1)
      · split at h
        · exact absurd (List.cons.inj h).1 (hmark (hname c rfl).1)
        · exact h

/-- A suffix keeps names apart that do not end in it. -/
theorem avoidTaken_inj {sanitizer : Sanitizer} {name other : String}
    (hname : name.toList.getLast? ≠ some '_') (hother : other.toList.getLast? ≠ some '_')
    (h : sanitizer.avoidTaken keywordSuffix name = sanitizer.avoidTaken keywordSuffix other) :
    name = other := by
  have hsuffix : ∀ text : String, (text ++ keywordSuffix).toList.getLast? = some '_' := by
    intro text
    rw [String.toList_append]
    exact List.getLast?_concat ..
  rw [Sanitizer.avoidTaken, Sanitizer.avoidTaken] at h
  split at h
  · split at h
    · exact String.append_left_inj keywordSuffix |>.mp h
    · exact absurd (h ▸ hsuffix name) hother
  · split at h
    · exact absurd (h ▸ hsuffix other) hname
    · exact h

/-- Markers of two properties have the same names exactly when the names of the properties share
their stems. -/
theorem markerIdent_eq_iff {name other : String} :
    markerIdent name = markerIdent other ↔ stems name = stems other := by
  have hopens : ∀ name : String, ∀ c ∈ (pascalChars name.toList).head?,
      isWordChar c = true ∧ ¬ c.isLower = true :=
    fun name c hc ↦ ⟨isWordChar_of_mem_pascalChars (List.mem_of_mem_head? hc),
      not_isLower_head_pascalChars c hc⟩
  have hlast : ∀ name : String, (Sanitizer.convert .pascal name).toList.getLast? ≠ some '_' := by
    intro name
    rw [Sanitizer.convert, String.toList_ofList]
    exact getLast?_repairStart (getLast?_pascalChars _)
  rw [← pascalChars_eq_iff]
  constructor
  · intro h
    have hconvert := avoidTaken_inj (hlast name) (hlast other) h
    exact repairStart_inj (hopens name) (hopens other) (String.ofList_injective hconvert)
  · intro h
    rw [markerIdent, markerIdent, Sanitizer.sanitize, Sanitizer.sanitize, Sanitizer.convert,
      Sanitizer.convert, LetterCase.layOut, LetterCase.layOut, h]

end TypestateBuilders.Naming
