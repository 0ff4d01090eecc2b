import TypestateBuilders.Proofs.SnakeCase

/-!
# The pattern of words

The words of a name are what the pattern `[A-Z]+(?![a-z])|[A-Z]?[a-z0-9]+|[0-9]+` finds in it, one
behind the other. A pattern can read the beginning of a text in several ways, which are tried in
order (`Pattern.readings`): a run is read as far as it goes first and then given back character by
character, and the second of two patterns is tried where the first one has nothing left. What is
found are the first ways, from left to right, and a character with which no way begins is skipped
(`Pattern.FindsAll`).

Along a name the pattern of words follows the characters as `splitWords` does: a character that ends
its word is found by itself (`first?_cons_of_not_continues`), and any other one is found in front of
the word that is found behind it (`first?_cons_of_continues`). For capitals this is where the
pattern gives back the last one of a run, in front of a small letter. So the pattern finds the words
(`findsAll_iff`).

A character is skipped only if it belongs to no word, so words hold all letters and digits of a name
in order, and those of its snake case are the same in small letters (`words_normal_form`).
-/

set_option autoImplicit false
set_option relaxedAutoImplicit false

namespace TypestateBuilders

/-! ### Patterns -/

/-- What the beginning of a text is compared with, by kinds of characters. -/
inductive Pattern
  /-- One character of a kind or more. -/
  | run (kind : Char → Bool)
  /-- A character of a kind, or nothing. -/
  | optional (kind : Char → Bool)
  /-- Nothing, and a character of the kind does not follow. -/
  | notBefore (kind : Char → Bool)
  /-- The first pattern and then the second one. -/
  | both (first second : Pattern)
  /-- The first pattern, or else the second one. -/
  | either (first second : Pattern)

namespace Pattern

/-- What has been read of a text, and what is left of it. -/
abbrev Reading := List Char × List Char

/-- A reading with one more character in front. -/
def Reading.behind (c : Char) (reading : Reading) : Reading :=
  (c :: reading.1, reading.2)

/-- The character that a text begins with, if it is of a kind. -/
def one (kind : Char → Bool) : List Char → List Reading
  | [] => []
  | c :: rest => if kind c then [([c], rest)] else []

/-- The runs of a kind that a text begins with, longest first. -/
def runs (kind : Char → Bool) : List Char → List Reading
  | [] => []
  | c :: rest => if kind c then (runs kind rest).map (Reading.behind c) ++ [([c], rest)] else []

/-- The ways in which a pattern reads the beginning of a text, in the order in which they are
tried. -/
def readings : Pattern → List Char → List Reading
  | run kind, text => runs kind text
  | optional kind, text => one kind text ++ [([], text)]
  | notBefore kind, text => if text.head?.any kind then [] else [([], text)]
  | both first second, text =>
    (first.readings text).flatMap fun (start, rest) ↦
      (second.readings rest).map fun (more, left) ↦ (start ++ more, left)
  | either first second, text => first.readings text ++ second.readings text

/-- What a pattern reads at the beginning of a text. -/
def first? (pattern : Pattern) (text : List Char) : Option Reading :=
  (pattern.readings text).head?

/-- What a pattern that does not read the empty text finds in a text, from left to right: a word
where it reads one, and behind it the words of what is left; where it reads none, a character is
skipped. -/
inductive FindsAll (pattern : Pattern) : List Char → List (List Char) → Prop
  | done : FindsAll pattern [] []
  | found {c : Char} {rest word left : List Char} {words : List (List Char)}
      (hfirst : pattern.first? (c :: rest) = some (word, left))
      (hwords : FindsAll pattern left words) : FindsAll pattern (c :: rest) (word :: words)
  | skipped {c : Char} {rest : List Char} {words : List (List Char)}
      (hfirst : pattern.first? (c :: rest) = none)
      (hwords : FindsAll pattern rest words) : FindsAll pattern (c :: rest) words

/-- A pattern finds the same words whenever it is asked. -/
theorem FindsAll.unique {pattern : Pattern} {text : List Char} {words others : List (List Char)}
    (hwords : pattern.FindsAll text words) (hothers : pattern.FindsAll text others) :
    words = others := by
  induction hwords generalizing others with
  | done =>
    cases hothers with
    | done => rfl
  | found hfirst _ ih =>
    cases hothers with
    | found hother hothers =>
      rw [hfirst] at hother
      cases hother
      rw [ih hothers]
    | skipped hother _ =>
      rw [hfirst] at hother
      cases hother
  | skipped hfirst _ ih =>
    cases hothers with
    | found hother _ =>
      rw [hfirst] at hother
      cases hother
    | skipped _ hothers => exact ih hothers

end Pattern

namespace Naming

open Pattern

/-- `[A-Z]+(?![a-z])`: capitals, without the last one in front of a small letter. -/
def capitals : Pattern :=
  both (run Char.isUpper) (notBefore Char.isLower)

/-- `[A-Z]?[a-z0-9]+`: small letters and digits, maybe behind a capital. -/
def smallRun : Pattern :=
  both (optional Char.isUpper) (run isSmallChar)

/-- `[A-Z]+(?![a-z])|[A-Z]?[a-z0-9]+|[0-9]+` -/
def wordPattern : Pattern :=
  either capitals (either smallRun (run Char.isDigit))

variable {c : Char} {rest : List Char}

/-! ### Readings of the parts -/

theorem runs_of_kind {kind : Char → Bool} (h : kind c = true) :
    runs kind (c :: rest) = (runs kind rest).map (Reading.behind c) ++ [([c], rest)] := by
  rw [runs, if_pos h]

theorem runs_of_not_kind {kind : Char → Bool} (h : ¬ kind c = true) :
    runs kind (c :: rest) = [] := by
  rw [runs, if_neg h]

theorem readings_capitals_of_isUpper (h : c.isUpper = true) :
    capitals.readings (c :: rest) = (capitals.readings rest).map (Reading.behind c) ++
      if rest.head?.any Char.isLower then [] else [([c], rest)] := by
  simp only [capitals, readings, runs_of_kind h, List.flatMap_append, List.flatMap_map,
    List.map_flatMap, List.map_map, List.flatMap_singleton]
  congr 1
  split
  · rfl
  · rfl

theorem readings_capitals_of_not_isUpper (h : ¬ c.isUpper = true) :
    capitals.readings (c :: rest) = [] := by
  rw [capitals, readings, readings, runs_of_not_kind h, List.flatMap_nil]

theorem readings_smallRun_of_isUpper (h : c.isUpper = true) :
    smallRun.readings (c :: rest) = (runs isSmallChar rest).map (Reading.behind c) := by
  have hsmall : ¬ isSmallChar c = true := fun hsmall ↦ not_isUpper_of_isSmallChar hsmall h
  simp only [smallRun, readings, one, if_pos h, List.flatMap_append, List.flatMap_singleton,
    runs_of_not_kind hsmall, List.map_nil, List.append_nil]
  rfl

theorem readings_smallRun_of_not_isUpper (h : ¬ c.isUpper = true) :
    smallRun.readings (c :: rest) = runs isSmallChar (c :: rest) := by
  simp only [smallRun, readings, one, if_neg h, List.nil_append, List.flatMap_singleton]
  exact List.map_id _

theorem first?_eq (text : List Char) :
    wordPattern.first? text = (capitals.readings text).head?.or
      ((smallRun.readings text).head?.or (runs Char.isDigit text).head?) := by
  rw [wordPattern, first?, readings, readings, List.head?_append, List.head?_append]
  rfl

/-- In front of a small letter or digit the pattern reads a run of these. -/
theorem first?_of_isSmallChar (h : isSmallChar c = true) :
    wordPattern.first? (c :: rest) =
      some (((runs isSmallChar rest).map (Reading.behind c)).head?.getD ([c], rest)) := by
  have hupper := not_isUpper_of_isSmallChar h
  rw [first?_eq, readings_capitals_of_not_isUpper hupper, readings_smallRun_of_not_isUpper hupper,
    runs_of_kind h, List.head?_append]
  cases ((runs isSmallChar rest).map (Reading.behind c)).head? with
  | none => rfl
  | some reading => rfl

/-- In front of a capital the pattern reads capitals, or else a run behind the first one. -/
theorem first?_of_isUpper (h : c.isUpper = true) :
    wordPattern.first? (c :: rest) =
      (((capitals.readings rest).map (Reading.behind c)).head?.or
        (if rest.head?.any Char.isLower then [] else [([c], rest)]).head?).or
          ((runs isSmallChar rest).map (Reading.behind c)).head? := by
  have hdigit : ¬ c.isDigit = true := fun hdigit ↦
    not_isAlpha_of_isDigit hdigit (by rw [Char.isAlpha, h]; rfl)
  rw [first?_eq, readings_capitals_of_isUpper h, readings_smallRun_of_isUpper h,
    runs_of_not_kind hdigit, List.head?_append, List.head?_nil, Option.or_none]

/-! ### Words along a name -/

/-- A character that belongs to no word begins no word. -/
theorem first?_cons_of_not_isWordChar (h : ¬ isWordChar c = true) :
    wordPattern.first? (c :: rest) = none := by
  have hupper : ¬ c.isUpper = true := fun hupper ↦ h (by rw [isWordChar, hupper]; rfl)
  have hsmall : ¬ isSmallChar c = true := fun hsmall ↦ h (isWordChar_of_isSmallChar hsmall)
  have hdigit : ¬ c.isDigit = true :=
    fun hdigit ↦ hsmall (by rw [isSmallChar, hdigit, Bool.or_true])
  rw [first?_eq, readings_capitals_of_not_isUpper hupper, readings_smallRun_of_not_isUpper hupper,
    runs_of_not_kind hsmall, runs_of_not_kind hdigit]
  rfl

/-- What is found at a small letter or digit is a run. -/
theorem exists_first?_of_isSmallChar (h : isSmallChar c = true) (rest : List Char) :
    ∃ reading, (runs isSmallChar (c :: rest)).head? = some reading ∧
      wordPattern.first? (c :: rest) = some reading := by
  rw [first?_of_isSmallChar h, runs_of_kind h, List.head?_append]
  cases ((runs isSmallChar rest).map (Reading.behind c)).head? with
  | none => exact ⟨_, rfl, rfl⟩
  | some reading => exact ⟨_, rfl, rfl⟩

/-- What is found at a capital are capitals, unless a small letter follows. -/
theorem exists_first?_of_isUpper (h : c.isUpper = true)
    (hrest : ¬ rest.head?.any Char.isLower = true) :
    ∃ reading, (capitals.readings (c :: rest)).head? = some reading ∧
      wordPattern.first? (c :: rest) = some reading := by
  rw [first?_eq, readings_capitals_of_isUpper h, if_neg hrest, List.head?_append]
  cases ((capitals.readings rest).map (Reading.behind c)).head? with
  | none => exact ⟨_, rfl, rfl⟩
  | some reading => exact ⟨_, rfl, rfl⟩

/-- A character behind which its word goes on is found in front of what is found behind it. -/
theorem first?_cons_of_continues (hword : isWordChar c = true) (h : continues c rest = true) :
    ∃ reading, wordPattern.first? rest = some reading ∧
      wordPattern.first? (c :: rest) = some (reading.behind c) := by
  cases rest with
  | nil => cases h
  | cons d rest =>
    rw [continues] at h
    by_cases hupper : c.isUpper = true
    · rw [if_pos hupper, Bool.or_eq_true, Bool.and_eq_true, Bool.not_eq_true',
        ← Bool.not_eq_true] at h
      rw [first?_of_isUpper hupper]
      rcases h with hlower | ⟨hcapital, hnext⟩
      · have hsmall : isSmallChar d = true := by rw [isSmallChar, hlower, Bool.true_or]
        obtain ⟨reading, hrun, hfirst⟩ := exists_first?_of_isSmallChar hsmall rest
        have hnext : (d :: rest).head?.any Char.isLower = true := hlower
        refine ⟨reading, hfirst, ?_⟩
        rw [readings_capitals_of_not_isUpper (not_isUpper_of_isSmallChar hsmall), if_pos hnext,
          List.map_nil, List.head?_map, hrun]
        rfl
      · obtain ⟨reading, hcapitals, hfirst⟩ := exists_first?_of_isUpper hcapital hnext
        refine ⟨reading, hfirst, ?_⟩
        rw [List.head?_map, hcapitals]
        rfl
    · rw [if_neg hupper] at h
      have hsmall := isSmallChar_of_not_isUpper hword hupper
      have hnext : isSmallChar d = true := h
      obtain ⟨reading, hrun, hfirst⟩ := exists_first?_of_isSmallChar hnext rest
      refine ⟨reading, hfirst, ?_⟩
      rw [first?_of_isSmallChar hsmall, List.head?_map, hrun]
      rfl

/-- A character that ends its word is found by itself. -/
theorem first?_cons_of_not_continues (hword : isWordChar c = true)
    (h : continues c rest = false) : wordPattern.first? (c :: rest) = some ([c], rest) := by
  by_cases hupper : c.isUpper = true
  · -- A capital that follows is given back, since a small letter stands behind it.
    have hend : capitals.readings rest = [] ∧ ¬ rest.head?.any Char.isLower = true := by
      cases rest with
      | nil => exact ⟨rfl, Bool.false_ne_true⟩
      | cons d rest =>
        rw [continues, if_pos hupper, Bool.or_eq_false_iff] at h
        refine ⟨?_, Bool.eq_false_iff.mp h.1⟩
        by_cases hcapital : d.isUpper = true
        · cases rest with
          | nil => simp [hcapital] at h
          | cons e rest =>
            have hlower : (e :: rest).head?.any Char.isLower = true := by
              simpa [hcapital] using h.2
            have hsmall : ¬ e.isUpper = true := fun hupper ↦
              Char.not_isLower_of_isUpper hupper hlower
            rw [readings_capitals_of_isUpper hcapital, readings_capitals_of_not_isUpper hsmall,
              if_pos hlower]
            rfl
        · exact readings_capitals_of_not_isUpper hcapital
    rw [first?_of_isUpper hupper, hend.1, if_neg hend.2]
    rfl
  · have hsmall := isSmallChar_of_not_isUpper hword hupper
    have hend : runs isSmallChar rest = [] := by
      cases rest with
      | nil => rfl
      | cons d rest =>
        rw [continues, if_neg hupper] at h
        exact runs_of_not_kind (Bool.eq_false_iff.mp h)
    rw [first?_of_isSmallChar hsmall, hend]
    rfl

/-- The pattern of words finds the words of a name. -/
theorem findsAll_splitWords (name : List Char) : wordPattern.FindsAll name (splitWords name) := by
  induction name with
  | nil => exact .done
  | cons c rest ih =>
    rw [splitWords]
    by_cases hword : isWordChar c = true
    · rw [if_pos hword]
      cases hcontinues : continues c rest with
      | true =>
        obtain ⟨⟨word, left⟩, hrest, hfirst⟩ := first?_cons_of_continues hword hcontinues
        rw [if_pos rfl]
        generalize splitWords rest = words at ih
        cases ih with
        | done => cases hcontinues
        | found hother hwords =>
          rw [hother] at hrest
          cases hrest
          exact .found hfirst hwords
        | skipped hother _ =>
          rw [hother] at hrest
          cases hrest
      | false =>
        rw [if_neg Bool.false_ne_true]
        exact .found (first?_cons_of_not_continues hword hcontinues) ih
    · rw [if_neg hword]
      exact .skipped (first?_cons_of_not_isWordChar hword) ih

/-- What the pattern of words finds in a name are its words. -/
theorem findsAll_iff {name : List Char} {words : List (List Char)} :
    wordPattern.FindsAll name words ↔ splitWords name = words := by
  constructor
  · exact (findsAll_splitWords name).unique
  · rintro rfl
    exact findsAll_splitWords name

example :
    splitWords "getHTTPResponse2".toList = ["get".toList, "HTTP".toList, "Response2".toList] := by
  decide

/-! ### Letters and digits -/

theorem flatten_lengthenFirst (c : Char) (words : List (List Char)) :
    (lengthenFirst c words).flatten = c :: words.flatten := by
  cases words with
  | nil => rfl
  | cons word words => rfl

/-- Words hold the letters and digits of a name, in order. -/
theorem flatten_splitWords (name : List Char) :
    (splitWords name).flatten = name.filter isWordChar := by
  induction name with
  | nil => rfl
  | cons c rest ih =>
    rw [splitWords]
    by_cases hword : isWordChar c = true
    · rw [if_pos hword, List.filter_cons_of_pos hword, ← ih]
      split
      · exact flatten_lengthenFirst c _
      · rfl
    · rw [if_neg hword, List.filter_cons_of_neg hword, ih]

/-- The words of a name are what the pattern of words finds in it. They hold its letters and digits
in order, none of them is empty, and those of its snake case are the same in small letters. So a
name in snake case is its own snake case. -/
theorem words_normal_form (name : String) :
    (∀ found, wordPattern.FindsAll name.toList found ↔ (words name).map String.toList = found) ∧
      (words name).flatMap String.toList = name.toList.filter Char.isAlphanum ∧
      (∀ word ∈ words name, word ≠ "") ∧
      words (snakeCase name) = (words name).map String.toLower ∧
      snakeCase (snakeCase name) = snakeCase name := by
  have hchars : (words name).map String.toList = splitWords name.toList := by
    rw [words, List.map_map]
    exact (List.map_congr_left fun _ _ ↦ String.toList_ofList).trans (List.map_id _)
  have hsnake : splitWords (snakeCase name).toList = lowerWords name.toList := by
    rw [snakeCase, String.toList_ofList, splitWords_snakeChars]
  refine ⟨?_, ?_, ?_, ?_, ?_⟩
  · rw [hchars]
    exact fun _ ↦ findsAll_iff
  · rw [List.flatMap_def, hchars]
    exact flatten_splitWords _
  · intro word hword
    obtain ⟨chars, hmem, rfl⟩ := List.mem_map.mp hword
    rw [ne_eq, String.ofList_eq_empty_iff]
    exact (isWordChar_of_mem_splitWords hmem).1
  · rw [words, words, hsnake, lowerWords, List.map_map, List.map_map]
    refine List.map_congr_left fun word _ ↦ String.toList_inj.mp ?_
    rw [Function.comp_apply, Function.comp_apply, String.toLower, String.toList_map,
      String.toList_ofList, String.toList_ofList, lowerWord]
  · rw [snakeCase, snakeCase, String.toList_ofList, snakeChars_snakeChars]

end Naming

end TypestateBuilders
