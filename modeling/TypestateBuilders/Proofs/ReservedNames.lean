import TypestateBuilders.Proofs.SnakeCase

/-!
# Reserved names

A sanitizer puts a suffix behind a name that is reserved or built in, and asks no further. So it
keeps to names that are neither (`Sanitizer.Avoids`) except where the name and the name with its
suffix are both taken (`avoids_sanitize_iff`).

Which taken words can be names at all depends on the case. A case lays out texts of a simple form
(`LetterCase.LaysOut`): words of small letters and digits, or of capitals and digits, joined by
underscores, or letters and digits that do not open with a small letter, or with a capital; and each
text of the form is laid out for some name (`exists_layOut_eq_iff`). With their beginnings repaired
these are the names that the case can give (`exists_convert_eq_iff`).

A sanitizer therefore avoids all conflicts in a case exactly if none of its words that is a name in
this case makes another one of its words with the suffix behind it (`avoids_conflicts_iff`).
-/

set_option autoImplicit false
set_option relaxedAutoImplicit false

namespace TypestateBuilders.Naming

/-! ### What a case lays out -/

/-- Words of a kind of characters, joined by underscores. -/
def IsJoined (kind : Char → Bool) (text : List Char) : Prop :=
  ∃ words : List (List Char),
    (∀ word ∈ words, word ≠ [] ∧ ∀ c ∈ word, kind c = true) ∧ text = ['_'].intercalate words

/-- A capital ASCII letter or a digit. -/
def isCapitalChar (c : Char) : Bool :=
  c.isUpper || c.isDigit

/-- The texts that can be laid out in a case. -/
def LetterCase.LaysOut : LetterCase → List Char → Prop
  | .snake, text => IsJoined isSmallChar text
  | .screamingSnake, text => IsJoined isCapitalChar text
  | .pascal, text => (∀ c ∈ text, isWordChar c = true) ∧ ∀ c ∈ text.head?, c.isLower = false
  | .camel, text => (∀ c ∈ text, isWordChar c = true) ∧ ∀ c ∈ text.head?, c.isUpper = false

/-- The names that a case can give. -/
def LetterCase.IsName (letterCase : LetterCase) (name : List Char) : Prop :=
  ∃ text, letterCase.LaysOut text ∧ repairStart text = name

/-! ### Words joined by underscores -/

theorem map_intercalate_underscore {change : Char → Char} (h : change '_' = '_')
    (words : List (List Char)) :
    (['_'].intercalate words).map change = ['_'].intercalate (words.map (List.map change)) := by
  induction words with
  | nil => rfl
  | cons word others ih =>
    cases others with
    | nil => rw [List.intercalate_singleton, List.map_singleton, List.intercalate_singleton]
    | cons next rest =>
      rw [List.intercalate_cons_cons, List.map_append, List.map_append, ih, List.map_singleton, h,
        List.map_cons, List.map_cons, List.map_cons, List.intercalate_cons_cons]

/-- A change of characters that keeps underscores takes words of a kind to words of another one. -/
theorem IsJoined.map {kind other : Char → Bool} {change : Char → Char} {text : List Char}
    (h : IsJoined kind text) (hunderscore : change '_' = '_')
    (hchange : ∀ c, kind c = true → other (change c) = true) :
    IsJoined other (text.map change) := by
  obtain ⟨words, hwords, rfl⟩ := h
  refine ⟨words.map (List.map change), ?_, map_intercalate_underscore hunderscore words⟩
  rw [List.forall_mem_map]
  intro word hword
  obtain ⟨hnonempty, hkind⟩ := hwords word hword
  refine ⟨fun hempty ↦ hnonempty (List.map_eq_nil_iff.mp hempty), ?_⟩
  rw [List.forall_mem_map]
  exact fun c hc ↦ hchange c (hkind c hc)

theorem IsJoined.eq_underscore_or_kind {kind : Char → Bool} {text : List Char}
    (h : IsJoined kind text) : ∀ c ∈ text, c = '_' ∨ kind c = true := by
  obtain ⟨words, hwords, rfl⟩ := h
  intro c hc
  rcases mem_of_mem_intercalate hc with hunderscore | ⟨word, hword, hmem⟩
  · exact Or.inl (List.mem_singleton.mp hunderscore)
  · exact Or.inr ((hwords word hword).2 c hmem)

/-- Snake case lays out words in small letters that are joined by underscores. -/
theorem exists_snakeChars_eq_iff {text : List Char} :
    (∃ name, snakeChars name = text) ↔ LetterCase.snake.LaysOut text := by
  constructor
  · rintro ⟨name, rfl⟩
    refine ⟨lowerWords name, fun word hword ↦ ?_, rfl⟩
    have hsmall := isSmallWord_of_mem_lowerWords hword
    exact ⟨hsmall.nonempty, hsmall.small⟩
  · rintro ⟨words, hwords, rfl⟩
    have hsmall : ∀ word ∈ words, IsSmallWord word :=
      fun word hword ↦ ⟨(hwords word hword).1, (hwords word hword).2⟩
    exact ⟨_, congrArg ['_'].intercalate (lowerWords_intercalate hsmall)⟩

theorem isCapitalChar_toUpper {c : Char} (h : isSmallChar c = true) :
    isCapitalChar c.toUpper = true := by
  rw [isCapitalChar, Char.isUpper_toUpper_eq_isAlpha]
  rcases Bool.or_eq_true_iff.mp h with hlower | hdigit
  · rw [Char.isAlpha, hlower, Bool.or_true, Bool.true_or]
  · rw [toUpper_of_isDigit hdigit, hdigit, Bool.or_true]

theorem isWordChar_of_isCapitalChar {c : Char} (h : isCapitalChar c = true) :
    isWordChar c = true := by
  rcases Bool.or_eq_true_iff.mp h with hupper | hdigit
  · rw [isWordChar, hupper]
    rfl
  · rw [isWordChar, hdigit, Bool.or_true]

theorem toUpper_of_isUpper {c : Char} (h : c.isUpper = true) : c.toUpper = c :=
  Char.toUpper_eq_of_not_isLower (Char.not_isLower_of_isUpper h)

theorem toUpper_of_isCapitalChar {c : Char} (h : isCapitalChar c = true) : c.toUpper = c :=
  (Bool.or_eq_true_iff.mp h).elim toUpper_of_isUpper toUpper_of_isDigit

/-- Snake case in capitals lays out words in capitals that are joined by underscores. -/
theorem exists_map_toUpper_snakeChars_eq_iff {text : List Char} :
    (∃ name, (snakeChars name).map Char.toUpper = text) ↔
      LetterCase.screamingSnake.LaysOut text := by
  constructor
  · rintro ⟨name, rfl⟩
    exact (exists_snakeChars_eq_iff.mp ⟨name, rfl⟩).map rfl fun _ ↦ isCapitalChar_toUpper
  · intro h
    have hsmall : LetterCase.snake.LaysOut (text.map Char.toLower) :=
      h.map rfl fun _ hc ↦ isSmallChar_toLower (isWordChar_of_isCapitalChar hc)
    obtain ⟨name, hname⟩ := exists_snakeChars_eq_iff.mpr hsmall
    refine ⟨name, ?_⟩
    rw [hname, List.map_map]
    refine (List.map_congr_left fun c hc ↦ ?_).trans (List.map_id _)
    rw [Function.comp_apply, Char.toUpper_toLower_eq_toUpper]
    rcases h.eq_underscore_or_kind c hc with rfl | hcapital
    · rfl
    · exact toUpper_of_isCapitalChar hcapital

/-! ### Words with capitals in front -/

/-- Letters and digits are small ones in front of words with capitals. -/
theorem exists_eq_append_capitalized {text : List Char} (h : ∀ c ∈ text, isWordChar c = true) :
    ∃ front words, (∀ c ∈ front, isSmallChar c = true) ∧ (∀ word ∈ words, IsSmallWord word) ∧
      text = front ++ capitalized words := by
  induction text with
  | nil => exact ⟨[], [], by simp, by simp, rfl⟩
  | cons c rest ih =>
    obtain ⟨hc, hrest⟩ := List.forall_mem_cons.mp h
    obtain ⟨front, words, hfront, hwords, rfl⟩ := ih hrest
    by_cases hupper : c.isUpper = true
    · have hword : IsSmallWord (c.toLower :: front) :=
        ⟨List.cons_ne_nil _ _, List.forall_mem_cons.mpr ⟨isSmallChar_toLower hc, hfront⟩⟩
      refine ⟨[], (c.toLower :: front) :: words, by simp,
        List.forall_mem_cons.mpr ⟨hword, hwords⟩, ?_⟩
      rw [List.nil_append, capitalized_cons hfront, Char.toUpper_toLower_eq_toUpper,
        toUpper_of_isUpper hupper]
    · have hsmall := isSmallChar_of_not_isUpper hc hupper
      exact ⟨c :: front, words, List.forall_mem_cons.mpr ⟨hsmall, hfront⟩, hwords, rfl⟩

theorem exists_pascalChars_eq_capitalized {words : List (List Char)}
    (h : ∀ word ∈ words, IsSmallWord word) : ∃ name, pascalChars name = capitalized words :=
  ⟨_, by rw [pascalChars_eq_capitalized, lowerWords_intercalate h]⟩

/-- Pascal case lays out letters and digits that do not open with a small letter. -/
theorem exists_pascalChars_eq_iff {text : List Char} :
    (∃ name, pascalChars name = text) ↔ LetterCase.pascal.LaysOut text := by
  constructor
  · rintro ⟨name, rfl⟩
    exact ⟨fun _ ↦ isWordChar_of_mem_pascalChars,
      fun c hc ↦ Bool.eq_false_iff.mpr (not_isLower_head_pascalChars c hc)⟩
  · rintro ⟨hchars, hhead⟩
    obtain ⟨front, words, hfront, hwords, rfl⟩ := exists_eq_append_capitalized hchars
    cases front with
    | nil => exact exists_pascalChars_eq_capitalized hwords
    | cons c rest =>
      -- What opens with a digit is a word too.
      obtain ⟨hc, hrest⟩ := List.forall_mem_cons.mp hfront
      have hdigit : c.isDigit = true := by rwa [isSmallChar, hhead c rfl, Bool.false_or] at hc
      obtain ⟨name, hname⟩ := exists_pascalChars_eq_capitalized
        (List.forall_mem_cons.mpr ⟨⟨List.cons_ne_nil c rest, hfront⟩, hwords⟩)
      refine ⟨name, ?_⟩
      rw [hname, capitalized_cons hrest, toUpper_of_isDigit hdigit]
      rfl

/-- Camel case lays out letters and digits that do not open with a capital. -/
theorem exists_camelChars_eq_iff {text : List Char} :
    (∃ name, camelChars name = text) ↔ LetterCase.camel.LaysOut text := by
  have hsmall : ∀ text : List Char, LetterCase.pascal.LaysOut text →
      LetterCase.camel.LaysOut (text.modifyHead Char.toLower) := by
    rintro (_ | ⟨c, rest⟩) ⟨hchars, _⟩
    · exact ⟨hchars, by simp⟩
    · obtain ⟨hc, hrest⟩ := List.forall_mem_cons.mp hchars
      refine ⟨List.forall_mem_cons.mpr ⟨?_, hrest⟩, ?_⟩
      · exact isWordChar_of_isSmallChar (isSmallChar_toLower hc)
      · rintro _ ⟨⟩
        exact Char.isUpper_toLower_eq_false c
  constructor
  · rintro ⟨name, rfl⟩
    exact hsmall _ (exists_pascalChars_eq_iff.mp ⟨name, rfl⟩)
  · rintro ⟨hchars, hhead⟩
    cases text with
    | nil => exact ⟨[], rfl⟩
    | cons c rest =>
      obtain ⟨hc, hrest⟩ := List.forall_mem_cons.mp hchars
      have hcapital : LetterCase.pascal.LaysOut (c.toUpper :: rest) := by
        refine ⟨List.forall_mem_cons.mpr ⟨isWordChar_toUpper hc, hrest⟩, ?_⟩
        rintro _ ⟨⟩
        exact Char.isLower_toUpper_eq_false c
      obtain ⟨name, hname⟩ := exists_pascalChars_eq_iff.mpr hcapital
      refine ⟨name, ?_⟩
      rw [camelChars, hname, List.modifyHead_cons, Char.toLower_toUpper_eq_toLower,
        Char.toLower_eq_of_not_isUpper (Bool.eq_false_iff.mp (hhead c rfl))]

/-- Each text of the form of a case is laid out for a name, and no other one is. -/
theorem exists_layOut_eq_iff {letterCase : LetterCase} {text : List Char} :
    (∃ name, letterCase.layOut name = text) ↔ letterCase.LaysOut text := by
  cases letterCase with
  | snake => exact exists_snakeChars_eq_iff
  | camel => exact exists_camelChars_eq_iff
  | pascal => exact exists_pascalChars_eq_iff
  | screamingSnake => exact exists_map_toUpper_snakeChars_eq_iff

/-- The names that a case gives. -/
theorem exists_convert_eq_iff {letterCase : LetterCase} {name : String} :
    (∃ given, Sanitizer.convert letterCase given = name) ↔ letterCase.IsName name.toList := by
  constructor
  · rintro ⟨given, rfl⟩
    refine ⟨letterCase.layOut given.toList, exists_layOut_eq_iff.mp ⟨_, rfl⟩, ?_⟩
    rw [Sanitizer.convert, String.toList_ofList]
  · rintro ⟨text, htext, hrepaired⟩
    obtain ⟨given, rfl⟩ := exists_layOut_eq_iff.mpr htext
    refine ⟨String.ofList given, ?_⟩
    rw [Sanitizer.convert, String.toList_ofList, hrepaired, String.ofList_toList]

/-! ### Conflicts -/

/-- A name that is neither reserved nor built in. -/
def Sanitizer.Avoids (sanitizer : Sanitizer) (name : String) : Prop :=
  name ∉ sanitizer.reserved ∧ name ∉ sanitizer.builtin

instance (sanitizer : Sanitizer) (name : String) : Decidable (sanitizer.Avoids name) :=
  inferInstanceAs (Decidable (name ∉ sanitizer.reserved ∧ name ∉ sanitizer.builtin))

variable {sanitizer : Sanitizer} {letterCase : LetterCase} {suffix : String}

theorem isTaken_eq_true_iff {name : String} :
    sanitizer.isTaken name = true ↔ ¬ sanitizer.Avoids name := by
  rw [Sanitizer.isTaken, Sanitizer.Avoids, Bool.or_eq_true, List.contains_iff_mem,
    List.contains_iff_mem, not_and_or, not_not, not_not]

/-- A conflict is avoided by the name itself or by its suffix. -/
theorem avoids_sanitize_iff {name : String} :
    sanitizer.Avoids (sanitizer.sanitize name letterCase suffix) ↔
      sanitizer.Avoids (Sanitizer.convert letterCase name) ∨
        sanitizer.Avoids (Sanitizer.convert letterCase name ++ suffix) := by
  rw [Sanitizer.sanitize, Sanitizer.avoidTaken]
  by_cases havoids : sanitizer.Avoids (Sanitizer.convert letterCase name)
  · rw [if_neg (fun htaken ↦ isTaken_eq_true_iff.mp htaken havoids)]
    exact iff_of_true havoids (Or.inl havoids)
  · rw [if_pos (isTaken_eq_true_iff.mpr havoids)]
    exact (or_iff_right havoids).symm

/-- A sanitizer avoids all conflicts in a case exactly if each of its words that is a name in this
case leaves the conflict with the suffix behind it. -/
theorem avoids_conflicts_iff (sanitizer : Sanitizer) (letterCase : LetterCase) (suffix : String) :
    (∀ name, sanitizer.Avoids (sanitizer.sanitize name letterCase suffix)) ↔
      ∀ word ∈ sanitizer.reserved ++ sanitizer.builtin, letterCase.IsName word.toList →
        sanitizer.Avoids (word ++ suffix) := by
  have htaken : ∀ {word : String},
      word ∈ sanitizer.reserved ++ sanitizer.builtin ↔ ¬ sanitizer.Avoids word := by
    intro word
    rw [Sanitizer.Avoids, List.mem_append, not_and_or, not_not, not_not]
  constructor
  · intro h word hword hname
    obtain ⟨name, rfl⟩ := exists_convert_eq_iff.mpr hname
    exact (avoids_sanitize_iff.mp (h name)).resolve_left (htaken.mp hword)
  · intro h name
    rw [avoids_sanitize_iff, or_iff_not_imp_left]
    intro hword
    exact h _ (htaken.mpr hword) (exists_convert_eq_iff.mp ⟨name, rfl⟩)

/-- A suffix can lead from a reserved word to another one. -/
theorem exists_conflict_left :
    (⟨["type", "type_"], []⟩ : Sanitizer).sanitize "type" .snake "_" = "type_" ∧
      ¬ ∀ (sanitizer : Sanitizer) (name : String) (letterCase : LetterCase) (suffix : String),
        suffix ≠ "" → sanitizer.Avoids (sanitizer.sanitize name letterCase suffix) := by
  refine ⟨by decide, fun havoids ↦ ?_⟩
  have hfree := havoids ⟨["type", "type_"], []⟩ "type" .snake "_" (by decide)
  exact absurd hfree (by decide)

end TypestateBuilders.Naming
