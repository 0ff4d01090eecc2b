import TypestateBuilders.Proofs.ReservedNames

/-!
# Identifiers of properties

What makes a text an identifier of the generated code (`IsIdentifier`): it is not empty, holds ASCII
letters, digits and underscores, does not begin with a digit, and is no keyword. A name in any case
is one after its beginning is repaired and a suffix keeps it from the keywords, since no keyword
ends in an underscore (`isIdentifier_sanitize`).

The steps that make an identifier do not undo each other. An underscore in front or at the end
belongs to no word, so the identifier of an identifier is itself. And snake case never ends in an
underscore (`getLast?_snakeChars`), so the suffix can be told from the name, and fields share their
identifiers exactly if they share their names in snake case (`fieldIdent_eq_iff`).
-/

set_option autoImplicit false
set_option relaxedAutoImplicit false

namespace TypestateBuilders.Naming

/-- A text that can stand as an identifier in the generated code. -/
structure IsIdentifier (text : String) : Prop where
  nonempty : text ≠ ""
  chars : ∀ c ∈ text.toList, c.isAlphanum = true ∨ c = '_'
  opened : ∀ c ∈ text.toList.head?, c.isDigit = false
  free : text ∉ rustKeywords

/-! ### What an identifier begins with -/

/-- A repaired name begins, and not with a digit. -/
theorem exists_repairStart_eq_cons (name : List Char) :
    ∃ c rest, repairStart name = c :: rest ∧ c.isDigit = false := by
  cases name with
  | nil => exact ⟨'f', "ield".toList, rfl, rfl⟩
  | cons c rest =>
    rw [repairStart_cons]
    cases hdigit : c.isDigit with
    | true => exact ⟨'_', c :: rest, rfl, rfl⟩
    | false => exact ⟨c, rest, rfl, hdigit⟩

/-- A sanitized name is a repaired one with something or nothing behind it. -/
theorem exists_toList_sanitize_eq_append (sanitizer : Sanitizer) (name : String)
    (letterCase : LetterCase) (suffix : String) :
    ∃ behind, (sanitizer.sanitize name letterCase suffix).toList =
      repairStart (letterCase.layOut name.toList) ++ behind := by
  rw [Sanitizer.sanitize, Sanitizer.avoidTaken, Sanitizer.convert]
  split
  · exact ⟨suffix.toList, by rw [String.toList_append, String.toList_ofList]⟩
  · exact ⟨[], by rw [String.toList_ofList, List.append_nil]⟩

/-! ### Keywords -/

/-- No keyword ends in what is put behind keywords. -/
theorem append_suffix_notMem_rustKeywords (name : String) :
    name ++ keywordSuffix ∉ rustKeywords := by
  have hlast : ∀ keyword ∈ rustKeywords, keyword.toList.getLast? ≠ some '_' := by decide
  intro hkeyword
  apply hlast _ hkeyword
  rw [String.toList_append]
  exact List.getLast?_concat ..

/-- A name in any case is made an identifier. -/
theorem isIdentifier_sanitize (letterCase : LetterCase) (name : String) :
    IsIdentifier (rustSanitizer.sanitize name letterCase keywordSuffix) := by
  obtain ⟨behind, hsanitized⟩ :=
    exists_toList_sanitize_eq_append rustSanitizer name letterCase keywordSuffix
  obtain ⟨c, rest, hrepaired, hdigit⟩ := exists_repairStart_eq_cons (letterCase.layOut name.toList)
  rw [hrepaired, List.cons_append] at hsanitized
  have havoids : rustSanitizer.Avoids (rustSanitizer.sanitize name letterCase keywordSuffix) :=
    avoids_sanitize_iff.mpr (Or.inr ⟨append_suffix_notMem_rustKeywords _, List.not_mem_nil⟩)
  refine ⟨?_, ?_, ?_, havoids.1⟩
  · intro hempty
    rw [hempty] at hsanitized
    cases hsanitized
  · intro d hd
    exact (Bool.or_eq_true_iff.mp (isIdentChar_of_mem_sanitize d hd)).imp_right beq_iff_eq.mp
  · rw [hsanitized]
    rintro _ ⟨⟩
    exact hdigit

/-! ### Fields with one identifier -/

/-- What ends in a word ends in one of its characters. -/
theorem IsJoined.kind_of_getLast? {kind : Char → Bool} {text : List Char}
    (h : IsJoined kind text) : ∀ c ∈ text.getLast?, kind c = true := by
  obtain ⟨words, hwords, rfl⟩ := h
  induction words with
  | nil => rintro _ ⟨⟩
  | cons word others ih =>
    obtain ⟨⟨_, hkind⟩, hothers⟩ := List.forall_mem_cons.mp hwords
    cases others with
    | nil =>
      rw [List.intercalate_singleton]
      exact fun c hc ↦ hkind c (List.mem_of_getLast? hc)
    | cons next rest =>
      have hnonempty : ['_'].intercalate (next :: rest) ≠ [] := by
        cases rest with
        | nil =>
          rw [List.intercalate_singleton]
          exact (hothers next (List.mem_cons_self ..)).1
        | cons _ _ =>
          rw [List.intercalate_cons_cons, List.append_assoc, List.singleton_append]
          exact List.append_ne_nil_of_right_ne_nil _ (List.cons_ne_nil _ _)
      rw [List.intercalate_cons_cons, List.getLast?_append_of_ne_nil _ hnonempty]
      exact ih hothers

/-- A name in snake case does not end in an underscore. -/
theorem getLast?_snakeChars (name : List Char) : (snakeChars name).getLast? ≠ some '_' :=
  fun hunderscore ↦
    absurd ((exists_snakeChars_eq_iff.mp ⟨name, rfl⟩).kind_of_getLast? '_' hunderscore) (by decide)

/-- Fields share their identifiers exactly if they share their names in snake case. -/
theorem fieldIdent_eq_iff {name other : String} :
    fieldIdent name = fieldIdent other ↔ snakeIdent name = snakeIdent other := by
  have hlast : ∀ name : String, (snakeIdent name).toList.getLast? ≠ some '_' := by
    intro name
    rw [snakeIdent, Sanitizer.convert, String.toList_ofList]
    exact getLast?_repairStart (getLast?_snakeChars _)
  constructor
  · exact avoidTaken_inj (hlast name) (hlast other)
  · exact congrArg (rustSanitizer.avoidTaken keywordSuffix)

/-- The identifiers of a property are identifiers of the generated code, that of a field is its own
identifier, and two fields share theirs exactly if they share their names in snake case. -/
theorem identifiers_of_names (name : String) :
    IsIdentifier (fieldIdent name) ∧ IsIdentifier (markerIdent name) ∧
      fieldIdent (fieldIdent name) = fieldIdent name ∧
      ∀ other, fieldIdent name = fieldIdent other ↔ snakeIdent name = snakeIdent other :=
  ⟨isIdentifier_sanitize .snake name, isIdentifier_sanitize .pascal name,
    fieldIdent_fieldIdent name, fun _ ↦ fieldIdent_eq_iff⟩

end TypestateBuilders.Naming
