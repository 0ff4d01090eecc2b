/-!
# Looking for a text inside a text

Three searches from left to right: cutting a text at the first occurrence of a separator
(`cutAt`), replacing every occurrence of a pattern (`replaceAll`), and counting a character by
`List.count`. Occurrences do not overlap: the search goes on behind the one that was found, and what
a replacement writes is not searched again.

A text is cut where the separator occurs first (`cutAt_eq_some_iff`), and not at all if it does not
occur (`cutAt_eq_none_iff`). If the character that opens the separator stands nowhere in front of
it, then the text is cut there (`cutAt_append_of_notMem`). What a replacement does is said for the
kinds of texts in front of the rest: the pattern itself (`replaceAll_pattern_append`), texts in
which it cannot start (`replaceAll_append_of_notMem`) and texts in which it does not occur
(`replaceAll_append_of_not_infix`).
-/

set_option autoImplicit false
set_option relaxedAutoImplicit false

namespace TypestateBuilders.Text

/-- The parts of a text before and after the first occurrence of a separator, or `none` when it does
not occur. -/
def cutAt (separator : List Char) : List Char → Option (List Char × List Char)
  | [] => if separator.isEmpty then some ([], []) else none
  | c :: rest =>
    if separator.isPrefixOf (c :: rest) then some ([], (c :: rest).drop separator.length)
    else (cutAt separator rest).map fun (before, after) ↦ (c :: before, after)

/-- The text with every occurrence of a non-empty pattern replaced. -/
def replaceAll (pattern replacement : List Char) (text : List Char) : List Char :=
  match text with
  | [] => []
  | c :: rest =>
    if pattern.isPrefixOf (c :: rest) && !pattern.isEmpty then
      replacement ++ replaceAll pattern replacement (rest.drop (pattern.length - 1))
    else c :: replaceAll pattern replacement rest
termination_by text.length
decreasing_by all_goals simp only [List.length_drop, List.length_cons]; omega

/-- Cutting loses nothing but the separator. -/
theorem eq_append_of_cutAt {separator text before after : List Char}
    (h : cutAt separator text = some (before, after)) : text = before ++ separator ++ after := by
  induction text generalizing before with
  | nil =>
    simp only [cutAt] at h
    split at h
    · simp_all
    · simp at h
  | cons c rest ih =>
    simp only [cutAt] at h
    split at h
    · rename_i hstart
      obtain ⟨tail, htail⟩ := List.isPrefixOf_iff_prefix.mp hstart
      simp only [Option.some.injEq, Prod.mk.injEq] at h
      obtain ⟨rfl, rfl⟩ := h
      simp [← htail]
    · cases hrest : cutAt separator rest with
      | none => simp [hrest] at h
      | some parts =>
        simp only [hrest, Option.map_some, Option.some.injEq, Prod.mk.injEq] at h
        obtain ⟨rfl, rfl⟩ := h
        simp [ih hrest]

/-- A text is cut at the first place where the character stands that opens the separator. -/
theorem cutAt_append_of_notMem {opening : Char} {tail before : List Char} (h : opening ∉ before)
    (after : List Char) :
    cutAt (opening :: tail) (before ++ (opening :: tail) ++ after) = some (before, after) := by
  induction before with
  | nil =>
    have hstart : (opening :: tail).isPrefixOf (opening :: tail ++ after) = true :=
      List.isPrefixOf_iff_prefix.mpr (List.prefix_append _ _)
    rw [List.nil_append, List.cons_append, cutAt, ← List.cons_append, if_pos hstart, List.drop_left]
  | cons c rest ih =>
    obtain ⟨hc, hrest⟩ := not_or.mp fun hmem ↦ h (List.mem_cons.mpr hmem)
    have hstart :
        ¬ (opening :: tail).isPrefixOf (c :: (rest ++ (opening :: tail) ++ after)) = true :=
      fun hprefix ↦ hc (List.cons_prefix_cons.mp (List.isPrefixOf_iff_prefix.mp hprefix)).1
    rw [List.cons_append, List.cons_append, cutAt, if_neg hstart, ih hrest]
    rfl

/-- A text cannot be cut exactly when the separator does not occur in it. -/
theorem cutAt_eq_none_iff {separator text : List Char} :
    cutAt separator text = none ↔ ¬ separator <:+: text := by
  induction text with
  | nil =>
    rw [cutAt, List.infix_nil]
    cases separator <;> simp
  | cons c rest ih =>
    rw [cutAt, List.infix_cons_iff, not_or, ← List.isPrefixOf_iff_prefix]
    split
    · rename_i hstart
      exact iff_of_false nofun fun h ↦ h.1 hstart
    · rename_i hstart
      rw [Option.map_eq_none_iff, ih, and_iff_right hstart]

theorem append_dropLast_prefix_append (before separator after : List Char) :
    before ++ separator.dropLast <+: before ++ separator ++ after := by
  rw [List.append_assoc]
  exact (List.prefix_append_right_inj before).mpr
    ((List.dropLast_prefix separator).trans (List.prefix_append separator after))

/-- A text is cut into two parts when the separator stands between them, and nowhere earlier. -/
theorem cutAt_eq_some_iff {separator : List Char} (hseparator : separator ≠ [])
    {text before after : List Char} :
    cutAt separator text = some (before, after) ↔
      text = before ++ separator ++ after ∧ ¬ separator <:+: before ++ separator.dropLast := by
  have hlength : separator.dropLast.length + 1 = separator.length := by
    rw [List.length_dropLast]
    exact Nat.sub_add_cancel (List.length_pos_iff.mpr hseparator)
  constructor
  · intro h
    refine ⟨eq_append_of_cutAt h, ?_⟩
    induction text generalizing before with
    | nil =>
      rw [cutAt, if_neg (by simpa using hseparator)] at h
      cases h
    | cons c rest ih =>
      rw [cutAt] at h
      split at h
      · obtain ⟨rfl, -⟩ := Prod.mk.inj (Option.some.inj h)
        intro hinfix
        have hle := hinfix.length_le
        rw [List.nil_append] at hle
        omega
      · rename_i hstart
        obtain ⟨⟨front, back⟩, hrest, hparts⟩ := Option.map_eq_some_iff.mp h
        obtain ⟨rfl, rfl⟩ := Prod.mk.inj hparts
        rw [List.cons_append, List.infix_cons_iff, not_or]
        refine ⟨fun hprefix ↦ hstart (List.isPrefixOf_iff_prefix.mpr ?_), ih hrest⟩
        rw [eq_append_of_cutAt hrest]
        exact hprefix.trans (append_dropLast_prefix_append (c :: front) separator back)
  · rintro ⟨rfl, hfirst⟩
    induction before with
    | nil =>
      obtain ⟨c, tail, rfl⟩ := List.exists_cons_of_ne_nil hseparator
      exact cutAt_append_of_notMem List.not_mem_nil after
    | cons c rest ih =>
      rw [List.cons_append, List.infix_cons_iff, not_or] at hfirst
      have hstart : ¬ separator.isPrefixOf (c :: (rest ++ separator ++ after)) = true := by
        intro hprefix
        -- The separator is no longer than what stands in front of its last character.
        refine hfirst.1 (List.prefix_of_prefix_length_le (List.isPrefixOf_iff_prefix.mp hprefix)
          (append_dropLast_prefix_append (c :: rest) separator after) ?_)
        simp only [List.length_cons, List.length_append]
        omega
      rw [List.cons_append, List.cons_append, cutAt, if_neg hstart, ih hfirst.2]
      rfl

/-- A text is cut at the first place where a character stands. -/
theorem notMem_of_cutAt {c : Char} {text before after : List Char}
    (h : cutAt [c] text = some (before, after)) : c ∉ before := by
  intro hmem
  obtain ⟨front, back, rfl⟩ := List.append_of_mem hmem
  exact ((cutAt_eq_some_iff (List.cons_ne_nil c [])).mp h).2 ⟨front, back, by simp⟩

section

variable {pattern replacement : List Char}

/-- A pattern in front is replaced, and the search goes on behind it. -/
theorem replaceAll_pattern_append (hpattern : pattern ≠ []) (rest : List Char) :
    replaceAll pattern replacement (pattern ++ rest) =
      replacement ++ replaceAll pattern replacement rest := by
  obtain ⟨c, tail, rfl⟩ := List.exists_cons_of_ne_nil hpattern
  have hstart : (c :: tail).isPrefixOf (c :: (tail ++ rest)) = true :=
    List.isPrefixOf_iff_prefix.mpr (List.prefix_append (c :: tail) rest)
  rw [List.cons_append, replaceAll, if_pos (by simp [hstart]), List.length_cons,
    Nat.add_sub_cancel, List.drop_left]

/-- A character at which no pattern starts stays. -/
theorem replaceAll_cons_of_not_start {c : Char} {rest : List Char}
    (h : ¬ pattern <+: c :: rest) :
    replaceAll pattern replacement (c :: rest) = c :: replaceAll pattern replacement rest := by
  rw [replaceAll, if_neg]
  rw [Bool.and_eq_true, List.isPrefixOf_iff_prefix]
  exact fun hboth ↦ h hboth.1

/-- A text without the character that opens the pattern stays. -/
theorem replaceAll_append_of_notMem {opening : Char} {tail text : List Char}
    (h : opening ∉ text) (rest : List Char) :
    replaceAll (opening :: tail) replacement (text ++ rest) =
      text ++ replaceAll (opening :: tail) replacement rest := by
  induction text with
  | nil => rfl
  | cons c text ih =>
    obtain ⟨hc, htext⟩ := not_or.mp fun hmem ↦ h (List.mem_cons.mpr hmem)
    have hstart : ¬ opening :: tail <+: c :: (text ++ rest) :=
      fun hprefix ↦ hc (List.cons_prefix_cons.mp hprefix).1
    rw [List.cons_append, replaceAll_cons_of_not_start hstart, ih htext, List.cons_append]

/-- A text in which the pattern does not occur stays, if the pattern cannot reach into what comes
behind. -/
theorem replaceAll_append_of_not_infix {text rest : List Char}
    (h : ¬ pattern <:+: text) (hrest : ∀ c ∈ rest.head?, c ∉ pattern) :
    replaceAll pattern replacement (text ++ rest) =
      text ++ replaceAll pattern replacement rest := by
  induction text with
  | nil => rfl
  | cons c text ih =>
    rw [List.infix_cons_iff, not_or] at h
    have hstart : ¬ pattern <+: c :: (text ++ rest) := by
      intro hprefix
      rcases List.prefix_or_prefix_of_prefix hprefix (List.prefix_append (c :: text) rest) with
        hin | ⟨more, rfl⟩
      · exact h.1 hin
      · have hmore : more <+: rest := (List.prefix_append_right_inj (c :: text)).mp hprefix
        cases more with
        | nil => exact h.1 ⟨[], by simp⟩
        | cons d more =>
          obtain ⟨tail, rfl⟩ := hmore
          exact hrest d rfl (List.mem_append_right _ List.mem_cons_self)
    rw [List.cons_append, replaceAll_cons_of_not_start hstart, ih h.2, List.cons_append]

theorem replaceAll_of_not_infix {text : List Char} (h : ¬ pattern <:+: text) :
    replaceAll pattern replacement text = text := by
  have hall : replaceAll pattern replacement (text ++ []) =
      text ++ replaceAll pattern replacement [] := replaceAll_append_of_not_infix h (by simp)
  rwa [replaceAll, List.append_nil] at hall

theorem length_pos_of_starts {text : List Char}
    (h : (pattern.isPrefixOf text && !pattern.isEmpty) = true) : 0 < pattern.length := by
  cases pattern with
  | nil => simp at h
  | cons c tail => exact Nat.succ_pos _

/-- A text gets no shorter when a pattern is replaced by a text that is at least as long. -/
theorem length_le_length_replaceAll (hlength : pattern.length ≤ replacement.length)
    (text : List Char) : text.length ≤ (replaceAll pattern replacement text).length := by
  fun_induction replaceAll pattern replacement text with
  | case1 => exact Nat.le_refl _
  | case2 c rest hstart ih =>
    have hpositive := length_pos_of_starts hstart
    rw [List.length_drop] at ih
    rw [List.length_append, List.length_cons]
    omega
  | case3 c rest hstart ih =>
    rw [List.length_cons, List.length_cons]
    omega

/-- A text gets longer when a pattern that occurs in it is replaced by a longer text. -/
theorem length_lt_length_replaceAll (hpattern : pattern ≠ [])
    (hlength : pattern.length < replacement.length) {text : List Char} (h : pattern <:+: text) :
    text.length < (replaceAll pattern replacement text).length := by
  induction text with
  | nil => exact absurd (List.infix_nil.mp h) hpattern
  | cons c rest ih =>
    by_cases hstart : pattern <+: c :: rest
    · obtain ⟨tail, htail⟩ := hstart
      have hrest := length_le_length_replaceAll (Nat.le_of_lt hlength) tail
      rw [← htail, replaceAll_pattern_append hpattern, List.length_append, List.length_append]
      omega
    · rw [replaceAll_cons_of_not_start hstart, List.length_cons, List.length_cons]
      exact Nat.succ_lt_succ (ih ((List.infix_cons_iff.mp h).resolve_left hstart))

end

end TypestateBuilders.Text
