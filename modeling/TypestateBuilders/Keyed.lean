/-!
# Keyed entries

A table in the order in which its keys came in, as a list of pairs. `Keyed.put` replaces the content
under a key that is present, at its place, and puts a new key at the end; so a table built by `put`
alone holds each key once (`nodup_keys_put`). `Keyed.ofList` builds such a table from pairs that may
repeat a key: the first occurrence fixes the place and the last one the content.
-/

set_option autoImplicit false
set_option relaxedAutoImplicit false

namespace TypestateBuilders.Keyed

variable {κ α : Type} [DecidableEq κ]

/-- The table with `content` under `key`, at the place of `key` if it is present and at the end
otherwise. -/
def put (key : κ) (content : α) : List (κ × α) → List (κ × α)
  | [] => [(key, content)]
  | entry :: rest =>
    if entry.1 = key then (key, content) :: rest else entry :: put key content rest

/-- The content under a key. -/
def get? (key : κ) : List (κ × α) → Option α
  | [] => none
  | entry :: rest => if entry.1 = key then some entry.2 else get? key rest

/-- The table without a key. -/
def erase (key : κ) (table : List (κ × α)) : List (κ × α) :=
  table.filter fun entry ↦ entry.1 ≠ key

/-- The entries of `pairs`, one after the other, put into `table`. -/
def putAll (table pairs : List (κ × α)) : List (κ × α) :=
  pairs.foldl (fun table pair ↦ put pair.1 pair.2 table) table

/-- The table that `pairs` describes. -/
def ofList (pairs : List (κ × α)) : List (κ × α) :=
  putAll [] pairs

/-- The keys of a table, in order. -/
def keys (table : List (κ × α)) : List κ :=
  table.map Prod.fst

theorem get?_put (key : κ) (content : α) (table : List (κ × α)) (other : κ) :
    get? other (put key content table) =
      if key = other then some content else get? other table := by
  induction table with
  | nil => simp [put, get?]
  | cons entry rest ih =>
    simp only [put]
    split
    · rename_i hentry
      simp only [get?]
      split
      · rfl
      · rename_i hother
        rw [hentry, if_neg hother]
    · rename_i hentry
      simp only [get?, ih]
      split
      · rename_i hother
        rw [if_neg fun hkey ↦ hentry (hother.trans hkey.symm)]
      · rfl

/-- A key has no content exactly when it is not in the table. -/
theorem get?_eq_none_iff {key : κ} {table : List (κ × α)} :
    get? key table = none ↔ key ∉ keys table := by
  induction table with
  | nil => simp [get?, keys]
  | cons entry rest ih =>
    by_cases hentry : entry.1 = key
    · simp [get?, keys, hentry]
    · have hother : key ≠ entry.1 := fun h ↦ hentry h.symm
      simp only [get?, if_neg hentry, ih, keys, List.map_cons, List.mem_cons, hother, false_or]

theorem isSome_get?_iff {key : κ} {table : List (κ × α)} :
    (get? key table).isSome = true ↔ key ∈ keys table := by
  rw [Option.isSome_iff_ne_none, ne_eq, get?_eq_none_iff, Decidable.not_not]

theorem mem_keys_of_get? {key : κ} {content : α} {table : List (κ × α)}
    (h : get? key table = some content) : key ∈ keys table := by
  refine Decidable.byContradiction fun hnew ↦ ?_
  rw [get?_eq_none_iff.mpr hnew] at h
  cases h

/-- The content under a key is that of an entry. -/
theorem mem_of_get? {key : κ} {content : α} {table : List (κ × α)}
    (h : get? key table = some content) : (key, content) ∈ table := by
  induction table with
  | nil => cases h
  | cons entry rest ih =>
    simp only [get?] at h
    split at h
    · rename_i hentry
      rw [← hentry, ← Option.some.inj h]
      exact List.mem_cons_self
    · exact List.mem_cons_of_mem _ (ih h)

theorem mem_put {key : κ} {content : α} {table : List (κ × α)} {entry : κ × α}
    (h : entry ∈ put key content table) : entry = (key, content) ∨ entry ∈ table := by
  induction table with
  | nil => exact Or.inl (List.mem_singleton.mp h)
  | cons first rest ih =>
    simp only [put] at h
    split at h
    · exact (List.mem_cons.mp h).imp_right (List.mem_cons_of_mem _)
    · rcases List.mem_cons.mp h with rfl | hrest
      · exact Or.inr List.mem_cons_self
      · exact (ih hrest).imp_right (List.mem_cons_of_mem _)

theorem mem_keys_put {key other : κ} {content : α} {table : List (κ × α)} :
    other ∈ keys (put key content table) ↔ other = key ∨ other ∈ keys table := by
  induction table with
  | nil => simp [put, keys]
  | cons entry rest ih =>
    simp only [keys, put] at ih ⊢
    split
    · rename_i hentry
      simp [hentry]
    · simp only [List.map_cons, List.mem_cons, ih]
      exact or_left_comm

theorem mem_keys_erase {key other : κ} {table : List (κ × α)} :
    other ∈ keys (erase key table) ↔ other ∈ keys table ∧ other ≠ key := by
  simp only [keys, erase, List.mem_map, List.mem_filter, decide_eq_true_eq]
  constructor
  · rintro ⟨entry, ⟨hmem, hne⟩, rfl⟩
    exact ⟨⟨entry, hmem, rfl⟩, hne⟩
  · rintro ⟨⟨entry, hmem, rfl⟩, hne⟩
    exact ⟨entry, ⟨hmem, hne⟩, rfl⟩

/-- Putting keeps each key at one place. -/
theorem nodup_keys_put {key : κ} {content : α} {table : List (κ × α)} (h : (keys table).Nodup) :
    (keys (put key content table)).Nodup := by
  induction table with
  | nil => simp [put, keys]
  | cons entry rest ih =>
    have hcons := List.nodup_cons.mp (show (entry.1 :: keys rest).Nodup from h)
    simp only [put]
    split
    · rename_i hentry
      exact List.nodup_cons.mpr (hentry ▸ hcons)
    · rename_i hentry
      refine List.nodup_cons.mpr ⟨fun hmem ↦ ?_, ih hcons.2⟩
      exact (mem_keys_put.mp hmem).elim hentry hcons.1

/-- Putting changes no entries of a kind if neither what is put in nor what was found under its key
is of this kind. -/
theorem filter_put {key : κ} {content : α} {table : List (κ × α)} {keep : κ × α → Bool}
    (hnew : keep (key, content) = false)
    (hold : ∀ old, get? key table = some old → keep (key, old) = false) :
    (put key content table).filter keep = table.filter keep := by
  induction table with
  | nil => simp [put, hnew]
  | cons entry rest ih =>
    obtain ⟨first, old⟩ := entry
    by_cases hentry : first = key
    · have hgone : keep (first, old) = false := hentry ▸ hold old (by rw [get?, if_pos hentry])
      rw [put, if_pos hentry, List.filter_cons_of_neg (Bool.eq_false_iff.mp hnew),
        List.filter_cons_of_neg (Bool.eq_false_iff.mp hgone)]
    · have hrest := ih fun old h ↦ hold old (by rw [get?, if_neg hentry, h])
      rw [put, if_neg hentry, List.filter_cons, List.filter_cons, hrest]

/-- Entries can be chosen by their keys before or after one of them is put in. -/
theorem filter_put_of_keep {key : κ} {keep : κ → Bool} (h : keep key = true) (content : α)
    (table : List (κ × α)) :
    (put key content table).filter (fun entry ↦ keep entry.1) =
      put key content (table.filter fun entry ↦ keep entry.1) := by
  induction table with
  | nil => simp [put, h]
  | cons entry rest ih =>
    by_cases hentry : entry.1 = key
    · have hkeep : keep entry.1 = true := hentry ▸ h
      simp only [put, if_pos hentry, List.filter_cons, h, hkeep, if_true]
    · by_cases hkeep : keep entry.1 = true
      · simp only [put, if_neg hentry, List.filter_cons, hkeep, if_true, ih]
      · simp only [put, if_neg hentry, List.filter_cons, hkeep, Bool.false_eq_true, if_false, ih]

/-- What is put in under a key goes away with the key. -/
theorem erase_put (key : κ) (content : α) (table : List (κ × α)) :
    erase key (put key content table) = erase key table :=
  filter_put (by simp) fun _ _ ↦ by simp

theorem erase_of_notMem {key : κ} {table : List (κ × α)} (h : key ∉ keys table) :
    erase key table = table := by
  refine List.filter_eq_self.mpr fun entry hentry ↦ decide_eq_true ?_
  rintro rfl
  exact h (List.mem_map_of_mem hentry)

/-- Of two contents under one key the second stays. -/
theorem put_put (key : κ) (content last : α) (table : List (κ × α)) :
    put key last (put key content table) = put key last table := by
  induction table with
  | nil => rw [put, put, put, if_pos rfl]
  | cons entry rest ih =>
    by_cases hentry : entry.1 = key
    · rw [put, if_pos hentry, put, if_pos rfl, put, if_pos hentry]
    · rw [put, if_neg hentry, put, if_neg hentry, put, if_neg hentry, ih]

/-- The order in which contents are put under two keys does not matter if one of these is
present. -/
theorem put_comm {key other : κ} {table : List (κ × α)} (hne : key ≠ other)
    (hmem : key ∈ keys table) (content another : α) :
    put key content (put other another table) = put other another (put key content table) := by
  induction table with
  | nil => exact absurd hmem List.not_mem_nil
  | cons entry rest ih =>
    by_cases hkey : entry.1 = key
    · have hother : ¬ entry.1 = other := fun h ↦ hne (hkey.symm.trans h)
      rw [put, if_neg hother, put, if_pos hkey, put, if_pos hkey, put, if_neg hne]
    · by_cases hother : entry.1 = other
      · rw [put, if_pos hother, put, if_neg hne.symm, put, if_neg hkey, put, if_pos hother]
      · have hrest : key ∈ keys rest := (List.mem_cons.mp hmem).resolve_left fun h ↦ hkey h.symm
        rw [put, if_neg hother, put, if_neg hkey, put, if_neg hkey, put, if_neg hother, ih hrest]

/-- Entries that are chosen by their keys are found as before. -/
theorem get?_filter {key : κ} {table : List (κ × α)} (keep : κ → Bool) :
    get? key (table.filter fun entry ↦ keep entry.1) =
      if keep key then get? key table else none := by
  induction table with
  | nil => simp [get?]
  | cons entry rest ih =>
    simp only [List.filter_cons]
    by_cases hkeep : keep entry.1 = true
    · rw [if_pos hkeep, get?, get?, ih]
      by_cases hentry : entry.1 = key
      · rw [if_pos hentry, if_pos hentry, if_pos (hentry ▸ hkeep)]
      · rw [if_neg hentry, if_neg hentry]
    · rw [if_neg hkeep, ih, get?]
      by_cases hentry : entry.1 = key
      · rw [if_neg (hentry ▸ hkeep), if_neg (hentry ▸ hkeep)]
      · rw [if_neg hentry]

/-- Entries that are put in one after the other cover those with their keys. -/
theorem get?_putAll {key : κ} {table pairs : List (κ × α)} (h : (keys pairs).Nodup) :
    get? key (putAll table pairs) = (get? key pairs).or (get? key table) := by
  induction pairs generalizing table with
  | nil => rfl
  | cons pair rest ih =>
    obtain ⟨hnew, hrest⟩ := List.nodup_cons.mp (show (pair.1 :: keys rest).Nodup from h)
    rw [putAll, List.foldl_cons, ← putAll, ih hrest, get?_put, get?]
    by_cases hpair : pair.1 = key
    · rw [if_pos hpair, if_pos hpair, get?_eq_none_iff.mpr (hpair ▸ hnew)]
      rfl
    · rw [if_neg hpair, if_neg hpair]

/-- Each key of a table that is built by putting has one place. -/
theorem nodup_keys_putAll {table pairs : List (κ × α)} (h : (keys table).Nodup) :
    (keys (putAll table pairs)).Nodup := by
  induction pairs generalizing table with
  | nil => exact h
  | cons pair rest ih =>
    rw [putAll, List.foldl_cons, ← putAll]
    exact ih (nodup_keys_put h)

/-- Where each key has one place, the content of an entry is found under its key. -/
theorem get?_of_mem {key : κ} {content : α} {table : List (κ × α)} (hnodup : (keys table).Nodup)
    (h : (key, content) ∈ table) : get? key table = some content := by
  induction table with
  | nil => exact absurd h List.not_mem_nil
  | cons entry rest ih =>
    obtain ⟨hnew, hrest⟩ := List.nodup_cons.mp (show (entry.1 :: keys rest).Nodup from hnodup)
    rcases List.mem_cons.mp h with rfl | hmem
    · rw [get?, if_pos rfl]
    · have hne : ¬ entry.1 = key := fun hentry ↦ hnew (hentry ▸ List.mem_map_of_mem hmem)
      rw [get?, if_neg hne, ih hrest hmem]

/-- Tables with the same keys, each at one place, are the same if they hold the same contents. -/
theorem eq_of_get? {first second : List (κ × α)} (hkeys : keys first = keys second)
    (hnodup : (keys first).Nodup) (h : ∀ key ∈ keys first, get? key first = get? key second) :
    first = second := by
  induction first generalizing second with
  | nil => exact (List.map_eq_nil_iff.mp hkeys.symm).symm
  | cons entry rest ih =>
    obtain ⟨other, others, rfl⟩ := List.exists_cons_of_ne_nil
      (show second ≠ [] by rintro rfl; cases hkeys)
    obtain ⟨hkey, hrest⟩ := List.cons.inj
      (show entry.1 :: keys rest = other.1 :: keys others from hkeys)
    obtain ⟨hnew, hnodup⟩ := List.nodup_cons.mp (show (entry.1 :: keys rest).Nodup from hnodup)
    have hcontent := h entry.1 (List.mem_cons.mpr (Or.inl rfl))
    rw [get?, if_pos rfl, get?, if_pos hkey.symm] at hcontent
    have hothers : rest = others := by
      refine ih hrest hnodup fun key hmem ↦ ?_
      have hne : ¬ entry.1 = key := fun hsame ↦ hnew (hsame ▸ hmem)
      have hsame := h key (List.mem_cons.mpr (Or.inr hmem))
      rwa [get?, if_neg hne, get?, if_neg (hkey ▸ hne)] at hsame
    rw [hothers, Prod.ext hkey (Option.some.inj hcontent)]

end TypestateBuilders.Keyed
