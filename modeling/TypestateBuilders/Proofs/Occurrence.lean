import Mathlib.Data.List.Basic
import Mathlib.Data.List.Induction
import TypestateBuilders.Keyed

/-!
# First and later occurrences

Items with keys are told apart by these. `firsts` lists the items whose key no earlier item has, and
`followers` all other items, each behind the first item of its key. Both are said by places: what
stands in front of a place decides about the item at it.

Every item is a first one or a follower (`perm_firsts_followers`), the first ones have keys of their
own (`nodup_keys_firsts`), and they are found under the same keys as the items themselves
(`first?_firsts`). A table that is built entry by entry (`Keyed.ofList`) holds the first entries of
all keys with the contents of the last ones (`ofList_eq_firsts`).
-/

set_option autoImplicit false
set_option relaxedAutoImplicit false

namespace TypestateBuilders.Occurrence

/-- What is collected from the items in order, when each of them is looked at together with the
items in front of it. -/
def collect {α β : Type} (choose : List α → α → Option β) (items : List α) : List β :=
  items.zipIdx.filterMap fun (item, place) ↦ choose (items.take place) item

/-- One more item adds what is collected from it, and changes nothing about the others. -/
theorem collect_append_singleton {α β : Type} (choose : List α → α → Option β) (items : List α)
    (last : α) :
    collect choose (items ++ [last]) = collect choose items ++ (choose items last).toList := by
  have hearlier : items.zipIdx.filterMap (fun (item, place) ↦
      choose ((items ++ [last]).take place) item) = collect choose items := by
    refine List.filterMap_congr fun entry hentry ↦ ?_
    have hplace : entry.2 ≤ items.length := Nat.le_of_lt (List.mem_zipIdx' hentry).1
    simp only [List.take_append_of_le_length hplace]
  rw [collect, List.zipIdx_append, List.filterMap_append, hearlier]
  cases hchoose : choose items last <;> simp [hchoose]

section

variable {α κ : Type} {key : α → κ} {items : List α}

theorem nodup_keys_append_singleton {last : α} :
    ((items ++ [last]).map key).Nodup ↔ (items.map key).Nodup ∧ key last ∉ items.map key := by
  rw [List.map_append, List.map_singleton, List.nodup_append]
  refine and_congr_right fun _ ↦ ⟨fun h hmem ↦ ?_, fun h ↦ ⟨List.pairwise_singleton _ _, ?_⟩⟩
  · exact h.2 _ hmem _ (List.mem_singleton_self _) rfl
  · rintro other hother _ hlast rfl
    exact h (List.mem_singleton.mp hlast ▸ hother)

/-- Keys are not all different if and only if some item is the first one to have the key of an item
in front of it. -/
theorem not_nodup_keys_iff :
    ¬ (items.map key).Nodup ↔ ∃ front again, front ++ [again] <+: items ∧
      (front.map key).Nodup ∧ key again ∈ front.map key := by
  constructor
  · induction items using List.reverseRecOn with
    | nil => exact fun h ↦ absurd List.nodup_nil h
    | append_singleton items last ih =>
      intro h
      by_cases hitems : (items.map key).Nodup
      · refine ⟨items, last, List.prefix_rfl, hitems, ?_⟩
        by_contra hnew
        exact h (nodup_keys_append_singleton.mpr ⟨hitems, hnew⟩)
      · obtain ⟨front, again, hstart, hfound⟩ := ih hitems
        exact ⟨front, again, hstart.trans (List.prefix_append _ _), hfound⟩
  · rintro ⟨front, again, hstart, _, hagain⟩ hnodup
    have hfront := hnodup.sublist (hstart.sublist.map key)
    exact (nodup_keys_append_singleton.mp hfront).2 hagain

end

variable {α κ : Type} [DecidableEq κ] (key : α → κ)

/-- The first item with a key. -/
def first? (items : List α) (wanted : κ) : Option α :=
  items.find? fun item ↦ key item = wanted

/-- The items whose key no earlier item has, in order. -/
def firsts (items : List α) : List α :=
  collect (fun earlier item ↦ if (first? key earlier (key item)).isNone then some item else none)
    items

/-- The items whose key an earlier item has, in order, each behind the first item of its key. -/
def followers (items : List α) : List (α × α) :=
  collect (fun earlier item ↦ (first? key earlier (key item)).map fun first ↦ (first, item)) items

section

variable {key}

theorem key_of_first? {items : List α} {wanted : κ} {item : α}
    (h : first? key items wanted = some item) : key item = wanted := by
  simpa using List.find?_some h

theorem mem_of_first? {items : List α} {wanted : κ} {item : α}
    (h : first? key items wanted = some item) : item ∈ items :=
  List.mem_of_find?_eq_some h

theorem first?_eq_none_iff {items : List α} {wanted : κ} :
    first? key items wanted = none ↔ ∀ item ∈ items, key item ≠ wanted := by
  simp [first?]

theorem first?_append_singleton (items : List α) (last : α) (wanted : κ) :
    first? key (items ++ [last]) wanted =
      (first? key items wanted).or (if key last = wanted then some last else none) := by
  by_cases h : key last = wanted <;> simp [first?, h]

theorem firsts_append_of_none {items : List α} {last : α}
    (h : first? key items (key last) = none) :
    firsts key (items ++ [last]) = firsts key items ++ [last] := by
  simp [firsts, collect_append_singleton, h]

theorem firsts_append_of_some {items : List α} {last first : α}
    (h : first? key items (key last) = some first) :
    firsts key (items ++ [last]) = firsts key items := by
  simp [firsts, collect_append_singleton, h]

theorem followers_append_of_none {items : List α} {last : α}
    (h : first? key items (key last) = none) :
    followers key (items ++ [last]) = followers key items := by
  simp [followers, collect_append_singleton, h]

theorem followers_append_of_some {items : List α} {last first : α}
    (h : first? key items (key last) = some first) :
    followers key (items ++ [last]) = followers key items ++ [(first, last)] := by
  simp [followers, collect_append_singleton, h]

end

/-- Under every key the first ones hold what all items hold. -/
theorem first?_firsts (items : List α) (wanted : κ) :
    first? key (firsts key items) wanted = first? key items wanted := by
  induction items using List.reverseRecOn with
  | nil => rfl
  | append_singleton items last ih =>
    cases hfirst : first? key items (key last) with
    | none => rw [firsts_append_of_none hfirst, first?_append_singleton, ih,
        first?_append_singleton]
    | some first =>
      rw [firsts_append_of_some hfirst, ih, first?_append_singleton]
      by_cases hwanted : key last = wanted
      · rw [← hwanted, hfirst]
        rfl
      · rw [if_neg hwanted, Option.or_none]

/-- A first item is the one that is found under its key. -/
theorem first?_of_mem_firsts {items : List α} {item : α} (h : item ∈ firsts key items) :
    first? key items (key item) = some item := by
  induction items using List.reverseRecOn with
  | nil => simp [firsts, collect] at h
  | append_singleton items last ih =>
    rw [first?_append_singleton]
    cases hfirst : first? key items (key last) with
    | none =>
      rw [firsts_append_of_none hfirst, List.mem_append, List.mem_singleton] at h
      rcases h with hmem | rfl
      · rw [ih hmem, Option.some_or]
      · rw [hfirst, if_pos rfl, Option.none_or]
    | some first =>
      rw [firsts_append_of_some hfirst] at h
      rw [ih h, Option.some_or]

theorem firsts_sublist (items : List α) : (firsts key items).Sublist items := by
  induction items using List.reverseRecOn with
  | nil => exact List.Sublist.slnil
  | append_singleton items last ih =>
    cases hfirst : first? key items (key last) with
    | none =>
      rw [firsts_append_of_none hfirst]
      exact ih.append_right [last]
    | some first =>
      rw [firsts_append_of_some hfirst]
      exact ih.trans (List.sublist_append_left items [last])

theorem firsts_subset (items : List α) : firsts key items ⊆ items :=
  (firsts_sublist key items).subset

/-- No two first items have one key. -/
theorem nodup_keys_firsts (items : List α) : ((firsts key items).map key).Nodup := by
  induction items using List.reverseRecOn with
  | nil => exact List.nodup_nil
  | append_singleton items last ih =>
    cases hfirst : first? key items (key last) with
    | none =>
      rw [firsts_append_of_none hfirst, List.map_append, List.nodup_append]
      refine ⟨ih, by simp, ?_⟩
      intro earlier hearlier other hother
      obtain ⟨item, hitem, rfl⟩ := List.mem_map.mp hearlier
      rw [List.map_singleton, List.mem_singleton] at hother
      rw [hother]
      exact first?_eq_none_iff.mp hfirst item (firsts_subset key items hitem)
    | some first => rwa [firsts_append_of_some hfirst]

/-- The first ones of two lists are those of the first list, and those of the second one whose keys
the first list does not have. -/
theorem firsts_append (items others : List α) :
    firsts key (items ++ others) =
      firsts key items ++ (firsts key others).filter fun other ↦
        (first? key items (key other)).isNone := by
  induction others using List.reverseRecOn with
  | nil => simp [firsts, collect]
  | append_singleton others last ih =>
    have hboth : first? key (items ++ others) (key last) =
        (first? key items (key last)).or (first? key others (key last)) := List.find?_append
    rw [← List.append_assoc]
    cases hothers : first? key others (key last) with
    | some first =>
      obtain ⟨found, hfound⟩ : ∃ found, first? key (items ++ others) (key last) = some found := by
        rw [hboth, hothers]
        cases first? key items (key last) <;> exact ⟨_, rfl⟩
      rw [firsts_append_of_some hfound, firsts_append_of_some hothers, ih]
    | none =>
      rw [firsts_append_of_none hothers, List.filter_append, ← List.append_assoc, ← ih]
      cases hitems : first? key items (key last) with
      | none =>
        have hnone : first? key (items ++ others) (key last) = none := by
          rw [hboth, hitems, hothers]
          rfl
        rw [firsts_append_of_none hnone]
        simp [hitems]
      | some first =>
        have hsome : first? key (items ++ others) (key last) = some first := by
          rw [hboth, hitems]
          rfl
        rw [firsts_append_of_some hsome]
        simp [hitems]

theorem firsts_cons (item : α) (rest : List α) :
    firsts key (item :: rest) =
      item :: (firsts key rest).filter fun other ↦ key other ≠ key item := by
  have hsingle : firsts key [item] = [item] := rfl
  rw [← List.singleton_append, firsts_append, hsingle, List.singleton_append]
  refine congrArg _ (List.filter_congr fun other _ ↦ ?_)
  by_cases h : key item = key other <;> simp [first?, h, eq_comm]

/-- Nothing follows where keys are all different. -/
theorem followers_eq_nil_iff {items : List α} :
    followers key items = [] ↔ (items.map key).Nodup := by
  induction items using List.reverseRecOn with
  | nil => exact iff_of_true rfl List.nodup_nil
  | append_singleton items last ih =>
    have hnew : first? key items (key last) = none ↔ key last ∉ items.map key := by
      simp only [first?_eq_none_iff, List.mem_map, not_exists, not_and, ne_eq]
    rw [nodup_keys_append_singleton, ← hnew]
    cases hfirst : first? key items (key last) with
    | none => rw [followers_append_of_none hfirst, ih, and_iff_left rfl]
    | some first =>
      rw [followers_append_of_some hfirst]
      exact iff_of_false (List.append_ne_nil_of_right_ne_nil _ (List.cons_ne_nil _ _)) nofun

/-- Every item is a first one or a follower, and it is only one of them. -/
theorem perm_firsts_followers (items : List α) :
    (firsts key items ++ (followers key items).map Prod.snd).Perm items := by
  induction items using List.reverseRecOn with
  | nil => exact List.Perm.refl []
  | append_singleton items last ih =>
    cases hfirst : first? key items (key last) with
    | none =>
      rw [firsts_append_of_none hfirst, followers_append_of_none hfirst, List.append_assoc]
      refine List.Perm.trans ?_ (ih.append_right [last])
      rw [List.append_assoc]
      exact List.perm_append_comm.append_left _
    | some first =>
      rw [firsts_append_of_some hfirst, followers_append_of_some hfirst, List.map_append,
        List.map_singleton, ← List.append_assoc]
      exact ih.append_right [last]

/-- A follower stands behind the first item of its key. -/
theorem first?_of_mem_followers {items : List α} {pair : α × α}
    (h : pair ∈ followers key items) : first? key items (key pair.2) = some pair.1 := by
  induction items using List.reverseRecOn with
  | nil => simp [followers, collect] at h
  | append_singleton items last ih =>
    rw [first?_append_singleton]
    cases hfirst : first? key items (key last) with
    | none =>
      rw [followers_append_of_none hfirst] at h
      rw [ih h, Option.some_or]
    | some first =>
      rw [followers_append_of_some hfirst, List.mem_append, List.mem_singleton] at h
      rcases h with hmem | rfl
      · rw [ih hmem, Option.some_or]
      · rw [hfirst, Option.some_or]

/-! ### Last occurrences -/

/-- The last item with a key. -/
def last? (items : List α) (wanted : κ) : Option α :=
  first? key items.reverse wanted

/-- The last item with the key of an item, which is the item itself if there is none. -/
def latest (items : List α) (item : α) : α :=
  (last? key items (key item)).getD item

theorem key_latest (items : List α) (item : α) : key (latest key items item) = key item := by
  cases hlast : last? key items (key item) with
  | none => rw [latest, hlast, Option.getD_none]
  | some last => rw [latest, hlast, Option.getD_some, key_of_first? hlast]

theorem latest_append_singleton (items : List α) (last item : α) :
    latest key (items ++ [last]) item = if key item = key last then last else latest key items item
    := by
  rw [latest, last?, List.reverse_append, List.reverse_singleton, List.singleton_append, first?]
  by_cases h : key item = key last
  · rw [List.find?_cons_of_pos (by simpa using h.symm), if_pos h, Option.getD_some]
  · rw [List.find?_cons_of_neg (by simpa using fun hlast ↦ h hlast.symm), if_neg h]
    rfl

theorem latest_mem {items : List α} {item : α} (h : item ∈ items) :
    latest key items item ∈ items := by
  cases hlast : last? key items (key item) with
  | none => rwa [latest, hlast, Option.getD_none]
  | some last =>
    rw [latest, hlast, Option.getD_some]
    exact List.mem_reverse.mp (mem_of_first? hlast)

/-! ### Items that are made from others -/

section

variable {β : Type} (make : β → α)

theorem first?_map (sources : List β) (wanted : κ) :
    first? key (sources.map make) wanted =
      (first? (fun source ↦ key (make source)) sources wanted).map make :=
  List.find?_map ..

theorem firsts_map (sources : List β) :
    firsts key (sources.map make) = (firsts (fun source ↦ key (make source)) sources).map make := by
  induction sources using List.reverseRecOn with
  | nil => rfl
  | append_singleton sources last ih =>
    rw [List.map_append, List.map_singleton]
    cases hfirst : first? (fun source ↦ key (make source)) sources (key (make last)) with
    | none =>
      have hmade : first? key (sources.map make) (key (make last)) = none := by
        rw [first?_map, hfirst, Option.map_none]
      rw [firsts_append_of_none hmade, firsts_append_of_none hfirst, ih, List.map_append,
        List.map_singleton]
    | some first =>
      have hmade : first? key (sources.map make) (key (make last)) = some (make first) := by
        rw [first?_map, hfirst, Option.map_some]
      rw [firsts_append_of_some hmade, firsts_append_of_some hfirst, ih]

theorem latest_map (sources : List β) (source : β) :
    latest key (sources.map make) (make source) =
      make (latest (fun source ↦ key (make source)) sources source) := by
  rw [latest, last?, ← List.map_reverse, first?_map, latest, last?, Option.getD_map]

end

end TypestateBuilders.Occurrence

namespace TypestateBuilders.Keyed

open Occurrence

variable {κ α : Type} [DecidableEq κ]

theorem put_of_notMem {key : κ} {content : α} {table : List (κ × α)} (h : key ∉ keys table) :
    put key content table = table ++ [(key, content)] := by
  induction table with
  | nil => rfl
  | cons entry rest ih =>
    rw [keys, List.map_cons, List.mem_cons, not_or] at h
    rw [put, if_neg fun hentry ↦ h.1 hentry.symm, ih h.2, List.cons_append]

/-- Where each key has one place, putting under a key that is present changes that place alone. -/
theorem put_of_mem {key : κ} {content : α} {table : List (κ × α)} (hnodup : (keys table).Nodup)
    (h : key ∈ keys table) :
    put key content table =
      table.map fun entry ↦ if entry.1 = key then (key, content) else entry := by
  induction table with
  | nil => simp [keys] at h
  | cons entry rest ih =>
    obtain ⟨hnew, hrest⟩ := List.nodup_cons.mp (show (entry.1 :: keys rest).Nodup from hnodup)
    by_cases hentry : entry.1 = key
    · have hunchanged : rest.map (fun other ↦ if other.1 = key then (key, content) else other) =
          rest.map id :=
        List.map_congr_left fun other hother ↦
          if_neg fun hkey ↦ hnew (List.mem_map.mpr ⟨other, hother, hkey.trans hentry.symm⟩)
      rw [put, if_pos hentry, List.map_cons, if_pos hentry, hunchanged, List.map_id]
    · have hmem : key ∈ keys rest := (List.mem_cons.mp h).resolve_left fun hkey ↦ hentry hkey.symm
      rw [put, if_neg hentry, List.map_cons, if_neg hentry, ih hrest hmem]

/-- A table that is built entry by entry has the places of the first entries of all keys, and at
them the last entries of these keys. -/
theorem ofList_eq_firsts (pairs : List (κ × α)) :
    ofList pairs = (firsts Prod.fst pairs).map (latest Prod.fst pairs) := by
  induction pairs using List.reverseRecOn with
  | nil => rfl
  | append_singleton pairs last ih =>
    have hkeys : keys ((firsts Prod.fst pairs).map (latest Prod.fst pairs)) =
        (firsts Prod.fst pairs).map Prod.fst := by
      rw [keys, List.map_map]
      exact List.map_congr_left fun entry _ ↦ key_latest Prod.fst pairs entry
    have hput : ofList (pairs ++ [last]) = put last.1 last.2 (ofList pairs) := by
      simp [ofList, putAll]
    rw [hput, ih]
    cases hfirst : first? Prod.fst pairs last.1 with
    | none =>
      have hfresh : ∀ entry ∈ firsts Prod.fst pairs, entry.1 ≠ last.1 := fun entry hentry ↦
        first?_eq_none_iff.mp hfirst entry (firsts_subset Prod.fst pairs hentry)
      have hnotMem : last.1 ∉ keys ((firsts Prod.fst pairs).map (latest Prod.fst pairs)) := by
        rw [hkeys]
        intro hmem
        obtain ⟨entry, hentry, hkey⟩ := List.mem_map.mp hmem
        exact hfresh entry hentry hkey
      rw [put_of_notMem hnotMem, firsts_append_of_none hfirst, List.map_append, List.map_singleton,
        latest_append_singleton, if_pos rfl]
      congr 1
      exact List.map_congr_left fun entry hentry ↦ by
        rw [latest_append_singleton, if_neg (hfresh entry hentry)]
    | some first =>
      have hfound : first? Prod.fst (firsts Prod.fst pairs) last.1 = some first := by
        rw [first?_firsts, hfirst]
      have hmem : last.1 ∈ keys ((firsts Prod.fst pairs).map (latest Prod.fst pairs)) := by
        rw [hkeys, ← key_of_first? hfirst]
        exact List.mem_map_of_mem (mem_of_first? hfound)
      rw [put_of_mem (hkeys ▸ nodup_keys_firsts Prod.fst pairs) hmem, firsts_append_of_some hfirst,
        List.map_map]
      refine List.map_congr_left fun entry _ ↦ ?_
      rw [Function.comp_apply, key_latest Prod.fst, latest_append_singleton]

end TypestateBuilders.Keyed
