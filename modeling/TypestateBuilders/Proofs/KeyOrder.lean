import Mathlib.Data.List.Induction
import Mathlib.Data.List.Nodup
import Mathlib.Data.Prod.Lex
import Mathlib.Data.String.Basic
import TypestateBuilders.Text.Order

/-!
# Items in the order of their keys

A comparison of items may compare keys of a linear order (`Compares`). Sorting by it puts items with
keys of their own into strict order (`pairwise_lt_mergeSort`). In this order the place of an item is
the number of items with a smaller key (`zipIdx_eq_map_rank`).

Texts are compared by their codes, and then by their characters (`before_iff`). Texts that are told
apart and put in order are strictly ordered (`pairwise_distinctInOrder`), and those that spell no
half are so by their characters (`lt_of_before`).
-/

set_option autoImplicit false
set_option relaxedAutoImplicit false

namespace TypestateBuilders.KeyOrder

variable {α κ : Type} [LinearOrder κ] {key : α → κ} {mayPrecede : α → α → Bool} {items : List α}

/-- Whether items are compared by their keys. -/
def Compares (mayPrecede : α → α → Bool) (key : α → κ) : Prop :=
  ∀ first second, mayPrecede first second = true ↔ key first ≤ key second

theorem pairwise_le_mergeSort (h : Compares mayPrecede key) (items : List α) :
    (items.mergeSort mayPrecede).Pairwise fun first second ↦ key first ≤ key second := by
  have htrans : ∀ first second third, mayPrecede first second = true →
      mayPrecede second third = true → mayPrecede first third = true := by
    intro first second third hfirst hsecond
    exact (h first third).mpr (((h first second).mp hfirst).trans ((h second third).mp hsecond))
  have htotal : ∀ first second, (mayPrecede first second || mayPrecede second first) = true := by
    intro first second
    rw [Bool.or_eq_true, h, h]
    exact le_total (key first) (key second)
  exact (List.pairwise_mergeSort htrans htotal items).imp (h _ _).mp

/-- Items with keys of their own are strictly ordered when they are sorted. -/
theorem pairwise_lt_mergeSort (h : Compares mayPrecede key) (hkeys : (items.map key).Nodup) :
    (items.mergeSort mayPrecede).Pairwise fun first second ↦ key first < key second := by
  have hdistinct : ((items.mergeSort mayPrecede).map key).Nodup :=
    ((List.mergeSort_perm items mayPrecede).map key).nodup_iff.mpr hkeys
  have hboth := (pairwise_le_mergeSort h items).and (List.pairwise_map.mp hdistinct)
  exact hboth.imp fun ⟨hle, hne⟩ ↦ lt_of_le_of_ne hle hne

/-- Among items in strict order, those with a smaller key than an item are those in front of it. -/
theorem countP_lt_getElem (h : items.Pairwise fun first second ↦ key first < key second) {place : ℕ}
    (hplace : place < items.length) :
    items.countP (fun other ↦ decide (key other < key items[place])) = place := by
  induction items generalizing place with
  | nil => exact absurd hplace (Nat.not_lt_zero place)
  | cons item rest ih =>
    obtain ⟨hfirst, hrest⟩ := List.pairwise_cons.mp h
    cases place with
    | zero =>
      refine List.countP_eq_zero.mpr fun other hother ↦ ?_
      rw [decide_eq_true_iff, List.getElem_cons_zero, not_lt]
      rcases List.mem_cons.mp hother with rfl | hlater
      · exact le_rfl
      · exact (hfirst other hlater).le
    | succ place =>
      have hlater : place < rest.length := Nat.lt_of_succ_lt_succ hplace
      have hsmaller : decide (key item < key rest[place]) = true :=
        decide_eq_true (hfirst _ (List.getElem_mem hlater))
      simp only [List.getElem_cons_succ]
      rw [List.countP_cons, ih hrest hlater, if_pos hsmaller]

/-- The places of items in strict order are their ranks. -/
theorem zipIdx_eq_map_rank (h : items.Pairwise fun first second ↦ key first < key second) :
    items.zipIdx = items.map fun item ↦
      (item, items.countP fun other ↦ decide (key other < key item)) := by
  refine List.ext_getElem (by simp) fun place hzipped hmapped ↦ ?_
  rw [List.getElem_zipIdx, List.getElem_map, countP_lt_getElem h, Nat.zero_add]

/-! ### Texts -/

/-- The key of a text: its codes, and its characters to tell two spellings of the same signs
apart. -/
def textKey (text : String) : List ℕ ×ₗ String :=
  toLex (Text.codes text, text)

theorem before_iff {first second : String} :
    Text.Before first second ↔ textKey first < textKey second := by
  rw [textKey, textKey, Prod.Lex.toLex_lt_toLex]
  exact Iff.rfl

theorem before_irrefl (text : String) : ¬ Text.Before text text :=
  fun h ↦ lt_irrefl _ (before_iff.mp h)

theorem before_asymm {first second : String} (h : Text.Before first second) :
    ¬ Text.Before second first :=
  fun hafter ↦ lt_asymm (before_iff.mp h) (before_iff.mp hafter)

theorem textKey_injective : Function.Injective textKey :=
  fun _ _ h ↦ congrArg Prod.snd (toLex.injective h)

theorem compares_notAfter (text : α → String) :
    Compares (fun first second ↦ Text.notAfter (text first) (text second))
      fun item ↦ textKey (text item) := by
  intro first second
  simp only [Text.notAfter, Bool.not_eq_true', decide_eq_false_iff_not, before_iff, not_lt]

theorem nodup_eraseDups (texts : List String) : texts.eraseDups.Nodup := by
  induction texts using List.reverseRecOn with
  | nil => exact List.nodup_nil
  | append_singleton texts last ih =>
    rw [List.eraseDups_append]
    by_cases hmem : last ∈ texts
    · have hgone : [last].removeAll texts = [] := by simp [List.removeAll, hmem]
      rwa [hgone, List.eraseDups_nil, List.append_nil]
    · have hstays : [last].removeAll texts = [last] := by simp [List.removeAll, hmem]
      have hlast : [last].eraseDups = [last] := rfl
      rw [hstays, hlast, List.nodup_append]
      refine ⟨ih, List.nodup_singleton last, fun text htext other hother ↦ ?_⟩
      rw [List.mem_singleton.mp hother]
      rintro rfl
      exact hmem (List.mem_eraseDups.mp htext)

/-- Distinct texts in order are strictly ordered. -/
theorem pairwise_distinctInOrder (texts : List String) :
    (Text.distinctInOrder texts).Pairwise Text.Before := by
  have hkeys : (texts.eraseDups.map textKey).Nodup :=
    (nodup_eraseDups texts).map textKey_injective
  exact (pairwise_lt_mergeSort (compares_notAfter id) hkeys).imp before_iff.mpr

/-- The codes of a text without the mark are those of its characters. -/
theorem codes_of_unmarked {text : String} (h : ∀ c ∈ text.toList, c ≠ Text.mark) :
    Text.codes text = text.toList.map Char.toNat := by
  rw [Text.codes, Text.signsOf, Text.signs_of_unmarked h, List.map_map]
  rfl

/-- Characters come in the order of their codes. -/
theorem lt_of_map_toNat_lt {first second : List Char}
    (h : first.map Char.toNat < second.map Char.toNat) : first < second := by
  induction first generalizing second with
  | nil =>
    cases second with
    | nil => exact absurd h (lt_irrefl _)
    | cons d back => exact List.nil_lt_cons d back
  | cons c front ih =>
    cases second with
    | nil => exact absurd h (List.not_lt_nil _)
    | cons d back =>
      rw [List.map_cons, List.map_cons, List.cons_lt_cons_iff] at h
      rw [List.cons_lt_cons_iff]
      exact h.imp id fun ⟨hsame, hrest⟩ ↦ ⟨Char.toNat_inj.mp hsame, ih hrest⟩

/-- Texts without the mark come in the order of their characters. -/
theorem lt_of_before {first second : String} (hfirst : ∀ c ∈ first.toList, c ≠ Text.mark)
    (hsecond : ∀ c ∈ second.toList, c ≠ Text.mark) (h : Text.Before first second) :
    first < second := by
  rcases h with hcodes | ⟨_, hlt⟩
  · rw [codes_of_unmarked hfirst, codes_of_unmarked hsecond] at hcodes
    exact String.lt_iff_toList_lt.mpr (lt_of_map_toNat_lt hcodes)
  · exact hlt

theorem mem_distinctInOrder {text : String} {texts : List String} :
    text ∈ Text.distinctInOrder texts ↔ text ∈ texts := by
  rw [Text.distinctInOrder, Text.mem_inOrder, List.mem_eraseDups]

end TypestateBuilders.KeyOrder
