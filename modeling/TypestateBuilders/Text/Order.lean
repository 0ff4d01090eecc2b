import TypestateBuilders.Text.Half

/-!
# The order of texts

Texts are put in order by the codes of their signs, so that capitals come before small letters, a
text before those that it begins, and a half that stands alone where its code belongs (`Before`).
Equal texts stay side by side (`inOrder`); `distinctInOrder` keeps one of each.
-/

set_option autoImplicit false
set_option relaxedAutoImplicit false

namespace TypestateBuilders.Text

/-- The codes of the signs of a text. -/
def codes (text : String) : List Nat :=
  (signsOf text).map Sign.code

/-- Whether a text comes before another one, by their codes. Two spellings of the same signs, of
which texts made of signs use but one, come in the order of their characters. -/
def Before (first second : String) : Prop :=
  codes first < codes second ∨ codes first = codes second ∧ first < second

instance : DecidableRel Before :=
  fun first second ↦ inferInstanceAs
    (Decidable (codes first < codes second ∨ codes first = codes second ∧ first < second))

/-- Whether a text may stand in front of another one. -/
def notAfter (first second : String) : Bool :=
  !decide (Before second first)

/-- Texts in the order of their codes. -/
def inOrder (texts : List String) : List String :=
  texts.mergeSort notAfter

/-- The different ones among some texts, in the order of their codes. -/
def distinctInOrder (texts : List String) : List String :=
  inOrder texts.eraseDups

/-- Putting texts in order neither loses nor adds any. -/
theorem inOrder_perm (texts : List String) : (inOrder texts).Perm texts :=
  List.mergeSort_perm texts notAfter

@[simp] theorem mem_inOrder {text : String} {texts : List String} :
    text ∈ inOrder texts ↔ text ∈ texts :=
  List.mem_mergeSort

end TypestateBuilders.Text
