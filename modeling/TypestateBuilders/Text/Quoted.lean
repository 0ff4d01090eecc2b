import TypestateBuilders.Text.Half
import TypestateBuilders.Text.Printable

/-!
# Quoted text

How a message shows a text so that its ends and its invisible characters can be seen. The text
stands between single quotes, or between double quotes when it holds a single quote and no double
one. The quote in use and the backslash get a backslash in front, a tab and the two line ends are
written as `\t`, `\n` and `\r`, and every other character that is not printable is written by its
code in two, four or eight hexadecimal digits, and so is a half of a character that stands alone.
-/

set_option autoImplicit false
set_option relaxedAutoImplicit false

namespace TypestateBuilders.Text

/-- A number in small hexadecimal digits, filled up with zeros to a width. -/
def hexDigits (width code : Nat) : List Char :=
  let digits := Nat.toDigits 16 code
  List.replicate (width - digits.length) '0' ++ digits

/-- The quote around a text: double when the text holds a single quote and no double one. -/
def quoteFor (text : List Char) : Char :=
  if text.contains '\'' && !text.contains '"' then '"' else '\''

/-- A sign that is written by its code. -/
def escapeCode (code : Nat) : List Char :=
  if code < 0x100 then '\\' :: 'x' :: hexDigits 2 code
  else if code < 0x10000 then '\\' :: 'u' :: hexDigits 4 code
  else '\\' :: 'U' :: hexDigits 8 code

/-- A sign as it stands between quotes. -/
def escapeSign (quote : Char) : Sign → List Char
  | .char c =>
    if c = quote ∨ c = '\\' then ['\\', c]
    else if c = '\t' then ['\\', 't']
    else if c = '\n' then ['\\', 'n']
    else if c = '\r' then ['\\', 'r']
    else if isPrintable c then [c]
    else escapeCode c.toNat
  | sign => escapeCode sign.code

/-- A text between quotes. -/
def quoted (text : String) : String :=
  let quote := quoteFor text.toList
  String.ofList (quote :: (signsOf text).flatMap (escapeSign quote) ++ [quote])

/-- A text in which nothing has to be escaped stands between single quotes as it is. -/
theorem quoted_of_plain {text : String}
    (h : ∀ c ∈ text.toList, isPrintable c = true ∧ c ≠ '\'' ∧ c ≠ '\\') :
    quoted text = String.ofList ('\'' :: text.toList ++ ['\'']) := by
  have hquote : quoteFor text.toList = '\'' := by
    have hnone : text.toList.contains '\'' = false := by
      simp only [List.contains_eq_mem, decide_eq_false_iff_not]
      exact fun hmem ↦ (h _ hmem).2.1 rfl
    rw [quoteFor, hnone]
    rfl
  have hsigns : signsOf text = text.toList.map Sign.char := by
    refine signs_of_unmarked fun c hc ↦ ?_
    rintro rfl
    exact absurd (h _ hc).1 (by decide +kernel)
  have hsame : ∀ cs : List Char, (∀ c ∈ cs, c ∈ text.toList) →
      (cs.map Sign.char).flatMap (escapeSign '\'') = cs := by
    intro cs hcs
    induction cs with
    | nil => rfl
    | cons c rest ih =>
      obtain ⟨hprintable, hsingle, hback⟩ := h c (hcs c (List.mem_cons_self ..))
      have htab : c ≠ '\t' := by
        rintro rfl
        exact absurd hprintable (by decide)
      have hline : c ≠ '\n' := by
        rintro rfl
        exact absurd hprintable (by decide)
      have hreturn : c ≠ '\r' := by
        rintro rfl
        exact absurd hprintable (by decide)
      rw [List.map_cons, List.flatMap_cons, ih fun d hd ↦ hcs d (List.mem_cons_of_mem _ hd)]
      simp [escapeSign, hsingle, hback, htab, hline, hreturn, hprintable]
  simp only [quoted, hquote, hsigns, hsame text.toList fun _ hc ↦ hc]

end TypestateBuilders.Text
