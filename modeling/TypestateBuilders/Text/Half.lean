/-!
# Characters and halves of characters

A character beyond the first 65536 can be named by two codes, its halves (`joinHalves`). A half that
stands alone names no character, but a text may hold one. So a text is a row of signs, each of which
is a character or a half that stands alone (`Sign`).

In a `String` each sign has a spelling of its own (`Sign.spelling`). All characters stand for
themselves but the last of all, which is kept for inner use: it is the mark in front of what does
not stand for itself. The mark twice is the mark as a sign, and the mark with a private character
is a half. `signs` takes the spellings apart again (`signs_spelled`), so that no two rows of signs
share a text.
-/

set_option autoImplicit false
set_option relaxedAutoImplicit false

namespace TypestateBuilders.Text

/-- The first half of a character beyond the first 65536. -/
def isHighHalf (code : Nat) : Bool :=
  0xd800 ≤ code && code < 0xdc00

/-- The second half of a character beyond the first 65536. -/
def isLowHalf (code : Nat) : Bool :=
  0xdc00 ≤ code && code < 0xe000

/-- The character that two halves name. -/
def joinHalves (high low : Nat) : Char :=
  Char.ofNat (0x10000 + (high - 0xd800) * 0x400 + (low - 0xdc00))

/-- The character in front of what does not stand for itself. -/
def mark : Char := Char.ofNat 0x10ffff

/-- The code of the private character that stands behind the mark for the first of all halves. -/
def privateStart : Nat := 0x100000

/-- A character, or a half that stands alone. -/
inductive Sign
  | char (c : Char)
  /-- The half with the code `0xd800 + index`. -/
  | half (index : Fin 0x800)
  deriving DecidableEq, Repr

namespace Sign

/-- The sign with a code. -/
def ofCode (code : Nat) : Sign :=
  if h : 0xd800 ≤ code ∧ code < 0xe000 then half ⟨code - 0xd800, by omega⟩
  else char (Char.ofNat code)

/-- The code of a sign. -/
def code : Sign → Nat
  | char c => c.toNat
  | half index => 0xd800 + index

/-- The character that a sign is, unless it is a half. -/
def char? : Sign → Option Char
  | char c => some c
  | half _ => none

/-- The number of bytes that a sign takes; a half takes those of its neighbours in the order of
codes. -/
def byteSize : Sign → Nat
  | char c => c.utf8Size
  | half _ => 3

/-- The private character behind the mark in the spelling of a half. -/
def privateChar (index : Fin 0x800) : Char :=
  Char.ofNat (privateStart + index)

/-- The characters that spell a sign. -/
def spelling : Sign → List Char
  | char c => if c = mark then [mark, mark] else [c]
  | half index => [mark, privateChar index]

/-- The sign that a character behind the mark makes with it. -/
def marked? (c : Char) : Option Sign :=
  if c = mark then some (char mark)
  else if h : privateStart ≤ c.toNat ∧ c.toNat < privateStart + 0x800 then
    some (half ⟨c.toNat - privateStart, by omega⟩)
  else none

end Sign

/-- The signs that characters spell. A mark that spells nothing stands for itself. -/
def signs : List Char → List Sign
  | [] => []
  | [c] => [.char c]
  | c :: next :: rest =>
    match (if c = mark then Sign.marked? next else none) with
    | some sign => sign :: signs rest
    | none => .char c :: signs (next :: rest)

/-- The signs of a text. -/
def signsOf (text : String) : List Sign :=
  signs text.toList

/-- The text of some signs. -/
def ofSigns (row : List Sign) : String :=
  String.ofList (row.flatMap Sign.spelling)

/-- The characters of a text, without its halves. -/
def characters (text : String) : List Char :=
  (signsOf text).filterMap Sign.char?

/-- The number of bytes that a text takes. -/
def byteSize (text : String) : Nat :=
  (signsOf text).foldl (fun size sign ↦ size + sign.byteSize) 0

/-! ### Reading back -/

/-- The private character of a half is the one with the code of its place. -/
theorem toNat_privateChar (index : Fin 0x800) :
    (Sign.privateChar index).toNat = privateStart + index := by
  have hvalid : (privateStart + index.val).isValidChar := by
    have hindex := index.isLt
    simp only [Nat.isValidChar, privateStart]
    omega
  rw [Sign.privateChar, Char.ofNat, dif_pos hvalid]
  rfl

/-- Behind the mark, the private character of a half gives the half. -/
theorem marked?_privateChar (index : Fin 0x800) :
    Sign.marked? (Sign.privateChar index) = some (.half index) := by
  have hnat := toNat_privateChar index
  have hindex := index.isLt
  have hmark : Sign.privateChar index ≠ mark := by
    intro heq
    rw [heq] at hnat
    have hcode : mark.toNat = 0x10ffff := rfl
    simp only [privateStart] at hnat
    omega
  have hrange : privateStart ≤ (Sign.privateChar index).toNat ∧
      (Sign.privateChar index).toNat < privateStart + 0x800 := by
    omega
  rw [Sign.marked?, if_neg hmark, dif_pos hrange]
  simp only [hnat, Nat.add_sub_cancel_left]

/-- A character that is no mark stands for itself. -/
theorem signs_cons {c : Char} (h : c ≠ mark) (rest : List Char) :
    signs (c :: rest) = .char c :: signs rest := by
  cases rest with
  | nil => rfl
  | cons next rest => simp [signs, h]

/-- The spelling of a sign gives the sign, whatever follows. -/
theorem signs_spelling_append (sign : Sign) (rest : List Char) :
    signs (sign.spelling ++ rest) = sign :: signs rest := by
  cases sign with
  | char c =>
    by_cases h : c = mark
    · subst h
      simp [Sign.spelling, signs, Sign.marked?]
    · rw [Sign.spelling, if_neg h, List.singleton_append, signs_cons h]
  | half index => simp [Sign.spelling, signs, marked?_privateChar]

/-- The signs that were spelled are read back. -/
theorem signs_spelled (row : List Sign) : signs (row.flatMap Sign.spelling) = row := by
  induction row with
  | nil => rfl
  | cons sign rest ih => rw [List.flatMap_cons, signs_spelling_append, ih]

/-- The signs of a text that was made of signs are these. -/
@[simp] theorem signsOf_ofSigns (row : List Sign) : signsOf (ofSigns row) = row := by
  rw [signsOf, ofSigns, String.toList_ofList, signs_spelled]

/-- Characters among which there is no mark stand for themselves. -/
theorem signs_of_unmarked {cs : List Char} (h : ∀ c ∈ cs, c ≠ mark) :
    signs cs = cs.map Sign.char := by
  induction cs with
  | nil => rfl
  | cons c rest ih =>
    rw [signs_cons (h c (List.mem_cons_self ..)), List.map_cons,
      ih fun d hd ↦ h d (List.mem_cons_of_mem _ hd)]

end TypestateBuilders.Text
