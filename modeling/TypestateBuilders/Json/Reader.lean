import TypestateBuilders.Text.Half
import TypestateBuilders.Value.Basic

/-!
# Reading JSON

`Json.read` reads the characters of a JSON text into a `Value`. Where an escape names a half of a
character that stands alone, the texts of the value hold that half. Members of an object keep their
order; of members with one name the first fixes the place and the last the content. The numbers
`NaN`, `Infinity` and `-Infinity` are read too. A text that is no JSON is refused with the problem
and the place where it was found (`ReadError`), and `ReadError.message` names the place by line,
column and character. Refused is also what goes beyond the limits of the reader: a whole number of
more than `maxDigits` digits, and lists and objects that lie more than `maxDepth` deep in each
other.

Every reader returns what it leaves over together with the fact that this is shorter than what it
was given (`Rest`), which is why reading ends.
-/

set_option autoImplicit false
set_option relaxedAutoImplicit false

namespace TypestateBuilders.Json

/-- The most digits of a whole number. -/
def maxDigits : Nat := 4300

/-- How many lists and objects may lie in each other. -/
def maxDepth : Nat := 985

/-- Why a text is not read. -/
inductive Problem
  | noValue
  | noMemberName
  | noColon
  | noComma
  | openText
  | controlCharacter
  | badEscape
  | badCode
  | moreAfterValue
  | byteOrderMark
  | tooManyDigits
  | tooDeep
  deriving DecidableEq, Repr

/-- What a message says about a problem. -/
def Problem.text : Problem → String
  | .noValue => "Expecting value"
  | .noMemberName => "Expecting property name enclosed in double quotes"
  | .noColon => "Expecting ':' delimiter"
  | .noComma => "Expecting ',' delimiter"
  | .openText => "Unterminated string starting at"
  | .controlCharacter => "Invalid control character at"
  | .badEscape => "Invalid \\escape"
  | .badCode => "Invalid \\uXXXX escape"
  | .moreAfterValue => "Extra data"
  | .byteOrderMark => "Unexpected UTF-8 BOM (decode using utf-8-sig)"
  | .tooManyDigits => "Number with too many digits"
  | .tooDeep => "Too many lists and objects in each other"

/-- Whether a problem is a limit of the reader, and not a text that is no JSON. -/
def Problem.isLimit (problem : Problem) : Bool :=
  problem = .tooManyDigits || problem = .tooDeep

/-- A problem, with the number of characters from its place to the end of the text. -/
structure Fault where
  /-- What is wrong. -/
  problem : Problem
  /-- How many characters are left where it was found. -/
  left : Nat
  deriving DecidableEq, Repr

/-- What is left over by a reader, shorter than the text that it was given. -/
abbrev Rest (whole : List Char) :=
  { rest : List Char // rest.length < whole.length }

/-- The white space between the parts of a JSON text. -/
def isSpace (c : Char) : Bool :=
  c = ' ' || c = '\t' || c = '\n' || c = '\r'

/-- The first character that is no white space, and what follows it. -/
def firstPart : (cs : List Char) → Option (Char × Rest cs)
  | [] => none
  | c :: rest =>
    if isSpace c then
      (firstPart rest).map fun (part, left) ↦ (part, ⟨left.1, Nat.lt_succ_of_lt left.2⟩)
    else some (c, ⟨rest, Nat.lt_succ_self _⟩)

/-! ### Texts -/

/-- The value of a hexadecimal digit. -/
def hexValue? (c : Char) : Option Nat :=
  if c.isDigit then some (c.toNat - '0'.toNat)
  else if 'a' ≤ c ∧ c ≤ 'f' then some (c.toNat - 'a'.toNat + 10)
  else if 'A' ≤ c ∧ c ≤ 'F' then some (c.toNat - 'A'.toNat + 10)
  else none

/-- The code that four hexadecimal digits give. A text that ends with them is not closed, so a fifth
character has to follow. -/
def codeUnit? : List Char → Option Nat
  | a :: b :: c :: d :: _ :: _ => do
    pure (((← hexValue? a) * 16 + (← hexValue? b)) * 256 + (← hexValue? c) * 16 + (← hexValue? d))
  | _ => none

/-- Whether another escaped code and at least one more character follow. -/
def codeFollows (cs : List Char) : Bool :=
  ['\\', 'u'].isPrefixOf cs && !(cs.drop 6).isEmpty

/-- The character that a letter behind a backslash stands for. -/
def escaped? : Char → Option Char
  | '"' => some '"'
  | '\\' => some '\\'
  | '/' => some '/'
  | 'b' => some '\x08'
  | 'f' => some '\x0c'
  | 'n' => some '\n'
  | 'r' => some '\r'
  | 't' => some '\t'
  | _ => none

/-- Reads a text up to its closing quote. `seen` holds the signs read so far, latest first, and
`opening` what stands behind the quote that opens the text. -/
def readText (whole opening : List Char) (seen : List Text.Sign) (cs : List Char)
    (h : cs.length < whole.length) : Except Fault (String × Rest whole) :=
  match cs with
  | [] => .error ⟨.openText, opening.length + 1⟩
  | c :: rest =>
    have hrest : rest.length + 1 < whole.length := h
    if c = '"' then .ok (Text.ofSigns seen.reverse, ⟨rest, by omega⟩)
    else if c = '\\' then
      match rest with
      | [] => .error ⟨.openText, opening.length + 1⟩
      | letter :: more =>
        have hmore : more.length + 1 + 1 < whole.length := hrest
        if letter = 'u' then
          match codeUnit? more with
          | none => .error ⟨.badCode, more.length + 1⟩
          | some code =>
            if Text.isHighHalf code && codeFollows (more.drop 4) then
              match codeUnit? (more.drop 6) with
              | none => .error ⟨.badCode, (more.drop 5).length⟩
              | some second =>
                if Text.isLowHalf second then
                  readText whole opening (.char (Text.joinHalves code second) :: seen)
                    (more.drop 10) (by simp only [List.length_drop]; omega)
                else
                  readText whole opening (.ofCode code :: seen) (more.drop 4)
                    (by simp only [List.length_drop]; omega)
            else
              readText whole opening (.ofCode code :: seen) (more.drop 4)
                (by simp only [List.length_drop]; omega)
        else
          match escaped? letter with
          | none => .error ⟨.badEscape, more.length + 2⟩
          | some character => readText whole opening (.char character :: seen) more (by omega)
    else if c.toNat < 0x20 then .error ⟨.controlCharacter, rest.length + 1⟩
    else readText whole opening (.char c :: seen) rest (by omega)
termination_by cs.length
decreasing_by all_goals simp only [List.length_drop, List.length_cons]; omega

/-! ### Numbers -/

/-- The floating-point number `mantissa · 10 ^ exponent`; outside the range of such numbers it is
infinite or zero. -/
def floatOf (mantissa : Nat) (exponent : Int) : Float :=
  let place := (mantissa.repr.length : Int) + exponent
  if mantissa = 0 ∨ place < -330 then 0.0
  else if place > 330 then 1.0 / 0.0
  else if exponent < 0 then Float.ofScientific mantissa true exponent.natAbs
  else Float.ofScientific mantissa false exponent.natAbs

/-- A number from its digits, most significant first. -/
def natOfDigits (digits : List Char) : Nat :=
  digits.foldl (fun number digit ↦ number * 10 + (digit.toNat - '0'.toNat)) 0

/-- The digits in front of a number's point: a zero alone, or digits of which the first is none. -/
def wholeDigits : List Char → List Char
  | '0' :: _ => ['0']
  | cs => cs.takeWhile Char.isDigit

/-- The digits behind a number's point, if a point with a digit follows. -/
def fractionDigits : List Char → List Char
  | '.' :: rest => rest.takeWhile Char.isDigit
  | _ => []

/-- The sign and the digits of an exponent of ten, if a letter `e` with a digit follows. -/
def exponentParts : List Char → Option (List Char × List Char)
  | letter :: rest =>
    if letter = 'e' ∨ letter = 'E' then
      let sign := if rest.head? = some '-' ∨ rest.head? = some '+' then rest.take 1 else []
      let digits := (rest.drop sign.length).takeWhile Char.isDigit
      if digits.isEmpty then none else some (sign, digits)
    else none
  | [] => none

/-- The number at the start of a text and how many characters it takes, if there is one. -/
def number? (cs : List Char) : Option (Value × Nat) :=
  let sign := if cs.head? = some '-' then 1 else 0
  let whole := wholeDigits (cs.drop sign)
  let afterWhole := cs.drop (sign + whole.length)
  let fraction := fractionDigits afterWhole
  let pointed := if fraction.isEmpty then 0 else fraction.length + 1
  let exponent := exponentParts (afterWhole.drop pointed)
  if whole.isEmpty then none
  else
    match fraction.isEmpty, exponent with
    | true, none =>
      let number : Int := natOfDigits whole
      some (.int (if sign = 1 then -number else number), sign + whole.length)
    | _, _ =>
      let (power, length) : Int × Nat := match exponent with
        | none => (0, 0)
        | some (mark, digits) =>
          (if mark = ['-'] then -(natOfDigits digits : Int) else natOfDigits digits,
            1 + mark.length + digits.length)
      let number := floatOf (natOfDigits (whole ++ fraction)) (power - fraction.length)
      some (.float (if sign = 1 then -number else number),
        sign + whole.length + pointed + length)

/-- The words that are values. -/
def wordValues : List (List Char × Value) :=
  [("null".toList, .null), ("true".toList, .bool true), ("false".toList, .bool false),
    ("NaN".toList, .float (0.0 / 0.0)), ("Infinity".toList, .float (1.0 / 0.0)),
    ("-Infinity".toList, .float (-1.0 / 0.0))]

/-- Whether a number that takes `length` characters at the start of a text has too many digits.
Those of a number with a point or an exponent are not counted. -/
def hasTooManyDigits (cs : List Char) (length : Nat) : Value → Bool
  | .int _ => maxDigits < length - (if cs.head? = some '-' then 1 else 0)
  | _ => false

/-- The word or number at the start of a text. -/
def readScalar (cs : List Char) : Except Fault (Value × Rest cs) :=
  let found := match wordValues.find? fun word ↦ word.1.isPrefixOf cs with
    | some (word, value) => some (value, word.length)
    | none => number? cs
  match found with
  | none => .error ⟨.noValue, cs.length⟩
  | some (value, length) =>
    if hasTooManyDigits cs length value then .error ⟨.tooManyDigits, cs.length⟩
    else if h : 0 < length ∧ cs ≠ [] then
      have hcs : 0 < cs.length := List.length_pos_iff.mpr h.2
      .ok (value, ⟨cs.drop length, by simp only [List.length_drop]; omega⟩)
    else .error ⟨.noValue, cs.length⟩

/-! ### Values -/

mutual

/-- Reads the value at the start of a text, behind white space. At most `room` lists and objects may
lie in each other. -/
def readValue (room : Nat) (cs : List Char) : Except Fault (Value × Rest cs) :=
  match firstPart cs with
  | none => .error ⟨.noValue, 0⟩
  | some (c, ⟨rest, hrest⟩) =>
    if c = '"' then
      match readText cs rest [] rest hrest with
      | .error fault => .error fault
      | .ok (characters, left) => .ok (.text characters, left)
    else if c = '\x7b' then
      match room, firstPart rest with
      | 0, _ => .error ⟨.tooDeep, rest.length + 1⟩
      | _ + 1, some ('\x7d', ⟨after, hafter⟩) =>
        .ok (.object [], ⟨after, Nat.lt_trans hafter hrest⟩)
      | inner + 1, _ => readMembers inner cs [] rest hrest
    else if c = '[' then
      match room, firstPart rest with
      | 0, _ => .error ⟨.tooDeep, rest.length + 1⟩
      | _ + 1, some (']', ⟨after, hafter⟩) => .ok (.list [], ⟨after, Nat.lt_trans hafter hrest⟩)
      | inner + 1, _ => readElements inner cs [] rest hrest
    else
      match readScalar (c :: rest) with
      | .error fault => .error fault
      | .ok (value, ⟨left, hleft⟩) => .ok (value, ⟨left, Nat.lt_of_lt_of_le hleft hrest⟩)
termination_by 2 * cs.length
decreasing_by all_goals omega

/-- Reads the elements of a list up to its closing bracket. `seen` holds the elements read so far,
latest first. -/
def readElements (room : Nat) (whole : List Char) (seen : List Value) (cs : List Char)
    (h : cs.length < whole.length) : Except Fault (Value × Rest whole) :=
  match readValue room cs with
  | .error fault => .error fault
  | .ok (value, ⟨rest, hrest⟩) =>
    match firstPart rest with
    | none => .error ⟨.noComma, 0⟩
    | some (c, ⟨after, hafter⟩) =>
      if c = ']' then
        .ok (.list (value :: seen).reverse, ⟨after, Nat.lt_trans hafter (Nat.lt_trans hrest h)⟩)
      else if c = ',' then
        readElements room whole (value :: seen) after (Nat.lt_trans hafter (Nat.lt_trans hrest h))
      else .error ⟨.noComma, after.length + 1⟩
termination_by 2 * cs.length + 1
decreasing_by all_goals omega

/-- Reads the members of an object up to its closing brace. `seen` holds the members read so far,
latest first. -/
def readMembers (room : Nat) (whole : List Char) (seen : List (String × Value)) (cs : List Char)
    (h : cs.length < whole.length) : Except Fault (Value × Rest whole) :=
  match firstPart cs with
  | none => .error ⟨.noMemberName, 0⟩
  | some (c, ⟨start, hstart⟩) =>
    if c = '"' then
      match readText cs start [] start hstart with
      | .error fault => .error fault
      | .ok (name, ⟨rest, hrest⟩) =>
        match firstPart rest with
        | none => .error ⟨.noColon, 0⟩
        | some (colon, ⟨afterColon, hcolon⟩) =>
          if colon = ':' then
            match readValue room afterColon with
            | .error fault => .error fault
            | .ok (value, ⟨left, hleft⟩) =>
              match firstPart left with
              | none => .error ⟨.noComma, 0⟩
              | some (next, ⟨after, hafter⟩) =>
                have hread : after.length < cs.length :=
                  Nat.lt_trans hafter (Nat.lt_trans hleft (Nat.lt_trans hcolon hrest))
                if next = '\x7d' then
                  .ok (.object (Keyed.ofList ((name, value) :: seen).reverse),
                    ⟨after, Nat.lt_trans hread h⟩)
                else if next = ',' then
                  readMembers room whole ((name, value) :: seen) after (Nat.lt_trans hread h)
                else .error ⟨.noComma, after.length + 1⟩
          else .error ⟨.noColon, afterColon.length + 1⟩
    else .error ⟨.noMemberName, start.length + 1⟩
termination_by 2 * cs.length + 1
decreasing_by all_goals omega

end

/-! ### Whole texts -/

/-- A problem, with the number of characters in front of its place. -/
structure ReadError where
  /-- What is wrong. -/
  problem : Problem
  /-- The characters in front of the place where it was found. -/
  before : List Char
  deriving DecidableEq, Repr

/-- What is wrong and where: by line and column, counted from one, and by character, counted from
zero. -/
def ReadError.message (error : ReadError) : String :=
  error.problem.text ++ ": line " ++ toString (error.before.count '\n' + 1) ++ " column " ++
    toString ((error.before.reverse.takeWhile (· ≠ '\n')).length + 1) ++ " (char " ++
    toString error.before.length ++ ")"

/-- Reads the characters of one value, with nothing else around it but white space. -/
def read (cs : List Char) : Except ReadError Value :=
  let locate (fault : Fault) : ReadError :=
    ⟨fault.problem, cs.take (cs.length - fault.left)⟩
  if cs.head? = some (Char.ofNat 0xfeff) then .error ⟨.byteOrderMark, []⟩
  else
    match readValue maxDepth cs with
    | .error fault => .error (locate fault)
    | .ok (value, ⟨rest, _⟩) =>
      match firstPart rest with
      | none => .ok value
      | some (_, ⟨left, _⟩) => .error (locate ⟨.moreAfterValue, left.length + 1⟩)

end TypestateBuilders.Json
