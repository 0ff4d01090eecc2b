import TypestateBuilders.Value.Display

/-!
# Writing JSON

`Json.print` writes a value as a JSON text on one line. Quotes, backslashes and control characters
in texts are escaped, halves of characters that stand alone are written by their codes, and all
other characters stand for themselves.
-/

set_option autoImplicit false
set_option relaxedAutoImplicit false

namespace TypestateBuilders.Json

/-- A sign as it stands in a JSON text. -/
def printSign : Text.Sign → List Char
  | .char c =>
    if c = '"' then ['\\', '"']
    else if c = '\\' then ['\\', '\\']
    else if c = '\n' then ['\\', 'n']
    else if c = '\r' then ['\\', 'r']
    else if c = '\t' then ['\\', 't']
    else if c.toNat < 0x20 || c.toNat = 0x7f then '\\' :: 'u' :: Text.hexDigits 4 c.toNat
    else [c]
  | sign => '\\' :: 'u' :: Text.hexDigits 4 sign.code

/-- A text between quotes. -/
def printText (text : String) : String :=
  String.ofList ('"' :: (Text.signsOf text).flatMap printSign ++ ['"'])

/-- A floating-point number; those that are no numbers are written as words. -/
def printFloat (number : Float) : String :=
  if number.isNaN then "NaN"
  else if number.isInf then (if number < 0.0 then "-Infinity" else "Infinity")
  else numberLayout.floatText number

mutual

/-- A value as a JSON text on one line. -/
def print : Value → String
  | .null => "null"
  | .bool truth => if truth then "true" else "false"
  | .int number => toString number
  | .float number => printFloat number
  | .text characters => printText characters
  | .list elements => "[" ++ ", ".intercalate (printElements elements) ++ "]"
  | .object members => "\x7b" ++ ", ".intercalate (printMembers members) ++ "\x7d"

/-- The elements of a list. -/
def printElements : List Value → List String
  | [] => []
  | value :: rest => print value :: printElements rest

/-- The members of an object. -/
def printMembers : List (String × Value) → List String
  | [] => []
  | (name, value) :: rest => (printText name ++ ": " ++ print value) :: printMembers rest

end

end TypestateBuilders.Json
