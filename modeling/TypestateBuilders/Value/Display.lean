import TypestateBuilders.Value.Basic
import TypestateBuilders.Decimal.Shortest
import TypestateBuilders.Text.Quoted

/-!
# The text of a value

How a value is written into generated code and into messages. `Value.literal` shows a value so that
its kind can be told: a text stands between quotes, a list between brackets and an object between
braces. `Value.display` shows a text as it is and everything else as its literal. The absent value
is `None`, the truth values are `True` and `False`, and a number has the fewest digits that read
back.
-/

set_option autoImplicit false
set_option relaxedAutoImplicit false

namespace TypestateBuilders

/-- Numbers are written in full while the decimal point has between three zeros behind it and
sixteen digits in front of it; a whole number ends in `.0`; an exponent has at least two digits. -/
def numberLayout : Decimal.Layout :=
  ⟨-3, 16, ".0", 2⟩

namespace Value

mutual

/-- The text of a value from which its kind can be told. -/
def literal : Value → String
  | null => "None"
  | bool truth => if truth then "True" else "False"
  | int number => toString number
  | float number => numberLayout.floatText number
  | text characters => Text.quoted characters
  | list elements => "[" ++ ", ".intercalate (literals elements) ++ "]"
  | object members => "\x7b" ++ ", ".intercalate (memberLiterals members) ++ "\x7d"

/-- The literals of several values. -/
def literals : List Value → List String
  | [] => []
  | value :: rest => literal value :: literals rest

/-- The literals of the members of an object, with their names. -/
def memberLiterals : List (String × Value) → List String
  | [] => []
  | (name, value) :: rest => (Text.quoted name ++ ": " ++ literal value) :: memberLiterals rest

end

/-- The text of a value: a text is itself, and any other value is shown as its literal. -/
def display : Value → String
  | text characters => characters
  | value => value.literal

@[simp] theorem display_text (characters : String) : (text characters).display = characters := rfl

end Value

end TypestateBuilders
