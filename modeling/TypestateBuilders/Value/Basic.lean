import TypestateBuilders.Keyed
import TypestateBuilders.Text.Half

/-!
# Values

Settings and the contexts of templates hold data whose kind is known only when it is used: texts,
truth values, numbers, lists, objects with named members, or nothing at all. A `Value` is one such
datum. The members of an object keep the order in which they were given.

Where a truth value is asked for, any value will do (`Value.isTrue`): nothing, zero and empty texts,
lists and objects are false, and everything else is true. Where a list is asked for, a text gives
its signs and an object its member names (`Value.elements?`).
-/

set_option autoImplicit false
set_option relaxedAutoImplicit false

namespace TypestateBuilders

/-- A datum whose kind is known only when it is used. -/
inductive Value
  | null
  | bool (truth : Bool)
  | int (number : Int)
  | float (number : Float)
  | text (characters : String)
  | list (elements : List Value)
  | object (members : List (String × Value))
  deriving Repr, Inhabited

namespace Value

/-- The truth of a value: nothing, zero and whatever is empty are false. -/
def isTrue : Value → Bool
  | null => false
  | bool truth => truth
  | int number => number ≠ 0
  | float number => number != 0.0
  | text characters => !characters.isEmpty
  | list elements => !elements.isEmpty
  | object members => !members.isEmpty

/-- Whether a value is a number above zero; the truth value that is true counts as one. -/
def isPositive : Value → Bool
  | bool truth => truth
  | int number => 0 < number
  | float number => 0.0 < number
  | _ => false

/-- The name of a value's kind, as messages show it. -/
def kindName : Value → String
  | null => "NoneType"
  | bool _ => "bool"
  | int _ => "int"
  | float _ => "float"
  | text _ => "str"
  | list _ => "list"
  | object _ => "dict"

/-- The elements of a value that can be gone through: of a list its elements, of a text its signs,
of an object the names of its members. -/
def elements? : Value → Option (List Value)
  | text characters => some ((Text.signsOf characters).map fun sign ↦ text (Text.ofSigns [sign]))
  | list elements => some elements
  | object members => some (members.map fun member ↦ text member.1)
  | _ => none

/-- The member of an object with a given name. -/
def member? (name : String) : Value → Option Value
  | object members => Keyed.get? name members
  | _ => none

/-- A list of texts as a value. -/
def ofTexts (texts : List String) : Value :=
  list (texts.map text)

/-- A text or nothing as a value. -/
def ofText? : Option String → Value
  | none => null
  | some characters => text characters

end Value

end TypestateBuilders
