import TypestateBuilders.Text.NameChar
import TypestateBuilders.Value.Basic

/-!
# The log console

The one console that shows the reports of the library, and the level from which on it shows them.
Setting the console up again replaces the one before (`Console.configure`). It takes a format, which
must have a field in it, and a level, which is a number, the name of one, or a truth value that
stands for one. A bad format leaves no console, and a bad level leaves the new console at the level
of before.
-/

set_option autoImplicit false
set_option relaxedAutoImplicit false

namespace TypestateBuilders.Log

/-- A level from which on reports are shown. -/
inductive Threshold
  /-- A number. -/
  | number (value : Int)
  /-- A truth value in the place of the number one or zero. -/
  | truth (value : Bool)
  deriving DecidableEq, Repr

/-- The state of the console. -/
structure Console where
  /-- How many consoles are installed. -/
  handlers : Nat := 0
  /-- The level from which on reports are shown. -/
  level : Threshold := .number 0
  deriving DecidableEq, Repr

/-- Why a console is not set up. -/
inductive ConsoleError
  /-- The format has no field in it, or the level has no such name. -/
  | badValue
  /-- The level is neither a number nor a name. -/
  | badKind
  deriving DecidableEq, Repr

/-- The levels by name. -/
def namedLevels : List (String × Int) :=
  [("CRITICAL", 50), ("FATAL", 50), ("ERROR", 40), ("WARN", 30), ("WARNING", 30), ("INFO", 20),
    ("DEBUG", 10), ("NOTSET", 0)]

/-! ### Formats -/

/-- A width or precision: a star, or digits. -/
def skipSize : List Char → List Char
  | '*' :: rest => rest
  | rest => rest.dropWhile Text.isDecimal

/-- The letters of conversions, in either case: the small ones, and those that count as a form of
`i` or `s` when the case is left out of account. -/
def isConversion (c : Char) : Bool :=
  "diouxefgcrsa%ıİſ".toList.contains c.toLower

/-- Whether a text starts with what follows the name of a field: flags, a width, a precision behind
a point, and the letter of a conversion. -/
def startsConversion (cs : List Char) : Bool :=
  let afterWidth := skipSize (cs.dropWhile fun c ↦ "#0+ -".toList.contains c)
  let afterPrecision := match afterWidth with
    | '.' :: rest => if (skipSize rest).length < rest.length then skipSize rest else afterWidth
    | _ => afterWidth
  afterPrecision.head?.any isConversion

/-- Whether a text starts with a field: a percent sign, a name in brackets and a conversion. -/
def startsField : List Char → Bool
  | '%' :: '(' :: rest =>
    !(rest.takeWhile Text.isNameChar).isEmpty &&
      match rest.dropWhile Text.isNameChar with
      | ')' :: after => startsConversion after
      | _ => false
  | _ => false

/-- Whether a format has a field in it. -/
def hasField (format : List Char) : Bool :=
  match format with
  | [] => false
  | c :: rest => startsField (c :: rest) || hasField rest

/-! ### Setting up -/

/-- The format of a console that none is given for. -/
def defaultFormat : Value :=
  .text "%(name)s: %(message)s"

/-- The level of a console that none is given for. -/
def defaultLevel : Value :=
  .int 30

/-- The level that a value gives: a number, a truth value, or the name of a level. -/
def Threshold.ofValue : Value → Except ConsoleError Threshold
  | .int value => .ok (.number value)
  | .bool value => .ok (.truth value)
  | .text name =>
    match namedLevels.lookup name with
    | some value => .ok (.number value)
    | none => .error .badValue
  | _ => .error .badKind

/-- Whether a format can be used; one that is absent or empty can. -/
def checkFormat : Value → Except ConsoleError Unit
  | .text format =>
    if format = "" || hasField format.toList then .ok () else .error .badValue
  | format => if format.isTrue then .error .badKind else .ok ()

/-- The console after it has been set up with a level and a format, and whether that succeeded. -/
def Console.configure (console : Console) (level format : Value) :
    Console × Except ConsoleError Unit :=
  match checkFormat format with
  | .error error => ({ console with handlers := 0 }, .error error)
  | .ok () =>
    match Threshold.ofValue level with
    | .error error => ({ console with handlers := 1 }, .error error)
    | .ok threshold => ({ handlers := 1, level := threshold }, .ok ())

end TypestateBuilders.Log
