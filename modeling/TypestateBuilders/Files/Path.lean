import TypestateBuilders.Text.Lowercase

/-!
# File paths

A path is a row of steps from the place where it starts: the working directory, or a root. Empty
steps and single dots do not count, so `./a//b/` is the path `a/b`; a double dot stays, since it is
followed only when a file is looked up. One slash in front starts at the root, and so do three or
more, but exactly two are a root of their own (`Start.ofText`). The suffix of a file name is what
follows its last dot, together with the dot, unless the dot is the first or the last character of
the name (`suffix`).
-/

set_option autoImplicit false
set_option relaxedAutoImplicit false

namespace TypestateBuilders.Files

/-- Where a path starts. -/
inductive Start
  /-- The working directory. -/
  | here
  /-- The root. -/
  | root
  /-- The root that is written with two slashes. -/
  | doubleRoot
  deriving DecidableEq, Repr

namespace Start

/-- The start that the slashes in front of a text name. -/
def ofText (text : List Char) : Start :=
  match (text.takeWhile (· = '/')).length with
  | 0 => here
  | 2 => doubleRoot
  | _ => root

/-- The slashes that name a start. -/
def text : Start → String
  | here => ""
  | root => "/"
  | doubleRoot => "//"

end Start

/-- A path. -/
structure Path where
  /-- Where the path starts. -/
  start : Start
  /-- The steps of the path. -/
  steps : List String
  deriving DecidableEq, Repr

namespace Path

/-- The path that a text describes. -/
def ofText (text : String) : Path where
  start := .ofText text.toList
  steps := ((text.toList.splitOn '/').filter fun step ↦ step ≠ [] ∧ step ≠ ['.']).map String.ofList

/-- The text of a path; the working directory itself is a single dot. -/
def text (path : Path) : String :=
  if path.start = .here ∧ path.steps = [] then "."
  else path.start.text ++ "/".intercalate path.steps

/-- The last dot of a file name and what follows it, or nothing when that dot is the first or the
last character of the name. -/
def suffixOf (name : List Char) : List Char :=
  let ending := (name.reverse.takeWhile (· ≠ '.')).reverse
  if ending.length + 1 < name.length ∧ 0 < ending.length then '.' :: ending else []

/-- The suffix of the file that a path leads to. -/
def suffix (path : Path) : String :=
  String.ofList (suffixOf ((path.steps.getLast?.getD "").toList))

/-- Whether a path leads to a file of JSON, by its suffix in whatever case. -/
def isJson (path : Path) : Bool :=
  Text.lowercase path.suffix == ".json"

end Path

end TypestateBuilders.Files
