import TypestateBuilders.Text.Blank

/-!
# Doc comments

A description becomes one `///` line per line of its text (`docLines`). Brackets are escaped, since
they would open links, and blank characters at the end of a line are dropped; a line that is blank
becomes a bare `///`.
-/

set_option autoImplicit false
set_option relaxedAutoImplicit false

namespace TypestateBuilders

namespace DocComment

/-- A line with a backslash in front of every bracket. -/
def escapeBrackets (line : List Char) : List Char :=
  line.flatMap fun c ↦ if c = '[' ∨ c = ']' then ['\\', c] else [c]

/-- The doc comment for one line of a description. -/
def encodeLine (line : List Char) : List Char :=
  match Text.trimRight (escapeBrackets line) with
  | [] => "///".toList
  | content => "/// ".toList ++ content

/-- The doc comment for a description, line by line. -/
def encode (description : List Char) : List (List Char) :=
  (description.splitOn '\n').map encodeLine

end DocComment

/-- The doc comment for a description, line by line; without a description there is none. -/
def docLines : Option String → List String
  | none => []
  | some description => (DocComment.encode description.toList).map String.ofList

end TypestateBuilders
