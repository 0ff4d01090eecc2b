import TypestateBuilders.Decimal.Shortest
import TypestateBuilders.Json.Printer
import TypestateBuilders.Keyed

/-!
# Contents under names of any kind

Whoever gives settings may name them by values that are no texts. A number is one name in whatever
kind it is given, so `1`, `1.0` and `true` are the same name (`NameKey.ofValue`). A `Named` table
holds one content for each name. The content of a name is the last one that was put in
(`Named.content?_put`), and its text is the one under which it first came in (`Named.put`), from
whatever layer of settings that was (`Named.putAll`).
-/

set_option autoImplicit false
set_option relaxedAutoImplicit false

namespace TypestateBuilders.Settings

/-- What a name is compared by. -/
inductive NameKey
  /-- A text, by its characters. -/
  | text (characters : String)
  /-- A whole number, by itself. -/
  | whole (number : Int)
  /-- Anything else, by how it is written. -/
  | written (characters : String)
  deriving DecidableEq, Repr

/-- What a value is compared by where it is a name: a truth value counts as zero or one. -/
def NameKey.ofValue : Value → NameKey
  | .text characters => .text characters
  | .bool truth => .whole (if truth then 1 else 0)
  | .int number => .whole number
  | .float number =>
    match Decimal.wholeOf? number with
    | some integer => .whole integer
    | none => .written (Json.print (.float number))
  | name => .written (Json.print name)

/-- The text of a name. -/
def nameText : Value → String
  | .text name => name
  | name => Json.print name

/-- One content for each name, with the text of the name. -/
abbrev Named := List (NameKey × String × Value)

namespace Named

/-- The content under a name. -/
def content? (key : NameKey) (named : Named) : Option Value :=
  (Keyed.get? key named).map Prod.snd

/-- The table with a content under a name, which keeps its text if it is present. -/
def put (key : NameKey) (text : String) (content : Value) (named : Named) : Named :=
  Keyed.put key (((Keyed.get? key named).map Prod.fst).getD text, content) named

/-- The table with the contents of another one on top. -/
def putAll (named above : Named) : Named :=
  above.foldl (fun table (key, text, content) ↦ table.put key text content) named

/-- The table of an object's members. -/
def ofObject (members : List (String × Value)) : Named :=
  members.map fun (name, content) ↦ (.text name, name, content)

/-- The table that pairs of a name and a content describe. -/
def ofPairs (pairs : List (Value × Value)) : Named :=
  pairs.foldl (fun table (name, content) ↦ table.put (.ofValue name) (nameText name) content) []

/-- The members of the object that a table makes. -/
def entries (named : Named) : List (String × Value) :=
  named.map Prod.snd

@[simp] theorem entries_ofObject (members : List (String × Value)) :
    (ofObject members).entries = members := by
  simp [entries, ofObject, Function.comp_def]

theorem content?_put (key other : NameKey) (text : String) (content : Value) (named : Named) :
    (named.put key text content).content? other =
      if key = other then some content else named.content? other := by
  simp only [content?, put, Keyed.get?_put]
  split <;> rfl

end Named

end TypestateBuilders.Settings
