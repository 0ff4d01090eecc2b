import TypestateBuilders.Files.Path
import TypestateBuilders.Text.Half

/-!
# Stored files

The files and directories that paths lead to, each at its place (`Store`). A place is reached by
steps, of which a double dot leads back (`Place.move`). What is put at a place replaces what was
there, and the directories on the way to it are made (`Store.put`).

A path is followed step by step: each step but the last must lead to a directory (`Store.find?`).
Nothing can be said about a path that is too long, or that names a step that is too long for a name
in an existing directory. Of what lies above the working directory only the directories that lead
down to it are known, and the root.
-/

set_option autoImplicit false
set_option relaxedAutoImplicit false

namespace TypestateBuilders.Files

/-- What a path leads to. -/
inductive Entry
  | file (content : ByteArray)
  | directory

/-- A place where a file or directory can be. -/
structure Place where
  /-- Whether it is reached from the root, and not from the working directory. -/
  fromRoot : Bool := false
  /-- The steps that lead to it, last first; double dots come only before all names. -/
  steps : List String := []
  deriving DecidableEq, Repr

namespace Place

/-- The place where a path starts. -/
def ofStart (start : Start) : Place where
  fromRoot := start ≠ .here

/-- The place one step further. Back from the root is the root itself. -/
def move (place : Place) (step : String) : Place :=
  if step = ".." then
    match place.steps with
    | [] => if place.fromRoot then place else { place with steps := [".."] }
    | last :: before =>
      { place with steps := if last = ".." then ".." :: last :: before else before }
  else { place with steps := step :: place.steps }

/-- Whether a place is the root, the working directory, or one of those that lead down to it. -/
def isAncestor (place : Place) : Bool :=
  place.steps.all (· == "..")

end Place

/-- Files and directories by their places; the first at a place counts. -/
abbrev Store := List (Place × Entry)

/-- What is found out about a path. -/
inductive Lookup
  /-- It leads nowhere. -/
  | nothing
  /-- It leads to a file or directory. -/
  | found (entry : Entry)
  /-- It is too long, or one of its steps is. -/
  | tooLong

/-- The most bytes of a step. -/
def maxStepBytes : Nat := 255

/-- The most bytes of a path. -/
def maxPathBytes : Nat := 4095

namespace Store

/-- What lies at a place. -/
def at? (store : Store) (place : Place) : Option Entry :=
  match store.lookup place with
  | some entry => some entry
  | none => if place.isAncestor then some .directory else none

/-- An entry at the end of some steps from a place, and the directories on the way to it. -/
def layOut (entry : Entry) (place : Place) : List String → Store
  | [] => [(place, entry)]
  | step :: rest => (place, .directory) :: layOut entry (place.move step) rest

/-- The store with an entry put where a path leads. -/
def put (store : Store) (path : Path) (entry : Entry) : Store :=
  layOut entry (.ofStart path.start) path.steps ++ store

/-- What the remaining steps lead to from a place. -/
def follow (store : Store) (place : Place) : List String → Lookup
  | [] => ((store.at? place).map Lookup.found).getD .nothing
  | step :: rest =>
    match store.at? place with
    | some .directory =>
      if maxStepBytes < Text.byteSize step then .tooLong else store.follow (place.move step) rest
    | _ => .nothing

/-- What a path leads to. No path has the character zero in it. -/
def find? (store : Store) (path : Path) : Lookup :=
  if path.steps.any (·.toList.contains '\x00') then .nothing
  else if maxPathBytes < Text.byteSize path.text then .tooLong
  else store.follow (.ofStart path.start) path.steps

end Store

/-- Characters with each of the line ends of other systems as a line feed. -/
def unifyLineEnds : List Char → List Char
  | '\r' :: '\n' :: rest => '\n' :: unifyLineEnds rest
  | '\r' :: rest => '\n' :: unifyLineEnds rest
  | c :: rest => c :: unifyLineEnds rest
  | [] => []

/-- The characters of a file, if its bytes are UTF-8. -/
def characters? (content : ByteArray) : Option (List Char) :=
  (String.fromUTF8? content).map fun text ↦ unifyLineEnds text.toList

end TypestateBuilders.Files
