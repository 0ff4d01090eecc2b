import TypestateBuilders.Text.Quoted
import TypestateBuilders.Text.Search

/-!
# One level of a type path

The types of a model arrive as Rust type paths. Containers come in two kinds, `Vec<element>` and
`std::collections::BTreeMap<key, value>`, nested to any depth; what is left when all containers are
taken off is the leaf.

A path is taken apart one level at a time. `splitGeneric` finds the outermost brackets,
`containerKind` tells the container by the head in front of them, and `mapEntry` finds the key and
the value of a map. Each of them refuses what it cannot take apart (`TypeFault`): a path that is not
closed, a generic type that is no container, and a map without a value. The parts that they give say
where they stand in the path (`GenericParts`, `MapEntry`), and so they are shorter than it.
-/

set_option autoImplicit false
set_option relaxedAutoImplicit false

namespace TypestateBuilders

/-- Why the types of a model cannot be rendered. -/
inductive TypeFault
  | unclosed (ty : String)
  | mapWithoutValue (ty : String)
  | unknownContainer (ty : String)
  | delimiterCount (ty : String) (depth delimiters : Nat)
  deriving DecidableEq, Repr

/-- The name of the container of sequences. -/
def vecName : List Char :=
  "Vec".toList

/-- The name of the container of maps. -/
def mapName : List Char :=
  "std::collections::BTreeMap".toList

/-- What separates the key of a map from its value. -/
def keySeparator : List Char :=
  [',', ' ']

/-- What is said of a type that cannot be rendered. -/
def TypeFault.message : TypeFault → String
  | .unclosed ty => "Malformed generic type: " ++ Text.quoted ty
  | .mapWithoutValue ty => "Map type without key and value: " ++ Text.quoted ty
  | .unknownContainer ty =>
    "Unexpected generic type " ++ Text.quoted ty ++ ": only " ++ String.ofList vecName ++ " and " ++
      String.ofList mapName ++ " are supported"
  | .delimiterCount ty depth delimiters =>
    "Type " ++ Text.quoted ty ++ " has " ++ toString depth ++ " level(s) of nesting but " ++
      toString delimiters ++ " delimiter(s)"

/-! ### Brackets -/

/-- The parts of a generic type: its head, which ends at the first bracket, and what stands between
its brackets. -/
structure GenericParts (ty : String) where
  head : String
  inside : String
  bare : '<' ∉ head.toList
  eq : ty = head ++ "<" ++ inside ++ ">"

theorem GenericParts.shorter {ty : String} (parts : GenericParts ty) :
    parts.inside.length < ty.length := by
  have hlength := congrArg String.length parts.eq
  have hopen : "<".length = 1 := rfl
  have hclose : ">".length = 1 := rfl
  simp only [String.length_append] at hlength
  omega

/-- What stands behind an opening bracket ends in the closing one if the whole path does. -/
theorem eq_dropLast_append_of_close {head rest : List Char}
    (hclose : (head ++ ['<'] ++ rest).getLast? = some '>') : rest = rest.dropLast ++ ['>'] := by
  rcases List.eq_nil_or_concat rest with rfl | ⟨front, last, rfl⟩
  · rw [List.append_nil, List.getLast?_concat] at hclose
    cases hclose
  · rw [List.concat_eq_append, ← List.append_assoc, List.getLast?_concat] at hclose
    rw [List.concat_eq_append, List.dropLast_concat, Option.some.inj hclose]

/-- The parts of a path that is cut at its first bracket and ends in a closing one. -/
def GenericParts.ofCut {ty : String} {head rest : List Char}
    (hcut : Text.cutAt ['<'] ty.toList = some (head, rest))
    (hclose : ty.toList.getLast? = some '>') : GenericParts ty where
  head := String.ofList head
  inside := String.ofList rest.dropLast
  bare := by
    rw [String.toList_ofList]
    exact Text.notMem_of_cutAt hcut
  eq := by
    have hty := Text.eq_append_of_cutAt hcut
    rw [hty] at hclose
    rw [← String.toList_inj, hty, eq_dropLast_append_of_close hclose]
    simp

/-- The parts of a generic type. A type without brackets has none. -/
def splitGeneric (ty : String) : Except TypeFault (Option (GenericParts ty)) :=
  match hcut : Text.cutAt ['<'] ty.toList with
  | none => .ok none
  | some (_, _) =>
    if hclose : ty.toList.getLast? = some '>' then .ok (some (.ofCut hcut hclose))
    else .error (.unclosed ty)

/-! ### Containers -/

/-- The containers that a model knows. -/
inductive ContainerKind
  | vec
  | map
  deriving DecidableEq, Repr

/-- The container that a generic type is, by the name that its head ends in. -/
def containerKind (ty head : String) : Except TypeFault ContainerKind :=
  if mapName.isSuffixOf head.toList then .ok .map
  else if vecName.isSuffixOf head.toList then .ok .vec
  else .error (.unknownContainer ty)

/-- The key and the value of a map. The key ends at the first separator. -/
structure MapEntry (inside : String) where
  key : String
  value : String
  first : ¬ keySeparator <:+: key.toList
  eq : inside = key ++ ", " ++ value

theorem MapEntry.shorter {inside : String} (entry : MapEntry inside) :
    entry.value.length < inside.length := by
  have hlength := congrArg String.length entry.eq
  have hseparator : ", ".length = 2 := rfl
  simp only [String.length_append] at hlength
  omega

/-- The key and the value of what is cut at its first separator. -/
def MapEntry.ofCut {inside : String} {key value : List Char}
    (hcut : Text.cutAt keySeparator inside.toList = some (key, value)) : MapEntry inside where
  key := String.ofList key
  value := String.ofList value
  first := by
    rw [String.toList_ofList]
    have hfirst := ((Text.cutAt_eq_some_iff (by decide)).mp hcut).2
    exact fun hkey ↦ hfirst (List.infix_append_of_infix_left hkey)
  eq := by
    rw [← String.toList_inj, Text.eq_append_of_cutAt hcut]
    simp [keySeparator]

/-- The key and the value of a map type, of which `inside` stands between the brackets. -/
def mapEntry (ty inside : String) : Except TypeFault (MapEntry inside) :=
  match hcut : Text.cutAt keySeparator inside.toList with
  | none => .error (.mapWithoutValue ty)
  | some (_, _) => .ok (.ofCut hcut)

end TypestateBuilders
