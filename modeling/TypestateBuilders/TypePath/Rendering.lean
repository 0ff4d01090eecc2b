import TypestateBuilders.TypePath.Level
import TypestateBuilders.Naming.Identifier
import TypestateBuilders.Model.Operation

/-!
# Types in generated code

What becomes of the type paths of a model in generated code. Four of the renderings go down a type,
level by level, to its leaf: putting a value for the dynamically typed slot (`withAnyGeneric`),
naming the finished builders of the leaf (`childBuilderType`), converting such builders
(`convertValue`) and the leaf itself (`leafType`). Each of them takes its own way down. At a level
all of them ask `splitGeneric`, `containerKind` and `mapEntry`, and end with the fault that one of
these finds.

Array parameters are sent in a collection format per level of nesting (`wrapDelimited`). They stay
as they are exactly if there is no array (`wrapDelimited_eq_self_iff`).
-/

set_option autoImplicit false
set_option relaxedAutoImplicit false

namespace TypestateBuilders

open Naming

/-- The path of a type parameter that holds a file. -/
def pathBuf : String :=
  "std::path::PathBuf"

/-- Whether a type path is not an object of the generated crate. -/
def isSimplePath (ty : List Char) : Bool :=
  (Text.cutAt "::".toList ty).isNone || "Delimited".toList.isSuffixOf ty

/-- Whether a type is not an object of the generated crate. -/
def isSimpleType (ty : String) : Bool :=
  isSimplePath ty.toList

/-- Arguments between angle brackets, separated by commas. -/
def angled (arguments : List String) : String :=
  "<" ++ ", ".intercalate arguments ++ ">"

/-! ### Down to the leaf -/

/-- The leaf with a value for the dynamically typed slot: the slot itself becomes the value, and an
object type takes it as its argument. -/
def leafWithAny (anyValue leaf : List Char) : List Char :=
  if leaf = anyParameter.toList then anyValue
  else if isSimplePath leaf then leaf
  else leaf ++ '<' :: anyValue ++ ['>']

/-- The type with `anyValue` put for the dynamically typed slot. -/
def withAnyGeneric (ty anyValue : String) : Except TypeFault String := do
  let some parts ← splitGeneric ty
    | return String.ofList (leafWithAny anyValue.toList ty.toList)
  match ← containerKind ty parts.head with
  | .vec =>
    let inner ← withAnyGeneric parts.inside anyValue
    return parts.head ++ "<" ++ inner ++ ">"
  | .map =>
    let entry ← mapEntry ty parts.inside
    let inner ← withAnyGeneric entry.value anyValue
    return parts.head ++ "<" ++ entry.key ++ ", " ++ inner ++ ">"
termination_by ty.length
decreasing_by
  · exact parts.shorter
  · exact Nat.lt_trans entry.shorter parts.shorter

/-- The name of the marker type for a property that is set. -/
def existsName (marker : String) : String :=
  marker ++ "Exists"

/-- The name of the marker type for a property that is not set yet. -/
def missingName (marker : String) : String :=
  "Missing" ++ marker

/-- Where the marker types are found. -/
def genericsPath (helpers : String) : String :=
  helpers ++ "generics::"

/-- The arguments of a finished child builder: one marker per required field of the child, and the
value of the dynamically typed slot, unless it is absent or empty. -/
def childArguments (helpers : String) (childFields : List String) (anyValue : Option String) :
    List String :=
  childFields.map (fun name ↦ genericsPath helpers ++ existsName (markerIdent name)) ++
    anyValue.toList.filter (· ≠ "")

/-- The type that takes finished builders of the leaf in place of the leaf. -/
def childBuilderType (helpers ty : String) (childFields : List String)
    (anyValue : Option String) : Except TypeFault String := do
  let some parts ← splitGeneric ty
    | return ty ++ "Builder" ++ angled (childArguments helpers childFields anyValue)
  match ← containerKind ty parts.head with
  | .vec =>
    let inner ← childBuilderType helpers parts.inside childFields anyValue
    return parts.head ++ "<" ++ inner ++ ">"
  | .map =>
    let entry ← mapEntry ty parts.inside
    let inner ← childBuilderType helpers entry.value childFields anyValue
    return parts.head ++ "<" ++ entry.key ++ ", " ++ inner ++ ">"
termination_by ty.length
decreasing_by
  · exact parts.shorter
  · exact Nat.lt_trans entry.shorter parts.shorter

/-- The expression that turns a value of the type `childBuilderType` gives into one of type `ty`. -/
def convertValue (ty expression : String) : Except TypeFault String := do
  let some parts ← splitGeneric ty | return expression ++ ".into()"
  match ← containerKind ty parts.head with
  | .vec =>
    let inner ← convertValue parts.inside "value"
    return expression ++ ".into_iter().map(|value| " ++ inner ++ ").collect::<" ++ parts.head ++
      "<_>>()"
  | .map =>
    let entry ← mapEntry ty parts.inside
    let inner ← convertValue entry.value "value"
    return expression ++ ".into_iter().map(|(key, value)| (key, " ++ inner ++ ")).collect::<" ++
      parts.head ++ "<_, _>>()"
termination_by ty.length
decreasing_by
  · exact parts.shorter
  · exact Nat.lt_trans entry.shorter parts.shorter

/-- The type that is left when all containers are taken off. -/
def leafType (ty : String) : Except TypeFault String := do
  let some parts ← splitGeneric ty | return ty
  match ← containerKind ty parts.head with
  | .vec => leafType parts.inside
  | .map =>
    let entry ← mapEntry ty parts.inside
    leafType entry.value
termination_by ty.length
decreasing_by
  · exact parts.shorter
  · exact Nat.lt_trans entry.shorter parts.shorter

/-- The slot itself and types of no object stay when the slot stands for its own value. -/
theorem leafWithAny_anyParameter_eq_iff {leaf : List Char} :
    leafWithAny anyParameter.toList leaf = leaf ↔ isSimplePath leaf = true := by
  rw [leafWithAny]
  by_cases hslot : leaf = anyParameter.toList
  · rw [if_pos hslot, hslot]
    exact iff_of_true rfl (by decide)
  · rw [if_neg hslot]
    split
    · rename_i hsimple
      exact iff_of_true rfl hsimple
    · rename_i hobject
      refine iff_of_false (fun hsame ↦ ?_) hobject
      have hlength := congrArg List.length hsame
      simp only [List.length_append, List.length_cons] at hlength
      omega

/-! ### Delimited parameters -/

/-- The type with the format of each level written in front of the level's closing bracket, for
formats that are listed innermost first. -/
def closeLevels (helpers : List Char) : List CollectionFormat → List Char → List Char
  | [], ty => ty
  | format :: formats, ty =>
    ty.takeWhile (· ≠ '>') ++ ", ".toList ++ helpers ++ "util::".toList ++ format.name.toList ++
      '>' :: closeLevels helpers formats ((ty.dropWhile (· ≠ '>')).drop 1)

/-- An array type with each of its levels sent in a format, outermost first. A type that is no array
stays as it is, and the formats must be as many as the levels. -/
def wrapDelimited (helpers ty : String) (delimiting : List CollectionFormat) :
    Except TypeFault String :=
  if (Text.cutAt vecName ty.toList).isNone then .ok ty
  else if ty.toList.count '>' ≠ delimiting.length then
    .error (.delimiterCount ty (ty.toList.count '>') delimiting.length)
  else
    let opened := Text.replaceAll vecName (helpers ++ "util::Delimited").toList ty.toList
    .ok (String.ofList (closeLevels helpers.toList delimiting.reverse opened))

/-- Writing formats into a type makes it no shorter. -/
theorem length_le_length_closeLevels (helpers : List Char) (formats : List CollectionFormat)
    (ty : List Char) : ty.length ≤ (closeLevels helpers formats ty).length := by
  induction formats generalizing ty with
  | nil => exact Nat.le_refl _
  | cons format formats ih =>
    have hsplit := congrArg List.length (List.takeWhile_append_dropWhile (p := (· ≠ '>')) (l := ty))
    have hrest := ih ((ty.dropWhile (· ≠ '>')).drop 1)
    rw [List.length_append] at hsplit
    rw [List.length_drop] at hrest
    rw [closeLevels]
    simp only [List.length_append, List.length_cons]
    omega

/-- A type stays as it is in requests exactly when it is no array. -/
theorem wrapDelimited_eq_self_iff {helpers ty : String} {delimiting : List CollectionFormat} :
    wrapDelimited helpers ty delimiting = .ok ty ↔ ¬ vecName <:+: ty.toList := by
  rw [← Text.cutAt_eq_none_iff, ← Option.isNone_iff_eq_none, wrapDelimited]
  by_cases hplain : (Text.cutAt vecName ty.toList).isNone = true
  · rw [if_pos hplain]
    exact iff_of_true rfl hplain
  · rw [if_neg hplain]
    refine iff_of_false (fun hsame ↦ ?_) hplain
    rw [Option.isNone_iff_eq_none, Text.cutAt_eq_none_iff, Classical.not_not] at hplain
    split at hsame
    · cases hsame
    · -- Each occurrence of the array's name gets longer, and no level gets shorter.
      have hlength : vecName.length < (helpers ++ "util::Delimited").toList.length := by
        rw [String.toList_append, List.length_append]
        have hname : vecName.length < "util::Delimited".toList.length := by decide
        omega
      have hopened := Text.length_lt_length_replaceAll (by decide) hlength hplain
      have hclosed := length_le_length_closeLevels helpers.toList delimiting.reverse
        (Text.replaceAll vecName (helpers ++ "util::Delimited").toList ty.toList)
      have hchars := congrArg String.toList (Except.ok.inj hsame)
      rw [String.toList_ofList] at hchars
      rw [hchars] at hclosed
      omega

/-! ### Stored types -/

/-- The type of a field in the struct of its object, before it is boxed or made optional. -/
def fieldType (ty : String) (needsAny : Bool) : Except TypeFault String :=
  if ty = fileMarker then .ok pathBuf
  else if needsAny then withAnyGeneric ty anyParameter
  else .ok ty

/-- The type in which a builder keeps a parameter, before it is made optional. -/
def paramType (helpers ty : String) (delimiting : List CollectionFormat) (needsFile : Bool) :
    Except TypeFault String :=
  if needsFile then .ok pathBuf else wrapDelimited helpers ty delimiting

end TypestateBuilders
