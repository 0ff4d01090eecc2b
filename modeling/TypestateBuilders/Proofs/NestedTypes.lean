import TypestateBuilders.Proofs.LeafRenderings

/-!
# Types as they are built

The types of a model are built of leaves by containers of sequences and maps (`NestedType`). Printed
as a path, such a type is read as the shape that it was built in (`NestedType.readAs_shape`). So
what the renderings make of the path can be said by recursion on the type: they find its leaf, they
print the type with another text in place of its leaf, and they convert under the same containers,
the outermost one first (`NestedType.renderings_follow_structure`).
-/

set_option autoImplicit false
set_option relaxedAutoImplicit false

namespace TypestateBuilders

open Naming

/-- A type as it is built: a leaf without brackets, in sequences and in maps, whose keys have
neither brackets nor commas. -/
inductive NestedType
  | leaf (path : String) (hpath : '<' ∉ path.toList)
  | vec (element : NestedType)
  | map (key : String) (hkey : '<' ∉ key.toList ∧ ',' ∉ key.toList) (value : NestedType)

namespace NestedType

/-- The leaf of a type. -/
def leafPath : NestedType → String
  | leaf path _ => path
  | vec element => element.leafPath
  | map _ _ value => value.leafPath

/-- The type printed with a text in place of its leaf. -/
def printWith (text : String) : NestedType → String
  | leaf _ _ => text
  | vec element => "Vec<" ++ element.printWith text ++ ">"
  | map key _ value =>
    "std::collections::BTreeMap<" ++ key ++ ", " ++ value.printWith text ++ ">"

/-- The type printed as a path. -/
def print (ty : NestedType) : String :=
  ty.printWith ty.leafPath

/-- The expression that converts what an expression stands for, level by level from the outermost
one to the leaf. -/
def convert (expression : String) : NestedType → String
  | leaf _ _ => expression ++ ".into()"
  | vec element =>
    expression ++ ".into_iter().map(|value| " ++ element.convert "value" ++ ").collect::<Vec<_>>()"
  | map _ _ value =>
    expression ++ ".into_iter().map(|(key, value)| (key, " ++ value.convert "value" ++
      ")).collect::<std::collections::BTreeMap<_, _>>()"

section

variable (text : String) {key : String} (hkey : '<' ∉ key.toList ∧ ',' ∉ key.toList)
  (inner : NestedType)

@[simp] theorem printWith_vec : inner.vec.printWith text = "Vec<" ++ inner.printWith text ++ ">" :=
  rfl

@[simp] theorem printWith_map : (map key hkey inner).printWith text =
    "std::collections::BTreeMap<" ++ key ++ ", " ++ inner.printWith text ++ ">" :=
  rfl

@[simp] theorem convert_vec : inner.vec.convert text =
    text ++ ".into_iter().map(|value| " ++ inner.convert "value" ++ ").collect::<Vec<_>>()" :=
  rfl

@[simp] theorem convert_map : (map key hkey inner).convert text =
    text ++ ".into_iter().map(|(key, value)| (key, " ++ inner.convert "value" ++
      ")).collect::<std::collections::BTreeMap<_, _>>()" :=
  rfl

end

/-- The shape that a type is built in. -/
def shape : NestedType → TypeShape
  | leaf path _ => .leaf path.toList
  | vec element => .vec vecName element.shape
  | map key _ value => .map mapName key.toList value.shape

theorem leafPath_shape (ty : NestedType) : ty.shape.leafPath = ty.leafPath.toList := by
  induction ty with
  | leaf path hpath => rfl
  | vec element ih => exact ih
  | map key hkey value ih => exact ih

theorem toList_vec (inside : String) :
    ("Vec<" ++ inside ++ ">").toList = TypeShape.generic vecName inside.toList := by
  have hopen : "Vec<".toList = vecName ++ ['<'] := by decide
  have hclose : ">".toList = ['>'] := by decide
  rw [String.toList_append, String.toList_append, hopen, hclose]
  simp only [TypeShape.generic, List.append_assoc, List.cons_append, List.nil_append]

theorem toList_map (key inside : String) :
    ("std::collections::BTreeMap<" ++ key ++ ", " ++ inside ++ ">").toList =
      TypeShape.generic mapName (key.toList ++ keySeparator ++ inside.toList) := by
  have hopen : "std::collections::BTreeMap<".toList = mapName ++ ['<'] := by decide
  have hseparator : ", ".toList = keySeparator := by decide
  have hclose : ">".toList = ['>'] := by decide
  rw [String.toList_append, String.toList_append, String.toList_append, String.toList_append,
    hopen, hseparator, hclose]
  simp only [TypeShape.generic, List.append_assoc, List.cons_append, List.nil_append]

/-- A type whose leaf is replaced is printed with the new leaf. -/
theorem chars_mapLeaf_shape (f : List Char → List Char) (ty : NestedType) :
    (ty.shape.mapLeaf f).chars =
      (ty.printWith (String.ofList (f ty.leafPath.toList))).toList := by
  induction ty with
  | leaf path hpath => exact String.toList_ofList.symm
  | vec element ih =>
    rw [printWith_vec, toList_vec, leafPath, ← ih]
    rfl
  | map key hkey value ih =>
    rw [printWith_map, toList_map, leafPath, ← ih]
    simp only [shape, TypeShape.mapLeaf, TypeShape.chars, TypeShape.generic, List.append_assoc,
      List.cons_append]

theorem ofList_mapLeaf_shape (f : List Char → List Char) (ty : NestedType) :
    String.ofList (ty.shape.mapLeaf f).chars =
      ty.printWith (String.ofList (f ty.leafPath.toList)) := by
  rw [chars_mapLeaf_shape, String.ofList_toList]

/-- Types are converted as their shapes are. -/
theorem conversion_shape (ty : NestedType) (expression : String) :
    ty.shape.conversion expression = ty.convert expression := by
  have hvec : ").collect::<" ++ (String.ofList vecName ++ "<_>>()") = ").collect::<Vec<_>>()" := by
    decide
  have hmap : ")).collect::<" ++ (String.ofList mapName ++ "<_, _>>()") =
      ")).collect::<std::collections::BTreeMap<_, _>>()" := by
    decide
  induction ty generalizing expression with
  | leaf path hpath => rfl
  | vec element ih =>
    rw [shape, TypeShape.conversion, ih, convert_vec, ← hvec]
    simp only [String.append_assoc]
  | map key hkey value ih =>
    rw [shape, TypeShape.conversion, ih, convert_map, ← hmap]
    simp only [String.append_assoc]

/-- A type that is printed as a path is read as the shape that it is built in. -/
theorem readAs_shape (ty : NestedType) : TypeShape.ReadAs ty.print.toList ty.shape := by
  induction ty with
  | leaf path hpath => exact .leaf hpath
  | vec element ih =>
    rw [print, printWith_vec, toList_vec]
    exact .vec (by decide) (List.suffix_refl vecName) ih
  | map key hkey value ih =>
    rw [print, printWith_map, toList_map]
    refine .map (by decide) (List.suffix_refl mapName) (fun hseparator ↦ hkey.2 ?_) ih
    exact hseparator.subset List.mem_cons_self

theorem ofText_print (ty : NestedType) : TypeShape.ofText ty.print = .ok ty.shape :=
  TypeShape.ofChars_of_readAs ty.readAs_shape

/-! ### Leaves -/

theorem ofList_leafWithAny (slot leaf : String) :
    String.ofList (leafWithAny slot.toList leaf.toList) =
      if leaf = anyParameter then slot
      else if isSimpleType leaf then leaf
      else leaf ++ "<" ++ slot ++ ">" := by
  have hbrackets : String.ofList (leaf.toList ++ '<' :: slot.toList ++ ['>']) =
      leaf ++ "<" ++ slot ++ ">" := by
    rw [← String.toList_inj, String.toList_ofList]
    simp only [String.toList_append, List.append_assoc]
    rfl
  simp only [leafWithAny, String.toList_inj, hbrackets, apply_ite String.ofList,
    String.ofList_toList]
  rfl

theorem ofList_builderPath (helpers leaf : String) (childFields : List String)
    (anyValue : Option String) :
    String.ofList (leaf.toList ++
        ("Builder" ++ angled (childArguments helpers childFields anyValue)).toList) =
      leaf ++ "Builder<" ++ ", ".intercalate
        (childFields.map (fun name ↦ helpers ++ "generics::" ++ markerIdent name ++ "Exists") ++
          anyValue.toList.filter (· ≠ "")) ++ ">" := by
  have hopen : "Builder<" = "Builder" ++ "<" := by decide
  simp only [String.ofList_append, String.ofList_toList, angled, childArguments, genericsPath,
    existsName, hopen, String.append_assoc]

/-- The renderings of the path that a type is printed as follow the structure of the type. Its leaf
is found. The slot for dynamically typed values is put in at the leaf: in place of the slot itself,
not at all if the leaf is no object of the generated crate, and as the argument of the leaf
otherwise. Builders are named at the leaf, with one argument for each required field of the child
and one for the slot unless it is absent or empty. And the value is converted under the same
containers. -/
theorem renderings_follow_structure (ty : NestedType) (helpers slot expression : String)
    (childFields : List String) (anyValue : Option String) :
    leafType ty.print = .ok ty.leafPath ∧
    withAnyGeneric ty.print slot = .ok (ty.printWith
      (if ty.leafPath = anyParameter then slot
      else if isSimpleType ty.leafPath then ty.leafPath
      else ty.leafPath ++ "<" ++ slot ++ ">")) ∧
    childBuilderType helpers ty.print childFields anyValue = .ok (ty.printWith
      (ty.leafPath ++ "Builder<" ++ ", ".intercalate
        (childFields.map (fun name ↦ helpers ++ "generics::" ++ markerIdent name ++ "Exists") ++
          anyValue.toList.filter (· ≠ "")) ++ ">")) ∧
    convertValue ty.print expression = .ok (ty.convert expression) := by
  refine ⟨?_, ?_, ?_, ?_⟩
  · rw [leafType_eq, ofText_print, Except.map, leafPath_shape, String.ofList_toList]
  · rw [withAnyGeneric_eq, ofText_print, Except.map, ofList_mapLeaf_shape, ofList_leafWithAny]
  · rw [childBuilderType_eq, ofText_print, Except.map, ofList_mapLeaf_shape, ofList_builderPath]
  · rw [convertValue_eq, ofText_print, Except.map, conversion_shape]

example : (vec (map "String" (by decide) (leaf "crate::pet::Pet" (by decide)))).print =
    "Vec<std::collections::BTreeMap<String, crate::pet::Pet>>" := by
  decide

end NestedType

end TypestateBuilders
