import TypestateBuilders.TypePath.Level

/-!
# The shape of a type path

A type path as a whole, taken apart at its containers down to the leaf (`TypeShape`).
`TypeShape.ofChars` finds the shape of a path, and refuses a path that is not closed, a map without
a value, and any other generic type. `TypeShape.chars` writes the shape down again, and gives back
the path that was read (`TypeShape.chars_of_ofChars`).

The renderings of a type look for no shape, but take one level after the other. What each of them
makes of a path is what it makes of the shape.
-/

set_option autoImplicit false
set_option relaxedAutoImplicit false

namespace TypestateBuilders

/-- A type path taken apart at its containers. The head of a container is its path as written, which
may be longer than the container's name. -/
inductive TypeShape
  | leaf (path : List Char)
  | vec (head : List Char) (element : TypeShape)
  | map (head key : List Char) (value : TypeShape)
  deriving DecidableEq, Repr

namespace TypeShape

/-- The shape of a type path. -/
def ofChars (ty : List Char) : Except TypeFault TypeShape :=
  match _hopen : ty.dropWhile (· ≠ '<') with
  | [] => .ok (.leaf ty)
  | _ :: inside =>
    if inside.getLast? ≠ some '>' then .error (.unclosed (String.ofList ty))
    else if mapName.isSuffixOf (ty.takeWhile (· ≠ '<')) then
      match _hcut : Text.cutAt keySeparator inside.dropLast with
      | none => .error (.mapWithoutValue (String.ofList ty))
      | some (key, value) => (ofChars value).map (.map (ty.takeWhile (· ≠ '<')) key)
    else if vecName.isSuffixOf (ty.takeWhile (· ≠ '<')) then
      (ofChars inside.dropLast).map (.vec (ty.takeWhile (· ≠ '<')))
    else .error (.unknownContainer (String.ofList ty))
termination_by ty.length
decreasing_by
  all_goals
    have hlength := (List.dropWhile_suffix (l := ty) (· ≠ '<')).length_le
    rw [_hopen, List.length_cons] at hlength
  · have hparts := congrArg List.length (Text.eq_append_of_cutAt _hcut)
    simp only [List.length_dropLast, List.length_append] at hparts
    omega
  · rw [List.length_dropLast]
    omega

/-- The shape of a type path given as a text. -/
def ofText (ty : String) : Except TypeFault TypeShape :=
  ofChars ty.toList

/-- The type path of a shape. -/
def chars : TypeShape → List Char
  | leaf path => path
  | vec head element => head ++ '<' :: element.chars ++ ['>']
  | map head key value => head ++ '<' :: key ++ keySeparator ++ value.chars ++ ['>']

/-- A generic type is its head and what stands between its brackets. -/
theorem eq_head_append_inside {ty inside : List Char} {c : Char}
    (hopen : ty.dropWhile (· ≠ '<') = c :: inside) (hclose : inside.getLast? = some '>') :
    ty = ty.takeWhile (· ≠ '<') ++ '<' :: inside.dropLast ++ ['>'] := by
  have hc : c = '<' := by
    have hhead := List.head?_dropWhile_not (· ≠ '<') ty
    rw [hopen] at hhead
    simpa using hhead
  have hinside : inside = inside.dropLast ++ ['>'] := by
    obtain ⟨front, rfl⟩ := List.getLast?_eq_some_iff.mp hclose
    simp
  calc ty = ty.takeWhile (· ≠ '<') ++ ty.dropWhile (· ≠ '<') :=
        List.takeWhile_append_dropWhile.symm
    _ = ty.takeWhile (· ≠ '<') ++ '<' :: (inside.dropLast ++ ['>']) := by rw [← hinside, hopen, hc]
    _ = ty.takeWhile (· ≠ '<') ++ '<' :: inside.dropLast ++ ['>'] := by simp

/-- A path that was taken apart is the path of its shape. -/
theorem chars_of_ofChars {ty : List Char} {shape : TypeShape} (h : ofChars ty = .ok shape) :
    shape.chars = ty := by
  fun_induction ofChars ty generalizing shape with
  | case1 ty hopen =>
    cases h
    rfl
  | case2 => cases h
  | case3 => cases h
  | case4 ty c inside hopen hclose hmap key value hcut ih =>
    cases hvalue : ofChars value with
    | error fault => rw [hvalue] at h; cases h
    | ok inner =>
      rw [hvalue] at h
      cases h
      have hclosed : inside.getLast? = some '>' := by simpa using hclose
      have hparts := Text.eq_append_of_cutAt hcut
      rw [chars, ih hvalue]
      refine Eq.trans ?_ (eq_head_append_inside hopen hclosed).symm
      rw [hparts]
      simp
  | case5 ty c inside hopen hclose hmap hvec ih =>
    cases hvalue : ofChars inside.dropLast with
    | error fault => rw [hvalue] at h; cases h
    | ok inner =>
      rw [hvalue] at h
      cases h
      have hclosed : inside.getLast? = some '>' := by simpa using hclose
      rw [chars, ih hvalue]
      exact (eq_head_append_inside hopen hclosed).symm
  | case6 => cases h

/-- The leaf of a type: what is left when all containers are taken off. -/
def leafPath : TypeShape → List Char
  | leaf path => path
  | vec _ element => element.leafPath
  | map _ _ value => value.leafPath

/-- The shape with its leaf replaced. -/
def mapLeaf (f : List Char → List Char) : TypeShape → TypeShape
  | leaf path => leaf (f path)
  | vec head element => vec head (element.mapLeaf f)
  | map head key value => map head key (value.mapLeaf f)

/-- The expression that turns finished builders of the leaf into the leaf, in all containers. -/
def conversion : TypeShape → String → String
  | leaf _, expression => expression ++ ".into()"
  | vec head element, expression =>
    expression ++ ".into_iter().map(|value| " ++ element.conversion "value" ++ ").collect::<" ++
      String.ofList head ++ "<_>>()"
  | map head _ value, expression =>
    expression ++ ".into_iter().map(|(key, value)| (key, " ++ value.conversion "value" ++
      ")).collect::<" ++ String.ofList head ++ "<_, _>>()"

/-- A path stays as it is when its leaf is replaced by the same leaf, and only then. -/
theorem chars_mapLeaf_eq_iff {f : List Char → List Char} {shape : TypeShape} :
    (shape.mapLeaf f).chars = shape.chars ↔ f shape.leafPath = shape.leafPath := by
  induction shape with
  | leaf path => exact Iff.rfl
  | vec head element ih =>
    rw [mapLeaf, chars, chars, leafPath, ← ih, List.append_left_inj, List.append_right_inj,
      List.cons_inj_right]
  | map head key value ih =>
    rw [mapLeaf, chars, chars, leafPath, ← ih, List.append_left_inj, List.append_right_inj]

end TypeShape

end TypestateBuilders
