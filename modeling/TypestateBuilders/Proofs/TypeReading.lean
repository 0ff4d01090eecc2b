import TypestateBuilders.TypePath.Shape
import Mathlib.Data.List.Infix
import Mathlib.Data.List.TakeWhile

/-!
# How type paths are read

What a type path may look like is said here without the search for its brackets. A path is read as a
shape (`TypeShape.ReadAs`) if it has no opening bracket, or if it is a container's head followed by
brackets that close at the very end, around a path that is read in turn. It is refused for a fault
(`TypeShape.RefusedFor`) if the outermost level at which it is no such path has this fault. Each
path is either read or refused (`TypeShape.readAs_or_refusedFor`), and `TypeShape.ofChars` answers
accordingly (`TypeShape.ofChars_of_readAs`, `TypeShape.ofChars_of_refusedFor`).
-/

set_option autoImplicit false
set_option relaxedAutoImplicit false

namespace TypestateBuilders

namespace TypeShape

/-- A generic type: a head, and what stands between its brackets. -/
def generic (head inside : List Char) : List Char :=
  head ++ '<' :: inside ++ ['>']

theorem generic_append (head inside rest : List Char) :
    generic head inside ++ rest = head ++ '<' :: (inside ++ '>' :: rest) := by
  simp only [generic, List.append_assoc, List.cons_append, List.nil_append]

/-- The shape that a type path is read as. The head of a generic type ends at its first bracket. The
key of a map ends at the first separator. -/
inductive ReadAs : List Char → TypeShape → Prop
  | leaf {path : List Char} (hpath : '<' ∉ path) : ReadAs path (.leaf path)
  | vec {head inside : List Char} {element : TypeShape} (hhead : '<' ∉ head)
      (hname : vecName <:+ head) (hinside : ReadAs inside element) :
      ReadAs (generic head inside) (.vec head element)
  | map {head key inside : List Char} {value : TypeShape} (hhead : '<' ∉ head)
      (hname : mapName <:+ head) (hkey : ¬ keySeparator <:+: key) (hinside : ReadAs inside value) :
      ReadAs (generic head (key ++ keySeparator ++ inside)) (.map head key value)

/-- The fault that a type path is refused for. It is found at the outermost level that cannot be
read, and quotes this level. All levels around it are containers. -/
inductive RefusedFor : List Char → TypeFault → Prop
  | unclosed {ty : List Char} (hopen : '<' ∈ ty) (hclose : ty.getLast? ≠ some '>') :
      RefusedFor ty (.unclosed (String.ofList ty))
  | unknownContainer {head inside : List Char} (hhead : '<' ∉ head) (hvec : ¬ vecName <:+ head)
      (hmap : ¬ mapName <:+ head) :
      RefusedFor (generic head inside) (.unknownContainer (String.ofList (generic head inside)))
  | mapWithoutValue {head inside : List Char} (hhead : '<' ∉ head) (hname : mapName <:+ head)
      (hinside : ¬ keySeparator <:+: inside) :
      RefusedFor (generic head inside) (.mapWithoutValue (String.ofList (generic head inside)))
  | vec {head inside : List Char} {fault : TypeFault} (hhead : '<' ∉ head)
      (hname : vecName <:+ head) (hinside : RefusedFor inside fault) :
      RefusedFor (generic head inside) fault
  | map {head key inside : List Char} {fault : TypeFault} (hhead : '<' ∉ head)
      (hname : mapName <:+ head) (hkey : ¬ keySeparator <:+: key)
      (hinside : RefusedFor inside fault) :
      RefusedFor (generic head (key ++ keySeparator ++ inside)) fault

/-! ### One level -/

theorem length_lt_length_generic (head inside : List Char) :
    inside.length < (generic head inside).length := by
  simp only [generic, List.length_append, List.length_cons]
  omega

/-- A path that has an opening bracket, and closes at its end, is a generic type. -/
theorem exists_generic {ty : List Char} (hopen : '<' ∈ ty) (hclose : ty.getLast? = some '>') :
    ∃ head inside, '<' ∉ head ∧ ty = generic head inside := by
  obtain ⟨head, rest, rfl, hhead⟩ := List.eq_append_cons_of_mem hopen
  rcases List.eq_nil_or_concat rest with rfl | ⟨inside, last, rfl⟩
  · rw [List.getLast?_concat] at hclose
    cases hclose
  · rw [List.concat_eq_append, ← List.cons_append, ← List.append_assoc,
      List.getLast?_concat] at hclose
    obtain rfl := Option.some.inj hclose
    refine ⟨head, inside, hhead, ?_⟩
    rw [generic, List.concat_eq_append, List.append_assoc, List.cons_append]

/-- No name of a container ends in that of the other one. -/
theorem not_suffix_mapName {head : List Char} (h : vecName <:+ head) : ¬ mapName <:+ head := by
  intro hmap
  have hnested : vecName <:+ mapName := List.suffix_of_suffix_length_le h hmap (by decide)
  exact absurd hnested (by decide)

/-- The separator behind a key does not begin within the key. -/
theorem not_keySeparator_infix {key : List Char} (h : ¬ keySeparator <:+: key) :
    ¬ keySeparator <:+: key ++ keySeparator.dropLast := by
  show ¬ keySeparator <:+: key ++ [',']
  rw [List.infix_concat_iff, not_or]
  refine ⟨fun hsuffix ↦ ?_, h⟩
  obtain ⟨front, hfront⟩ := hsuffix
  have hlast := congrArg List.getLast? hfront
  simp [keySeparator] at hlast

/-- What stands between the brackets of a map is cut behind its key. -/
theorem cutAt_keySeparator_iff {inside key value : List Char} :
    Text.cutAt keySeparator inside = some (key, value) ↔
      inside = key ++ keySeparator ++ value ∧ ¬ keySeparator <:+: key := by
  rw [Text.cutAt_eq_some_iff (by decide)]
  refine and_congr_right fun _ ↦ ⟨fun h hkey ↦ h ?_, not_keySeparator_infix⟩
  exact List.infix_append_of_infix_left hkey

theorem exists_key {inside : List Char} (h : keySeparator <:+: inside) :
    ∃ key value, inside = key ++ keySeparator ++ value ∧ ¬ keySeparator <:+: key := by
  cases hcut : Text.cutAt keySeparator inside with
  | none => exact absurd h (Text.cutAt_eq_none_iff.mp hcut)
  | some parts => exact ⟨parts.1, parts.2, cutAt_keySeparator_iff.mp hcut⟩

theorem ne_of_notMem {bracket : Char} {text : List Char} (h : bracket ∉ text) :
    ∀ c ∈ text, decide (c ≠ bracket) = true :=
  fun _ hc ↦ decide_eq_true fun hsame ↦ h (hsame ▸ hc)

section

variable {head : List Char} (h : '<' ∉ head)

include h

/-- The head of a generic type is what stands in front of the first bracket. -/
theorem takeWhile_head (rest : List Char) :
    (head ++ '<' :: rest).takeWhile (· ≠ '<') = head := by
  rw [List.takeWhile_append_of_pos (ne_of_notMem h)]
  exact List.append_nil head

theorem dropWhile_head (rest : List Char) :
    (head ++ '<' :: rest).dropWhile (· ≠ '<') = '<' :: rest := by
  rw [List.dropWhile_append_of_pos (ne_of_notMem h)]
  rfl

theorem ofChars_of_notMem : ofChars head = .ok (.leaf head) := by
  have hnone : head.dropWhile (· ≠ '<') = [] := List.dropWhile_eq_nil_iff.mpr (ne_of_notMem h)
  rw [ofChars]
  split
  · rfl
  · rename_i hopen
    rw [hnone] at hopen
    cases hopen

/-- What is read of a path that has an opening bracket. -/
theorem ofChars_open (rest : List Char) :
    ofChars (head ++ '<' :: rest) =
      if rest.getLast? ≠ some '>' then .error (.unclosed (String.ofList (head ++ '<' :: rest)))
      else if mapName.isSuffixOf head then
        match Text.cutAt keySeparator rest.dropLast with
        | none => .error (.mapWithoutValue (String.ofList (head ++ '<' :: rest)))
        | some (key, value) => (ofChars value).map (.map head key)
      else if vecName.isSuffixOf head then (ofChars rest.dropLast).map (.vec head)
      else .error (.unknownContainer (String.ofList (head ++ '<' :: rest))) := by
  rw [ofChars]
  split
  · rename_i hnone
    rw [dropWhile_head h] at hnone
    cases hnone
  · rename_i c inside hopen
    rw [dropWhile_head h] at hopen
    obtain ⟨rfl, rfl⟩ := List.cons.inj hopen
    rw [takeWhile_head h]
    split
    · rfl
    · split
      · split <;> rename_i hcut <;> rw [hcut]
      · rfl

/-- A generic type is read by its head, and goes on to be read between its brackets. -/
theorem ofChars_generic (inside : List Char) :
    ofChars (generic head inside) =
      if mapName.isSuffixOf head then
        match Text.cutAt keySeparator inside with
        | none => .error (.mapWithoutValue (String.ofList (generic head inside)))
        | some (key, value) => (ofChars value).map (.map head key)
      else if vecName.isSuffixOf head then (ofChars inside).map (.vec head)
      else .error (.unknownContainer (String.ofList (generic head inside))) := by
  have hgeneric : generic head inside = head ++ '<' :: (inside ++ ['>']) := by
    rw [← generic_append, List.append_nil]
  rw [hgeneric, ofChars_open h, if_neg (by simp), List.dropLast_concat]

end

theorem ofChars_of_unclosed {ty : List Char} (hopen : '<' ∈ ty) (hclose : ty.getLast? ≠ some '>') :
    ofChars ty = .error (.unclosed (String.ofList ty)) := by
  obtain ⟨head, inside, rfl, hhead⟩ := List.eq_append_cons_of_mem hopen
  have hinside : inside.getLast? ≠ some '>' := by
    intro hlast
    refine hclose ?_
    rw [List.getLast?_append, List.getLast?_cons, hlast]
    rfl
  rw [ofChars_open hhead, if_pos hinside]

theorem ofChars_vec {head : List Char} (hhead : '<' ∉ head) (hname : vecName <:+ head)
    (inside : List Char) : ofChars (generic head inside) = (ofChars inside).map (.vec head) := by
  rw [ofChars_generic hhead, if_neg, if_pos (List.isSuffixOf_iff_suffix.mpr hname)]
  rw [List.isSuffixOf_iff_suffix]
  exact not_suffix_mapName hname

theorem ofChars_map {head key : List Char} (hhead : '<' ∉ head) (hname : mapName <:+ head)
    (hkey : ¬ keySeparator <:+: key) (value : List Char) :
    ofChars (generic head (key ++ keySeparator ++ value)) =
      (ofChars value).map (.map head key) := by
  rw [ofChars_generic hhead, if_pos (List.isSuffixOf_iff_suffix.mpr hname),
    cutAt_keySeparator_iff.mpr ⟨rfl, hkey⟩]

/-! ### All levels -/

/-- A path that is read as a shape has this shape. -/
theorem ofChars_of_readAs {ty : List Char} {shape : TypeShape} (h : ReadAs ty shape) :
    ofChars ty = .ok shape := by
  induction h with
  | leaf hpath => exact ofChars_of_notMem hpath
  | vec hhead hname _ ih =>
    rw [ofChars_vec hhead hname, ih]
    rfl
  | map hhead hname hkey _ ih =>
    rw [ofChars_map hhead hname hkey, ih]
    rfl

/-- A path that is refused for a fault has this fault. -/
theorem ofChars_of_refusedFor {ty : List Char} {fault : TypeFault} (h : RefusedFor ty fault) :
    ofChars ty = .error fault := by
  induction h with
  | unclosed hopen hclose => exact ofChars_of_unclosed hopen hclose
  | unknownContainer hhead hvec hmap =>
    rw [ofChars_generic hhead, if_neg, if_neg]
    · rwa [List.isSuffixOf_iff_suffix]
    · rwa [List.isSuffixOf_iff_suffix]
  | mapWithoutValue hhead hname hinside =>
    rw [ofChars_generic hhead, if_pos (List.isSuffixOf_iff_suffix.mpr hname),
      Text.cutAt_eq_none_iff.mpr hinside]
  | vec hhead hname _ ih =>
    rw [ofChars_vec hhead hname, ih]
    rfl
  | map hhead hname hkey _ ih =>
    rw [ofChars_map hhead hname hkey, ih]
    rfl

/-- Every path is read or refused. The induction goes down the levels, each of which is shorter than
the one around it. -/
theorem readAs_or_refusedFor (ty : List Char) :
    (∃ shape, ReadAs ty shape) ∨ ∃ fault, RefusedFor ty fault := by
  induction hlength : ty.length using Nat.strong_induction_on generalizing ty with
  | _ length ih =>
    subst hlength
    by_cases hopen : '<' ∈ ty
    · by_cases hclose : ty.getLast? = some '>'
      · obtain ⟨head, inside, hhead, rfl⟩ := exists_generic hopen hclose
        have hshorter := length_lt_length_generic head inside
        by_cases hmap : mapName <:+ head
        · by_cases hinside : keySeparator <:+: inside
          · obtain ⟨key, value, rfl, hkey⟩ := exists_key hinside
            have hvalue : value.length < (generic head (key ++ keySeparator ++ value)).length := by
              rw [List.length_append] at hshorter
              omega
            rcases ih _ hvalue value rfl with ⟨shape, hread⟩ | ⟨fault, hrefused⟩
            · exact Or.inl ⟨_, .map hhead hmap hkey hread⟩
            · exact Or.inr ⟨_, .map hhead hmap hkey hrefused⟩
          · exact Or.inr ⟨_, .mapWithoutValue hhead hmap hinside⟩
        · by_cases hvec : vecName <:+ head
          · rcases ih _ hshorter inside rfl with ⟨shape, hread⟩ | ⟨fault, hrefused⟩
            · exact Or.inl ⟨_, .vec hhead hvec hread⟩
            · exact Or.inr ⟨_, .vec hhead hvec hrefused⟩
          · exact Or.inr ⟨_, .unknownContainer hhead hvec hmap⟩
      · exact Or.inr ⟨_, .unclosed hopen hclose⟩
    · exact Or.inl ⟨_, .leaf hopen⟩

end TypeShape

end TypestateBuilders
