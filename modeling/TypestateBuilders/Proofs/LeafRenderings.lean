import TypestateBuilders.Proofs.Outcome
import TypestateBuilders.Proofs.TypeReading
import TypestateBuilders.TypePath.Rendering

/-!
# Renderings down to the leaf

Four renderings of a type path go down to its leaf: `leafType`, `withAnyGeneric`, `childBuilderType`
and `convertValue`. Each of them takes its own way down, level by level, while a shape is read of
the path as a whole. The reading goes by the same levels (`TypeShape.ofText_atLevel`), and an
induction down the levels (`levelInduction`) shows of each rendering that it renders the shape that
is read, and is refused if there is none (`leafType_eq`, `withAnyGeneric_eq`, `childBuilderType_eq`,
`convertValue_eq`).

So the four renderings answer for the same paths, and refuse all others for the same faults
(`renderings_answer_alike`).
-/

set_option autoImplicit false
set_option relaxedAutoImplicit false

namespace TypestateBuilders

open Outcome

/-! ### One level -/

theorem notMem_of_splitGeneric {ty : String} (h : splitGeneric ty = .ok none) :
    '<' ∉ ty.toList := by
  rw [splitGeneric] at h
  split at h
  · rename_i hcut
    rwa [Text.cutAt_eq_none_iff, List.singleton_infix_iff] at hcut
  · split at h <;> cases h

/-- A path whose brackets are not found has an opening one, and no closing one at its end. -/
theorem unclosed_of_splitGeneric {ty : String} {fault : TypeFault}
    (h : splitGeneric ty = .error fault) :
    fault = .unclosed ty ∧ '<' ∈ ty.toList ∧ ty.toList.getLast? ≠ some '>' := by
  rw [splitGeneric] at h
  split at h
  · cases h
  · rename_i hcut
    split at h
    · cases h
    · rename_i hclose
      refine ⟨(Except.error.inj h).symm, ?_, hclose⟩
      rw [Text.eq_append_of_cutAt hcut]
      simp

theorem GenericParts.toList_eq {ty : String} (parts : GenericParts ty) :
    ty.toList = TypeShape.generic parts.head.toList parts.inside.toList := by
  have hty := congrArg String.toList parts.eq
  simpa [TypeShape.generic] using hty

section

variable {ty head : String} {fault : TypeFault}

theorem mapName_suffix_of_containerKind (h : containerKind ty head = .ok .map) :
    mapName <:+ head.toList := by
  rw [containerKind] at h
  split at h
  · rename_i hmap
    exact List.isSuffixOf_iff_suffix.mp hmap
  · split at h <;> cases h

theorem vecName_suffix_of_containerKind (h : containerKind ty head = .ok .vec) :
    vecName <:+ head.toList := by
  rw [containerKind] at h
  split at h
  · cases h
  · split at h
    · rename_i hvec
      exact List.isSuffixOf_iff_suffix.mp hvec
    · cases h

/-- A generic type that is no container has a head without the name of one. -/
theorem unknown_of_containerKind (h : containerKind ty head = .error fault) :
    fault = .unknownContainer ty ∧ ¬ vecName <:+ head.toList ∧ ¬ mapName <:+ head.toList := by
  rw [containerKind] at h
  split at h
  · cases h
  · rename_i hmap
    split at h
    · cases h
    · rename_i hvec
      rw [List.isSuffixOf_iff_suffix] at hmap hvec
      exact ⟨(Except.error.inj h).symm, hvec, hmap⟩

end

/-- A map without key and value has no separator between its brackets. -/
theorem withoutValue_of_mapEntry {ty inside : String} {fault : TypeFault}
    (h : mapEntry ty inside = .error fault) :
    fault = .mapWithoutValue ty ∧ ¬ keySeparator <:+: inside.toList := by
  rw [mapEntry] at h
  split at h
  · rename_i hcut
    exact ⟨(Except.error.inj h).symm, Text.cutAt_eq_none_iff.mp hcut⟩
  · cases h

theorem MapEntry.toList_eq {inside : String} (entry : MapEntry inside) :
    inside.toList = entry.key.toList ++ keySeparator ++ entry.value.toList := by
  have hinside := congrArg String.toList entry.eq
  simpa [keySeparator] using hinside

/-- What is made of a type at its outermost level: of a leaf, of a sequence, or of a map. -/
def atLevel {β : Type} (ty : String) (leaf : β) (vec : GenericParts ty → Except TypeFault β)
    (map : (parts : GenericParts ty) → MapEntry parts.inside → Except TypeFault β) :
    Except TypeFault β := do
  let some parts ← splitGeneric ty | return leaf
  match ← containerKind ty parts.head with
  | .vec => vec parts
  | .map => map parts (← mapEntry ty parts.inside)

section

variable {β γ : Type} {ty : String} {leaf leaf' : β}
  {vec vec' : GenericParts ty → Except TypeFault β}
  {map map' : (parts : GenericParts ty) → MapEntry parts.inside → Except TypeFault β}

/-- What is made of a level depends on what is made of its parts. -/
theorem atLevel_congr (hleaf : leaf = leaf') (hvec : ∀ parts, vec parts = vec' parts)
    (hmap : ∀ parts entry, map parts entry = map' parts entry) :
    atLevel ty leaf vec map = atLevel ty leaf' vec' map' := by
  have hvecs : vec = vec' := funext hvec
  have hmaps : map = map' := funext fun parts ↦ funext (hmap parts)
  rw [hleaf, hvecs, hmaps]

/-- What is made of the result at a level is made of it in each of the cases. -/
theorem map_atLevel (f : β → γ) :
    (atLevel ty leaf vec map).map f =
      atLevel ty (f leaf) (fun parts ↦ (vec parts).map f)
        fun parts entry ↦ (map parts entry).map f := by
  rw [atLevel, atLevel]
  cases splitGeneric ty with
  | error fault => rfl
  | ok parts? =>
    cases parts? with
    | none => rfl
    | some parts =>
      simp only [ok_bind]
      cases containerKind ty parts.head with
      | error fault => rfl
      | ok kind =>
        cases kind with
        | vec => rfl
        | map => cases mapEntry ty parts.inside <;> rfl

end

/-- The shape of a path is read level by level. -/
theorem TypeShape.ofText_atLevel (ty : String) :
    ofText ty = atLevel ty (.leaf ty.toList)
      (fun parts ↦ (ofText parts.inside).map (.vec parts.head.toList))
      fun parts entry ↦ (ofText entry.value).map (.map parts.head.toList entry.key.toList) := by
  rw [ofText, atLevel]
  -- Each answer at a level is a way in which a path is read or refused.
  cases hsplit : splitGeneric ty with
  | error fault =>
    obtain ⟨rfl, hopen, hclose⟩ := unclosed_of_splitGeneric hsplit
    rw [ofChars_of_unclosed hopen hclose, String.ofList_toList]
    rfl
  | ok parts? =>
    cases parts? with
    | none => exact ofChars_of_notMem (notMem_of_splitGeneric hsplit)
    | some parts =>
      have hty : String.ofList (generic parts.head.toList parts.inside.toList) = ty := by
        rw [← parts.toList_eq, String.ofList_toList]
      simp only [ok_bind]
      rw [parts.toList_eq]
      cases hkind : containerKind ty parts.head with
      | error fault =>
        obtain ⟨rfl, hvec, hmap⟩ := unknown_of_containerKind hkind
        rw [ofChars_of_refusedFor (.unknownContainer parts.bare hvec hmap), hty]
        rfl
      | ok kind =>
        cases kind with
        | vec => exact ofChars_vec parts.bare (vecName_suffix_of_containerKind hkind) _
        | map =>
          have hmap := mapName_suffix_of_containerKind hkind
          cases hentry : mapEntry ty parts.inside with
          | error fault =>
            obtain ⟨rfl, hkey⟩ := withoutValue_of_mapEntry hentry
            rw [ofChars_of_refusedFor (.mapWithoutValue parts.bare hmap hkey), hty]
            rfl
          | ok entry =>
            rw [entry.toList_eq]
            exact ofChars_map parts.bare hmap entry.first _

/-! ### The recursions

Each rendering is what it makes of one level. -/

theorem leafType_atLevel (ty : String) :
    leafType ty =
      atLevel ty ty (fun parts ↦ leafType parts.inside) fun _ entry ↦ leafType entry.value := by
  rw [leafType]
  rfl

theorem withAnyGeneric_atLevel (ty anyValue : String) :
    withAnyGeneric ty anyValue =
      atLevel ty (String.ofList (leafWithAny anyValue.toList ty.toList))
        (fun parts ↦ (withAnyGeneric parts.inside anyValue).map fun inner ↦
          parts.head ++ "<" ++ inner ++ ">")
        fun parts entry ↦ (withAnyGeneric entry.value anyValue).map fun inner ↦
          parts.head ++ "<" ++ entry.key ++ ", " ++ inner ++ ">" := by
  rw [withAnyGeneric]
  rfl

theorem childBuilderType_atLevel (helpers ty : String) (childFields : List String)
    (anyValue : Option String) :
    childBuilderType helpers ty childFields anyValue =
      atLevel ty (ty ++ "Builder" ++ angled (childArguments helpers childFields anyValue))
        (fun parts ↦ (childBuilderType helpers parts.inside childFields anyValue).map fun inner ↦
          parts.head ++ "<" ++ inner ++ ">")
        fun parts entry ↦ (childBuilderType helpers entry.value childFields anyValue).map
          fun inner ↦ parts.head ++ "<" ++ entry.key ++ ", " ++ inner ++ ">" := by
  rw [childBuilderType]
  rfl

theorem convertValue_atLevel (ty expression : String) :
    convertValue ty expression =
      atLevel ty (expression ++ ".into()")
        (fun parts ↦ (convertValue parts.inside "value").map fun inner ↦
          expression ++ ".into_iter().map(|value| " ++ inner ++ ").collect::<" ++ parts.head ++
            "<_>>()")
        fun parts entry ↦ (convertValue entry.value "value").map fun inner ↦
          expression ++ ".into_iter().map(|(key, value)| (key, " ++ inner ++ ")).collect::<" ++
            parts.head ++ "<_, _>>()" := by
  rw [convertValue]
  rfl

/-! ### All levels -/

/-- Induction down the levels of a type. The types inside a container are shorter than it. -/
theorem levelInduction {motive : String → Prop}
    (level : ∀ ty, (∀ parts : GenericParts ty, motive parts.inside) →
      (∀ (parts : GenericParts ty) (entry : MapEntry parts.inside), motive entry.value) → motive ty)
    (ty : String) : motive ty := by
  induction hlength : ty.length using Nat.strong_induction_on generalizing ty with
  | _ length ih =>
    subst hlength
    exact level ty (fun parts ↦ ih _ parts.shorter _ rfl)
      fun parts entry ↦ ih _ (entry.shorter.trans parts.shorter) _ rfl

/-- The leaf of a type is that of its shape. -/
theorem leafType_eq (ty : String) :
    leafType ty = (TypeShape.ofText ty).map fun shape ↦ String.ofList shape.leafPath := by
  induction ty using levelInduction with
  | level ty hvec hmap =>
    rw [leafType_atLevel, TypeShape.ofText_atLevel, map_atLevel]
    refine atLevel_congr String.ofList_toList.symm (fun parts ↦ ?_) fun parts entry ↦ ?_
    · rw [hvec, map_map]
      rfl
    · rw [hmap, map_map]
      rfl

section

variable (head key : String) (inner : TypeShape)

theorem ofList_chars_vec : String.ofList (TypeShape.vec head.toList inner).chars =
    head ++ "<" ++ String.ofList inner.chars ++ ">" := by
  rw [← String.toList_inj]
  simp [TypeShape.chars]

theorem ofList_chars_map : String.ofList (TypeShape.map head.toList key.toList inner).chars =
    head ++ "<" ++ key ++ ", " ++ String.ofList inner.chars ++ ">" := by
  rw [← String.toList_inj]
  simp [TypeShape.chars, keySeparator]

end

/-- Putting a value for the dynamically typed slot puts it into the leaf of the shape. -/
theorem withAnyGeneric_eq (ty anyValue : String) :
    withAnyGeneric ty anyValue = (TypeShape.ofText ty).map fun shape ↦
      String.ofList (shape.mapLeaf (leafWithAny anyValue.toList)).chars := by
  induction ty using levelInduction with
  | level ty hvec hmap =>
    rw [withAnyGeneric_atLevel, TypeShape.ofText_atLevel, map_atLevel]
    refine atLevel_congr rfl (fun parts ↦ ?_) fun parts entry ↦ ?_
    · rw [hvec, map_map, map_map]
      simp only [TypeShape.mapLeaf, ofList_chars_vec]
    · rw [hmap, map_map, map_map]
      simp only [TypeShape.mapLeaf, ofList_chars_map]

/-- The finished builders of a type are named at the leaf of the shape. -/
theorem childBuilderType_eq (helpers ty : String) (childFields : List String)
    (anyValue : Option String) :
    childBuilderType helpers ty childFields anyValue = (TypeShape.ofText ty).map fun shape ↦
      String.ofList (shape.mapLeaf fun leaf ↦ leaf ++
        ("Builder" ++ angled (childArguments helpers childFields anyValue)).toList).chars := by
  induction ty using levelInduction with
  | level ty hvec hmap =>
    rw [childBuilderType_atLevel, TypeShape.ofText_atLevel, map_atLevel]
    refine atLevel_congr ?_ (fun parts ↦ ?_) fun parts entry ↦ ?_
    · simp only [TypeShape.mapLeaf, TypeShape.chars, String.ofList_append, String.ofList_toList,
        String.append_assoc]
    · rw [hvec, map_map, map_map]
      simp only [TypeShape.mapLeaf, ofList_chars_vec]
    · rw [hmap, map_map, map_map]
      simp only [TypeShape.mapLeaf, ofList_chars_map]

/-- A value is converted in the containers of the shape. -/
theorem convertValue_eq (ty expression : String) :
    convertValue ty expression = (TypeShape.ofText ty).map fun shape ↦
      shape.conversion expression := by
  induction ty using levelInduction generalizing expression with
  | level ty hvec hmap =>
    rw [convertValue_atLevel, TypeShape.ofText_atLevel, map_atLevel]
    refine atLevel_congr rfl (fun parts ↦ ?_) fun parts entry ↦ ?_
    · rw [hvec, map_map, map_map]
      simp only [TypeShape.conversion, String.ofList_toList]
    · rw [hmap, map_map, map_map]
      simp only [TypeShape.conversion, String.ofList_toList]

/-- A type stays as it is when the dynamically typed slot stands for its own value and the leaf is
no object of the generated crate. -/
theorem withAnyGeneric_anyParameter_eq_iff {ty : String} :
    withAnyGeneric ty anyParameter = .ok ty ↔
      ∃ leaf, leafType ty = .ok leaf ∧ isSimpleType leaf = true := by
  rw [withAnyGeneric_eq, leafType_eq]
  cases hshape : TypeShape.ofText ty with
  | error fault => exact iff_of_false nofun fun ⟨_, hleaf, _⟩ ↦ nomatch hleaf
  | ok shape =>
    have hty : String.ofList shape.chars = ty := by
      rw [TypeShape.chars_of_ofChars hshape, String.ofList_toList]
    have hkept : (Except.map (fun shape ↦ String.ofList
          (TypeShape.mapLeaf (leafWithAny anyParameter.toList) shape).chars)
          (Except.ok (ε := TypeFault) shape) = .ok ty) ↔
        leafWithAny anyParameter.toList shape.leafPath = shape.leafPath := by
      rw [Except.map, Except.ok.injEq, ← hty, String.ofList_inj]
      exact TypeShape.chars_mapLeaf_eq_iff
    rw [hkept, leafWithAny_anyParameter_eq_iff]
    constructor
    · intro hsimple
      exact ⟨_, rfl, by rwa [isSimpleType, String.toList_ofList]⟩
    · rintro ⟨leaf, hleaf, hsimple⟩
      rwa [← Except.ok.inj hleaf, isSimpleType, String.toList_ofList] at hsimple

/-! ### Agreement -/

/-- The renderings that go down to the leaf of a type answer alike, for whatever else they are
given. All four give a result if the type can be read as a shape. Otherwise all four are refused for
the same fault, which is that of the outermost level that cannot be read, and so with the same
message. -/
theorem renderings_answer_alike (ty : String) :
    ((∃ shape, TypeShape.ReadAs ty.toList shape) ∧
      (∃ leaf, leafType ty = .ok leaf) ∧
      (∀ anyValue, ∃ filled, withAnyGeneric ty anyValue = .ok filled) ∧
      (∀ helpers childFields anyValue, ∃ builders,
        childBuilderType helpers ty childFields anyValue = .ok builders) ∧
      ∀ expression, ∃ converted, convertValue ty expression = .ok converted) ∨
    ∃ fault, TypeShape.RefusedFor ty.toList fault ∧
      leafType ty = .error fault ∧
      (∀ anyValue, withAnyGeneric ty anyValue = .error fault) ∧
      (∀ helpers childFields anyValue,
        childBuilderType helpers ty childFields anyValue = .error fault) ∧
      ∀ expression, convertValue ty expression = .error fault := by
  simp only [leafType_eq, withAnyGeneric_eq, childBuilderType_eq, convertValue_eq, TypeShape.ofText]
  rcases TypeShape.readAs_or_refusedFor ty.toList with ⟨shape, hread⟩ | ⟨fault, hrefused⟩
  · rw [TypeShape.ofChars_of_readAs hread]
    exact Or.inl ⟨⟨shape, hread⟩, ⟨_, rfl⟩, fun _ ↦ ⟨_, rfl⟩, fun _ _ _ ↦ ⟨_, rfl⟩,
      fun _ ↦ ⟨_, rfl⟩⟩
  · rw [TypeShape.ofChars_of_refusedFor hrefused]
    exact Or.inr ⟨fault, hrefused, rfl, fun _ ↦ rfl, fun _ _ _ ↦ rfl, fun _ ↦ rfl⟩

example : leafType "Vec<Set<i64>>" = .error (.unknownContainer "Set<i64>") := by
  decide +kernel

end TypestateBuilders
