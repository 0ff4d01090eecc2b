import Mathlib.Data.List.Basic
import TypestateBuilders.Proofs.LeafRenderings
import TypestateBuilders.Text.NameChar

/-!
# Names that a text mentions

A text mentions a name where the name stands by itself: as a run of letters, digits and underscores
that goes on neither to the left nor to the right, and that no path leads to (`Mentions`). Any other
character but a colon keeps apart what stands on both sides of it (`mentions_append_cons_iff`), and
a name behind two colons is not mentioned (`mentions_qualified_iff`). So what a type mentions is
known from its containers and its leaf (`TypeShape.mentions_mapLeaf_iff`).
-/

set_option autoImplicit false
set_option relaxedAutoImplicit false

namespace TypestateBuilders

open Text Naming Outcome

/-- A nonempty run of letters, digits and underscores. -/
structure IsName (name : List Char) : Prop where
  nonempty : name ≠ []
  chars : ∀ c ∈ name, isNameChar c = true

/-- What stands in front of a name that stands by itself: no name that goes on in it, and no path
that leads to it. -/
structure Opens (before : List Char) : Prop where
  apart : ∀ c ∈ before.getLast?, isNameChar c = false
  unqualified : ¬ "::".toList <:+ before

/-- What stands behind a name that stands by itself. -/
def Closes (after : List Char) : Prop :=
  ∀ c ∈ after.head?, isNameChar c = false

/-- A name that stands in a text by itself. -/
def Mentions (name text : List Char) : Prop :=
  IsName name ∧ ∃ before after, text = before ++ name ++ after ∧ Opens before ∧ Closes after

instance (name : List Char) : Decidable (IsName name) :=
  decidable_of_iff (name ≠ [] ∧ name.all isNameChar = true)
    ⟨fun h ↦ ⟨h.1, List.all_eq_true.mp h.2⟩, fun h ↦ ⟨h.nonempty, List.all_eq_true.mpr h.chars⟩⟩

instance (before : List Char) : Decidable (Opens before) :=
  decidable_of_iff (before.getLast?.any isNameChar = false ∧ ¬ "::".toList <:+ before)
    ⟨fun h ↦ ⟨(Option.any_eq_false _ _).mp h.1, h.2⟩,
      fun h ↦ ⟨(Option.any_eq_false _ _).mpr h.apart, h.unqualified⟩⟩

instance (after : List Char) : Decidable (Closes after) :=
  decidable_of_iff (after.head?.any isNameChar = false) (Option.any_eq_false _ _)

variable {name front back word : List Char} {c : Char}

/-- A name is mentioned if it stands by itself at one of the places of a text. -/
theorem mentions_iff_exists_place {text : List Char} :
    Mentions name text ↔ IsName name ∧ ∃ place ∈ List.range (text.length + 1),
      text = text.take place ++ name ++ text.drop (place + name.length) ∧
        Opens (text.take place) ∧ Closes (text.drop (place + name.length)) := by
  refine and_congr_right fun _ ↦ ⟨?_, fun ⟨place, _, htext, hopens, hcloses⟩ ↦
    ⟨_, _, htext, hopens, hcloses⟩⟩
  rintro ⟨before, after, rfl, hopens, hcloses⟩
  have hplace : before.length ∈ List.range ((before ++ name ++ after).length + 1) := by
    simp only [List.mem_range, List.length_append]
    omega
  have htake : (before ++ name ++ after).take before.length = before := by
    rw [List.append_assoc, List.take_left]
  have hdrop : (before ++ name ++ after).drop (before.length + name.length) = after := by
    rw [← List.length_append, List.drop_left]
  exact ⟨before.length, hplace, by rw [htake, hdrop], htake.symm ▸ hopens, hdrop.symm ▸ hcloses⟩

instance (name text : List Char) : Decidable (Mentions name text) :=
  decidable_of_iff _ mentions_iff_exists_place.symm

/-! ### Separators -/

/-- A character that keeps apart what is mentioned on both sides of it. -/
structure IsSeparator (c : Char) : Prop where
  not_name : isNameChar c = false
  ne_colon : c ≠ ':'

instance (c : Char) : Decidable (IsSeparator c) :=
  decidable_of_iff (isNameChar c = false ∧ c ≠ ':') ⟨fun h ↦ ⟨h.1, h.2⟩, fun h ↦ ⟨h.1, h.2⟩⟩

theorem not_mem_of_isName (hname : IsName name) (hc : isNameChar c = false) : c ∉ name := by
  intro hmem
  rw [hname.chars c hmem] at hc
  cases hc

theorem opens_nil : Opens [] :=
  ⟨nofun, by decide⟩

theorem not_opens_concat {before : List Char} (hc : isNameChar c = true) :
    ¬ Opens (before ++ [c]) := by
  intro hopens
  rw [hopens.apart c (List.getLast?_concat ..)] at hc
  cases hc

/-- Only the last part of a text decides what can stand behind it. -/
theorem opens_append_cons_iff (hc : IsSeparator c) :
    Opens (front ++ c :: back) ↔ Opens back := by
  have hsuffix : "::".toList <:+ front ++ c :: back ↔ "::".toList <:+ back := by
    rw [← @List.reverse_prefix _ _ (front ++ c :: back), ← @List.reverse_prefix _ _ back,
      List.reverse_append, List.reverse_cons]
    rcases back.reverse with _ | ⟨d, _ | ⟨e, rest⟩⟩
    · simp [hc.ne_colon.symm]
    · simp [hc.ne_colon.symm]
    · simp
  have hlast : (∀ d ∈ (front ++ c :: back).getLast?, isNameChar d = false) ↔
      ∀ d ∈ back.getLast?, isNameChar d = false := by
    rcases List.eq_nil_or_concat' back with rfl | ⟨rest, d, rfl⟩
    · simp [hc.not_name]
    · rw [← List.cons_append, ← List.append_assoc, List.getLast?_concat, List.getLast?_concat]
  constructor
  · exact fun h ↦ ⟨hlast.mp h.apart, hsuffix.not.mp h.unqualified⟩
  · exact fun h ↦ ⟨hlast.mpr h.apart, hsuffix.not.mpr h.unqualified⟩

/-- Only the first part of a text decides what can stand in front of it. -/
theorem closes_append_cons_iff (hc : isNameChar c = false) :
    Closes (front ++ c :: back) ↔ Closes front := by
  cases front with
  | nil => exact iff_of_true (by simpa [Closes] using hc) nofun
  | cons d rest => exact Iff.rfl

/-- What a text mentions stands on one side of a character that belongs to no name. -/
theorem mentions_append_cons_cases (hc : isNameChar c = false) :
    Mentions name (front ++ c :: back) ↔ Mentions name front ∨
      IsName name ∧ ∃ before after, back = before ++ name ++ after ∧
        Opens (front ++ c :: before) ∧ Closes after := by
  constructor
  · rintro ⟨hname, before, after, htext, hopens, hcloses⟩
    have hmem : c ∉ name := not_mem_of_isName hname hc
    rw [List.append_assoc] at htext
    rcases List.append_eq_append_iff.mp htext with ⟨tail, hbefore, hback⟩ | ⟨tail, hfront, hrest⟩
    · -- The name stands behind the separator, or else would begin with it.
      rcases tail with _ | ⟨d, tail⟩
      · obtain ⟨d, rest, rfl⟩ := List.exists_cons_of_ne_nil hname.nonempty
        obtain ⟨rfl, _⟩ := List.cons.inj hback
        exact absurd List.mem_cons_self hmem
      · obtain ⟨rfl, rfl⟩ := List.cons.inj hback
        refine Or.inr ⟨hname, tail, after, (List.append_assoc ..).symm, ?_, hcloses⟩
        rwa [← hbefore]
    · -- The name begins in front of the separator, so it ends there.
      rcases List.append_eq_append_iff.mp hrest with ⟨inner, htail, hafter⟩ | ⟨inner, hsplit, hback⟩
      · refine Or.inl ⟨hname, before, inner, ?_, hopens, ?_⟩
        · rw [hfront, htail, List.append_assoc]
        · rwa [hafter, closes_append_cons_iff hc] at hcloses
      · rcases inner with _ | ⟨d, inner⟩
        · refine Or.inl ⟨hname, before, [], ?_, hopens, nofun⟩
          rw [hfront, hsplit]
          simp
        · obtain ⟨rfl, _⟩ := List.cons.inj hback
          exact absurd (hsplit ▸ List.mem_append_right _ List.mem_cons_self) hmem
  · rintro (⟨hname, before, after, rfl, hopens, hcloses⟩ |
      ⟨hname, before, after, rfl, hopens, hcloses⟩)
    · exact ⟨hname, before, after ++ c :: back, by simp, hopens,
        (closes_append_cons_iff hc).mpr hcloses⟩
    · exact ⟨hname, front ++ c :: before, after, by simp, hopens, hcloses⟩

/-- A separator keeps apart what is mentioned on both sides of it. -/
theorem mentions_append_cons_iff (hc : IsSeparator c) :
    Mentions name (front ++ c :: back) ↔ Mentions name front ∨ Mentions name back := by
  rw [mentions_append_cons_cases hc.not_name]
  simp only [opens_append_cons_iff hc]
  rfl

/-- Nothing else is mentioned in one name. -/
theorem mentions_name_iff (hword : IsName word) : Mentions name word ↔ name = word := by
  constructor
  · rintro ⟨_, before, after, rfl, hopens, hcloses⟩
    rcases List.eq_nil_or_concat' before with rfl | ⟨rest, c, rfl⟩
    · rcases after with _ | ⟨c, rest⟩
      · simp
      · have hc := hword.chars c (List.mem_append_right _ List.mem_cons_self)
        rw [hcloses c rfl] at hc
        cases hc
    · exact absurd hopens (not_opens_concat (hword.chars c (by simp)))
  · rintro rfl
    exact ⟨hword, [], [], by simp, opens_nil, nofun⟩

theorem not_mentions_nil : ¬ Mentions name [] := by
  rintro ⟨hname, before, after, htext, _, _⟩
  have hempty := List.append_eq_nil_iff.mp htext.symm
  exact hname.nonempty (List.append_eq_nil_iff.mp hempty.1).2

theorem mentions_concat_iff (hc : IsSeparator c) :
    Mentions name (front ++ [c]) ↔ Mentions name front := by
  rw [mentions_append_cons_iff hc, or_iff_left not_mentions_nil]

/-- A comma and a blank keep apart like one separator. -/
theorem mentions_append_comma_iff :
    Mentions name (front ++ ',' :: ' ' :: back) ↔ Mentions name front ∨ Mentions name back := by
  rw [mentions_append_cons_iff (by decide), ← List.nil_append (' ' :: back),
    mentions_append_cons_iff (by decide), or_iff_right not_mentions_nil]

/-- A name that a path leads to is not mentioned. -/
theorem mentions_qualified_iff (hword : IsName word) :
    Mentions name (front ++ ':' :: ':' :: word) ↔ Mentions name front := by
  have hcolon : isNameChar ':' = false := by decide
  rw [mentions_append_cons_cases hcolon]
  refine or_iff_left ?_
  rintro ⟨hname, before, after, htext, hopens, _⟩
  rcases before with _ | ⟨d, before⟩
  · obtain ⟨d, rest, rfl⟩ := List.exists_cons_of_ne_nil hname.nonempty
    obtain ⟨rfl, _⟩ := List.cons.inj htext
    exact not_mem_of_isName hname hcolon List.mem_cons_self
  · obtain ⟨rfl, rfl⟩ := List.cons.inj htext
    rcases List.eq_nil_or_concat' before with rfl | ⟨rest, c, rfl⟩
    · exact hopens.unqualified (List.suffix_append _ _)
    · have hsplit : front ++ ':' :: ':' :: (rest ++ [c]) =
          (front ++ ':' :: ':' :: rest) ++ [c] := by
        simp
      exact not_opens_concat (hword.chars c (by simp)) (hsplit ▸ hopens)

/-! ### Types -/

namespace TypeShape

/-- What stands around the leaf of a type: the paths of its containers, and the keys of its maps. -/
def frame : TypeShape → List (List Char)
  | leaf _ => []
  | vec head element => head :: element.frame
  | map head key value => head :: key :: value.frame

/-- A type mentions what its containers and its leaf mention. -/
theorem mentions_mapLeaf_iff (f : List Char → List Char) (shape : TypeShape) :
    Mentions name (shape.mapLeaf f).chars ↔
      (∃ part ∈ shape.frame, Mentions name part) ∨ Mentions name (f shape.leafPath) := by
  induction shape with
  | leaf path => simp [mapLeaf, chars, frame, leafPath]
  | vec head element ih =>
    rw [mapLeaf, chars, mentions_concat_iff (by decide), mentions_append_cons_iff (by decide), ih,
      frame, leafPath, List.exists_mem_cons_iff, or_assoc]
  | map head key value ih =>
    have hkey : head ++ '<' :: key ++ keySeparator ++ (value.mapLeaf f).chars =
        head ++ '<' :: (key ++ ',' :: ' ' :: (value.mapLeaf f).chars) := by
      simp [keySeparator]
    rw [mapLeaf, chars, mentions_concat_iff (by decide), hkey,
      mentions_append_cons_iff (by decide), mentions_append_comma_iff, ih, frame, leafPath,
      List.exists_mem_cons_iff, List.exists_mem_cons_iff, or_assoc, or_assoc]

/-- The type that was read mentions what its containers and its leaf mention. -/
theorem mentions_iff {ty : String} {shape : TypeShape} (h : TypeShape.ofText ty = .ok shape) :
    Mentions name ty.toList ↔
      (∃ part ∈ shape.frame, Mentions name part) ∨ Mentions name shape.leafPath := by
  have hsame : (shape.mapLeaf id).chars = shape.chars := chars_mapLeaf_eq_iff.mpr rfl
  rw [← chars_of_ofChars h, ← hsame, mentions_mapLeaf_iff, id]

end TypeShape

/-! ### Arguments -/

/-- A list of types mentions what its parts mention. -/
theorem mentions_intercalate_iff (texts : List String) :
    Mentions name (", ".intercalate texts).toList ↔ ∃ text ∈ texts, Mentions name text.toList := by
  induction texts with
  | nil => simpa using not_mentions_nil
  | cons text rest ih =>
    by_cases hrest : rest = []
    · simp [hrest]
    · have hjoined : (", ".intercalate (text :: rest)).toList =
          text.toList ++ ',' :: ' ' :: (", ".intercalate rest).toList := by
        rw [String.intercalate_cons_of_ne_nil hrest]
        simp
      rw [hjoined, mentions_append_comma_iff, ih, List.exists_mem_cons_iff]

/-- A type with arguments mentions what the type and its arguments mention. -/
theorem mentions_angled_iff (arguments : List String) :
    Mentions name (front ++ (angled arguments).toList) ↔
      Mentions name front ∨ ∃ argument ∈ arguments, Mentions name argument.toList := by
  have hangled : front ++ (angled arguments).toList =
      front ++ '<' :: ((", ".intercalate arguments).toList ++ ['>']) := by
    simp [angled]
  rw [hangled, mentions_append_cons_iff (by decide), mentions_concat_iff (by decide),
    mentions_intercalate_iff]

theorem isName_anyParameter : IsName anyParameter.toList := by
  decide

/-- Putting the parameter for dynamically typed values adds nothing to what a leaf mentions but this
parameter, and adds it exactly to an object of the generated crate. -/
theorem mentions_leafWithAny_iff {leaf : List Char} :
    Mentions name (leafWithAny anyParameter.toList leaf) ↔
      Mentions name leaf ∨ isSimplePath leaf = false ∧ name = anyParameter.toList := by
  rw [leafWithAny]
  by_cases hslot : leaf = anyParameter.toList
  · have hsimple : isSimplePath anyParameter.toList = true := by decide
    rw [if_pos hslot, hslot, hsimple]
    simp
  · rw [if_neg hslot]
    cases hsimple : isSimplePath leaf with
    | true => simp
    | false =>
      have hargument : leaf ++ '<' :: anyParameter.toList ++ ['>'] =
          leaf ++ (angled [anyParameter]).toList := by
        simp [angled]
      rw [if_neg Bool.false_ne_true, hargument, mentions_angled_iff]
      simp [mentions_name_iff isName_anyParameter]

/-! ### The parameter for dynamically typed values -/

/-- A type whose leaf is an object of the generated crate. -/
def HasObjectLeaf (ty : String) : Prop :=
  ∃ leaf, leafType ty = .ok leaf ∧ isSimpleType leaf = false

theorem hasObjectLeaf_iff {ty : String} {shape : TypeShape} (h : TypeShape.ofText ty = .ok shape) :
    HasObjectLeaf ty ↔ isSimplePath shape.leafPath = false := by
  rw [HasObjectLeaf, leafType_eq, h]
  constructor
  · rintro ⟨leaf, hleaf, hobject⟩
    rwa [← Except.ok.inj hleaf, isSimpleType, String.toList_ofList] at hobject
  · exact fun hobject ↦ ⟨_, rfl, by rwa [isSimpleType, String.toList_ofList]⟩

/-- The type of a field mentions what the type in the model does, and the parameter if it is put
behind an object of the generated crate. -/
theorem mentions_fieldType_iff {ty plain : String} {needsAny : Bool} (hfile : ty ≠ fileMarker)
    (h : fieldType ty needsAny = .ok plain) :
    Mentions name plain.toList ↔ Mentions name ty.toList ∨
      needsAny = true ∧ HasObjectLeaf ty ∧ name = anyParameter.toList := by
  rw [fieldType, if_neg hfile] at h
  cases needsAny with
  | false =>
    obtain rfl := Except.ok.inj h
    simp
  | true =>
    obtain ⟨shape, hshape, rfl⟩ := map_eq_ok.mp ((withAnyGeneric_eq ty anyParameter).symm.trans h)
    rw [String.toList_ofList, TypeShape.mentions_mapLeaf_iff, mentions_leafWithAny_iff,
      TypeShape.mentions_iff hshape, hasObjectLeaf_iff hshape, or_assoc, and_iff_right rfl]

end TypestateBuilders
