import TypestateBuilders.Proofs.MergedFields
import TypestateBuilders.Proofs.NestedTypes

/-!
# The types of parameters

An array is sent in one format per level. The formats are written into its path from the inside out,
one in front of each closing bracket (`closeLevels`), and the path is cut there: what was written in
front of a bracket is not looked at again (`closeLevels_append`). So the formats of the inner levels
stand in front of those of the outer ones, and each format stands at its level, if there are as many
formats as levels (`wrapDelimited_nestedArray`).

What makes a path that of an array is that the name of arrays stands somewhere in it. So a type that
has no brackets, and is no array, is kept as it is declared only if the name does not occur in it
(`Builder.scalar_kept_iff`).
-/

set_option autoImplicit false
set_option relaxedAutoImplicit false

namespace TypestateBuilders

/-! ### Arrays in formats -/

/-- An array with a number of levels around its leaf. -/
def nestedArray (levels : ℕ) (leaf : String) : String :=
  (fun inside ↦ "Vec<" ++ inside ++ ">")^[levels] leaf

/-- A leaf that is sent in one format per level, outermost first. -/
def delimited (helpers leaf : String) : List CollectionFormat → String
  | [] => leaf
  | format :: formats =>
    helpers ++ "util::Delimited<" ++ delimited helpers leaf formats ++ ", " ++ helpers ++
      "util::" ++ format.name ++ ">"

theorem toList_nestedArray (levels : ℕ) (leaf : String) :
    (nestedArray levels leaf).toList = (TypeShape.generic vecName)^[levels] leaf.toList := by
  induction levels with
  | zero => rfl
  | succ levels ih =>
    rw [nestedArray, Function.iterate_succ_apply', Function.iterate_succ_apply', ← ih]
    exact NestedType.toList_vec _

theorem vecName_infix_nestedArray {levels : ℕ} (h : 1 ≤ levels) (leaf : String) :
    vecName <:+: (nestedArray levels leaf).toList := by
  obtain ⟨inner, rfl⟩ := Nat.exists_eq_add_of_le' h
  rw [toList_nestedArray, Function.iterate_succ_apply', TypeShape.generic, List.append_assoc]
  exact (List.prefix_append vecName _).isInfix

theorem replaceAll_vecName_cons {c : Char} (hc : c ∉ vecName) (replacement rest : List Char) :
    Text.replaceAll vecName replacement (c :: rest) =
      c :: Text.replaceAll vecName replacement rest := by
  refine Text.replaceAll_cons_of_not_start fun hstart ↦ hc ?_
  have hname : vecName = 'V' :: ['e', 'c'] := by decide
  rw [hname, List.cons_prefix_cons] at hstart
  rw [hname, hstart.1]
  exact List.mem_cons_self

/-- The name of an array is replaced at each level, if it does not occur in the leaf. -/
theorem replaceAll_nested {leaf : List Char} (hleaf : ¬ vecName <:+: leaf) (replacement : List Char)
    (levels : ℕ) {rest : List Char} (hrest : ∀ c ∈ rest.head?, c ∉ vecName) :
    Text.replaceAll vecName replacement ((TypeShape.generic vecName)^[levels] leaf ++ rest) =
      (TypeShape.generic replacement)^[levels] leaf ++
        Text.replaceAll vecName replacement rest := by
  induction levels generalizing rest with
  | zero => exact Text.replaceAll_append_of_not_infix hleaf hrest
  | succ levels ih =>
    have hclose : ∀ c ∈ ('>' :: rest).head?, c ∉ vecName := by
      rintro c ⟨⟩
      decide
    rw [Function.iterate_succ_apply', Function.iterate_succ_apply', TypeShape.generic_append,
      Text.replaceAll_pattern_append (by decide), replaceAll_vecName_cons (by decide), ih hclose,
      replaceAll_vecName_cons (by decide), TypeShape.generic_append]

theorem replaceAll_nestedArray {leaf : String} (hleaf : ¬ vecName <:+: leaf.toList)
    (replacement : List Char) (levels : ℕ) :
    Text.replaceAll vecName replacement (nestedArray levels leaf).toList =
      (TypeShape.generic replacement)^[levels] leaf.toList := by
  have hall : Text.replaceAll vecName replacement
      ((TypeShape.generic vecName)^[levels] leaf.toList ++ []) =
        (TypeShape.generic replacement)^[levels] leaf.toList ++
          Text.replaceAll vecName replacement [] :=
    replaceAll_nested hleaf replacement levels (by simp)
  rwa [Text.replaceAll, List.append_nil, List.append_nil, ← toList_nestedArray] at hall

theorem count_nested {head leaf : List Char} (hhead : '>' ∉ head) (hleaf : '>' ∉ leaf)
    (levels : ℕ) : ((TypeShape.generic head)^[levels] leaf).count '>' = levels := by
  induction levels with
  | zero => exact List.count_eq_zero.mpr hleaf
  | succ levels ih =>
    rw [Function.iterate_succ_apply', TypeShape.generic]
    simp [List.count_append, ih, List.count_eq_zero.mpr hhead]

/-! ### Closing the levels -/

section

variable (helpers : List Char)

/-- What stands in front of the closing brackets stays. -/
theorem closeLevels_append {text : List Char} (h : '>' ∉ text) (formats : List CollectionFormat)
    (rest : List Char) :
    closeLevels helpers formats (text ++ rest) = text ++ closeLevels helpers formats rest := by
  have hall := TypeShape.ne_of_notMem h
  cases formats with
  | nil => rfl
  | cons format formats =>
    rw [closeLevels, closeLevels, List.takeWhile_append_of_pos hall,
      List.dropWhile_append_of_pos hall]
    simp only [List.append_assoc]

/-- A level is closed by its format and its bracket. -/
theorem closeLevels_close (format : CollectionFormat) (formats : List CollectionFormat)
    (rest : List Char) :
    closeLevels helpers (format :: formats) ('>' :: rest) =
      ", ".toList ++ helpers ++ "util::".toList ++ format.name.toList ++
        '>' :: closeLevels helpers formats rest := by
  rw [closeLevels]
  rfl

/-- As many formats as a text has closing brackets are written into this text, and the others into
what follows. -/
theorem closeLevels_append_formats {text : List Char} {formats : List CollectionFormat}
    (h : text.count '>' = formats.length) (others : List CollectionFormat) (rest : List Char) :
    closeLevels helpers (formats ++ others) (text ++ rest) =
      closeLevels helpers formats text ++ closeLevels helpers others rest := by
  induction formats generalizing text with
  | nil => exact closeLevels_append helpers (List.count_eq_zero.mp h) others rest
  | cons format formats ih =>
    have hclose : '>' ∈ text := List.count_pos_iff.mp (h ▸ Nat.succ_pos _)
    obtain ⟨front, back, rfl, hfront⟩ := List.eq_append_cons_of_mem hclose
    have hback : back.count '>' = formats.length := by
      rw [List.count_append, List.count_eq_zero.mpr hfront, List.count_cons_self] at h
      simpa using h
    rw [List.append_assoc, closeLevels_append helpers hfront, closeLevels_append helpers hfront,
      List.cons_append, List.cons_append, closeLevels_close, closeLevels_close, ih hback]
    simp only [List.append_assoc, List.cons_append]

end

/-- Each format stands at its level. The induction goes from the outermost level inwards: the
formats of the inner levels are written first, and leave one bracket to the format of the outer
one. -/
theorem closeLevels_nested {helpers leaf : String} (hhelpers : '>' ∉ helpers.toList)
    (hleaf : '>' ∉ leaf.toList) (formats : List CollectionFormat) :
    closeLevels helpers.toList formats.reverse
        ((TypeShape.generic (helpers ++ "util::Delimited").toList)^[formats.length] leaf.toList) =
      (delimited helpers leaf formats).toList := by
  have hhead : '>' ∉ (helpers ++ "util::Delimited").toList := by
    rw [String.toList_append, List.mem_append, not_or]
    exact ⟨hhelpers, by decide⟩
  induction formats with
  | nil => rfl
  | cons format formats ih =>
    have hfront : '>' ∉ (helpers ++ "util::Delimited").toList ++ ['<'] := by
      rw [List.mem_append, not_or]
      exact ⟨hhead, by decide⟩
    have hcount : ((helpers ++ "util::Delimited").toList ++ ['<'] ++
        (TypeShape.generic (helpers ++ "util::Delimited").toList)^[formats.length]
          leaf.toList).count '>' = formats.reverse.length := by
      rw [List.count_append, List.count_eq_zero.mpr hfront, count_nested hhead hleaf, Nat.zero_add,
        List.length_reverse]
    have hpath : ∀ head inside : List Char,
        TypeShape.generic head inside = head ++ ['<'] ++ inside ++ ['>'] := by
      intro head inside
      rw [TypeShape.generic, List.append_cons head]
    have hopen : "util::Delimited<".toList = "util::Delimited".toList ++ ['<'] := by decide
    have hclose : ">".toList = ['>'] := by decide
    rw [List.reverse_cons, List.length_cons, Function.iterate_succ_apply', hpath,
      closeLevels_append_formats _ hcount, closeLevels_append _ hfront, ih, closeLevels_close,
      delimited]
    simp only [String.toList_append, hopen, hclose, closeLevels, List.append_assoc]

/-- An array is sent in the formats that are given, the first one at the outermost level, if there
is one format for each of its levels. Otherwise it is refused. -/
theorem wrapDelimited_nestedArray {helpers leaf : String} (hhelpers : '>' ∉ helpers.toList)
    (hleaf : '>' ∉ leaf.toList) (hname : ¬ vecName <:+: leaf.toList) {levels : ℕ}
    (hlevels : 1 ≤ levels) (formats : List CollectionFormat) :
    wrapDelimited helpers (nestedArray levels leaf) formats =
      if formats.length = levels then .ok (delimited helpers leaf formats)
      else .error (.delimiterCount (nestedArray levels leaf) levels formats.length) := by
  have hcount : (nestedArray levels leaf).toList.count '>' = levels := by
    rw [toList_nestedArray]
    exact count_nested (by decide) hleaf levels
  have harray : ¬ (Text.cutAt vecName (nestedArray levels leaf).toList).isNone = true := by
    rw [Option.isNone_iff_eq_none, Text.cutAt_eq_none_iff, not_not]
    exact vecName_infix_nestedArray hlevels leaf
  rw [wrapDelimited, if_neg harray, hcount]
  by_cases hlength : formats.length = levels
  · rw [if_neg (not_not.mpr hlength.symm), if_pos hlength, replaceAll_nestedArray hname, ← hlength]
    dsimp only
    rw [closeLevels_nested hhelpers hleaf, String.ofList_toList]
  · rw [if_pos (Ne.symm hlength), if_neg hlength]

/-- A leaf that begins like the name of arrays, in an array of arrays. -/
theorem wrapDelimited_nestedArray_veil :
    '>' ∉ "crate::".toList ∧ '>' ∉ "crate::Veil".toList ∧ ¬ vecName <:+: "crate::Veil".toList ∧
      1 ≤ 2 ∧ nestedArray 2 "crate::Veil" = "Vec<Vec<crate::Veil>>" ∧
      wrapDelimited "crate::" "Vec<Vec<crate::Veil>>" [.csv, .pipes] =
        .ok ("crate::util::Delimited<crate::util::Delimited<crate::Veil, crate::util::Pipes>, " ++
          "crate::util::Csv>") ∧
      wrapDelimited "crate::" "Vec<Vec<crate::Veil>>" [.csv] =
        .error (.delimiterCount "Vec<Vec<crate::Veil>>" 2 1) := by
  have hhelpers : '>' ∉ "crate::".toList := by decide
  have hleaf : '>' ∉ "crate::Veil".toList := by decide
  have hname : ¬ vecName <:+: "crate::Veil".toList := by decide
  have hlevels : 1 ≤ 2 := Nat.le_succ 1
  have harray : nestedArray 2 "crate::Veil" = "Vec<Vec<crate::Veil>>" := by decide
  have hdelimited : delimited "crate::" "crate::Veil" [.csv, .pipes] =
      "crate::util::Delimited<crate::util::Delimited<crate::Veil, crate::util::Pipes>, " ++
        "crate::util::Csv>" := by
    decide
  have hwrapped := wrapDelimited_nestedArray hhelpers hleaf hname hlevels
  rw [harray] at hwrapped
  rw [← hdelimited]
  exact ⟨hhelpers, hleaf, hname, hlevels, harray, hwrapped [.csv, .pipes], hwrapped [.csv]⟩

/-! ### Types without brackets -/

/-- The type with the name of arrays replaced by that of delimited values, wherever it occurs. -/
def respelled (helpers ty : String) : String :=
  String.ofList (Text.replaceAll vecName (helpers ++ "util::Delimited").toList ty.toList)

/-- A type without brackets is always given a result, in which the name of arrays is replaced. -/
theorem wrapDelimited_of_notMem {ty : String} (h : '>' ∉ ty.toList) (helpers : String) :
    wrapDelimited helpers ty [] = .ok (respelled helpers ty) := by
  rw [wrapDelimited]
  split
  · rename_i hplain
    rw [Option.isNone_iff_eq_none, Text.cutAt_eq_none_iff] at hplain
    rw [respelled, Text.replaceAll_of_not_infix hplain, String.ofList_toList]
  · rw [List.count_eq_zero.mpr h, if_neg (by simp)]
    rfl

/-- The name of arrays is replaced by a longer text. So only a type in which it does not occur
stays. -/
theorem respelled_eq_self_iff {helpers ty : String} (h : '>' ∉ ty.toList) :
    respelled helpers ty = ty ↔ ¬ vecName <:+: ty.toList := by
  have hkept : wrapDelimited helpers ty [] = .ok ty ↔ ¬ vecName <:+: ty.toList :=
    wrapDelimited_eq_self_iff
  rwa [wrapDelimited_of_notMem h, Except.ok.injEq] at hkept

namespace Builder

variable {builder : Builder} {layout : Layout}

/-- A layout declares one slot of a name. -/
theorem eq_of_declares {slot other : Slot} (h : layout.Declares slot)
    (hother : layout.Declares other) (hname : slot.name = other.name) : slot = other := by
  have honce := h.once
  rw [hname, hother.once] at honce
  exact (List.cons.inj honce).1.symm

theorem ty_eq_of_declares {name ty other : String}
    (h : layout.Declares ⟨name, "Option<" ++ ty ++ ">", "None"⟩)
    (hother : layout.Declares ⟨name, "Option<" ++ other ++ ">", "None"⟩) : ty = other := by
  have hty := congrArg Slot.ty (eq_of_declares h hother rfl)
  exact (String.append_right_inj _).mp ((String.append_left_inj _).mp hty)

/-- The slot and the setter of a parameter whose type has no brackets. -/
theorem scalar_kept {addComments : Bool} {setters : List Setter}
    (hlayout : builder.layout = .ok layout)
    (hsetters : builder.setters layout addComments = .ok setters)
    {property : Property} (hproperty : property ∈ builder.properties)
    (hkind : property.kind.isParameter = true) (hclose : '>' ∉ property.ty.toList)
    (hfile : property.ty ≠ fileMarker) (hformats : property.delimiting = []) :
    layout.Declares ⟨property.valueSlot,
        "Option<" ++ respelled builder.helpers property.ty ++ ">", "None"⟩ ∧
    ∃ setter, setters.filter (fun other ↦
        layout.dataPath ++ property.valueSlot ∈ other.assigned) = [setter] ∧
      setter.argTy = if vecName <:+: property.ty.toList then respelled builder.helpers property.ty
        else intoArgument property.ty := by
  have hneeds : property.needsFile = false := by
    rw [needsFile_of_parameter hproperty hkind]
    exact decide_eq_false hfile
  obtain ⟨stored, hstored, hslot⟩ := declares_valueSlot hlayout hproperty hkind
  rw [paramType, hneeds, if_neg Bool.false_ne_true, hformats,
    wrapDelimited_of_notMem hclose] at hstored
  obtain rfl := Except.ok.inj hstored
  obtain ⟨ty, setter, hother, hassigned, htakes⟩ :=
    stores_of_parameter hlayout hsetters hproperty hkind
  obtain rfl := ty_eq_of_declares hslot hother
  refine ⟨hslot, setter, hassigned, ?_⟩
  rw [Takes, hneeds, Ne, respelled_eq_self_iff hclose, not_not] at htakes
  rcases htakes with ⟨hneeds, _⟩ | ⟨_, harray, hargument⟩ | ⟨_, hplain, hargument⟩
  · cases hneeds
  · rw [if_pos harray, hargument]
  · rw [if_neg hplain, hargument, (respelled_eq_self_iff hclose).mpr hplain]

/-- What becomes of a type without brackets, if it is no file and no format is given for it. The
type is kept, and the slot of such a parameter and its setter have it, exactly if the name of arrays
does not occur in it. Otherwise it is spelled with the name of delimited values in place of that of
arrays, and the setter takes values of this type as they are. -/
theorem scalar_kept_iff {ty : String} (hclose : '>' ∉ ty.toList) (hfile : ty ≠ fileMarker) :
    (∀ helpers, wrapDelimited helpers ty [] = .ok (respelled helpers ty) ∧
      paramType helpers ty [] (decide (ty = fileMarker)) = .ok (respelled helpers ty) ∧
      (respelled helpers ty = ty ↔ ¬ vecName <:+: ty.toList)) ∧
    ∀ (builder : Builder) (layout : Layout) (addComments : Bool) (setters : List Setter)
      (property : Property), builder.layout = .ok layout →
      builder.setters layout addComments = .ok setters → property ∈ builder.properties →
      property.kind.isParameter = true → property.ty = ty → property.delimiting = [] →
      ∃ setter, setters.filter (fun other ↦
          layout.dataPath ++ property.valueSlot ∈ other.assigned) = [setter] ∧
        (layout.Declares ⟨property.valueSlot, "Option<" ++ ty ++ ">", "None"⟩ ∧
            setter.argTy = intoArgument ty ↔ ¬ vecName <:+: ty.toList) ∧
        (vecName <:+: ty.toList →
          layout.Declares
            ⟨property.valueSlot, "Option<" ++ respelled builder.helpers ty ++ ">", "None"⟩ ∧
          setter.argTy = respelled builder.helpers ty) := by
  refine ⟨fun helpers ↦
    ⟨wrapDelimited_of_notMem hclose helpers, ?_, respelled_eq_self_iff hclose⟩, ?_⟩
  · rw [paramType, decide_eq_false hfile, if_neg Bool.false_ne_true,
      wrapDelimited_of_notMem hclose helpers]
  · rintro builder layout addComments setters property hlayout hsetters hproperty hkind rfl hformats
    obtain ⟨hslot, setter, hassigned, hargument⟩ :=
      scalar_kept hlayout hsetters hproperty hkind hclose hfile hformats
    refine ⟨setter, hassigned, ⟨?_, fun hplain ↦ ?_⟩, fun harray ↦ ⟨hslot, ?_⟩⟩
    · rintro ⟨hdeclared, _⟩
      exact (respelled_eq_self_iff hclose).mp (ty_eq_of_declares hslot hdeclared)
    · rw [(respelled_eq_self_iff hclose).mpr hplain] at hslot
      exact ⟨hslot, hargument.trans (if_neg hplain)⟩
    · exact hargument.trans (if_pos harray)

/-- A builder with two parameters of plain types. The name of one of the types begins like that of
arrays. -/
def directedShape : Builder where
  object := "Shape"
  method := some .get
  relPath := .text "/shapes"
  ownParams :=
    [{ name := "axis", tyPath := "crate::geo::Vector" }, { name := "limit", tyPath := "i64" }]

/-- The parameters of this builder as its properties. -/
def directedShapeProperties : List Property :=
  [{ name := "axis", ty := "crate::geo::Vector", kind := .optionalParameter,
      location := some .query },
    { name := "limit", ty := "i64", kind := .optionalParameter, location := some .query }]

/-- The layout of this builder. -/
def directedShapeLayout : Layout where
  needsContainer := false
  outer := [⟨"param_axis", "Option<crate::geo::crate::util::Delimitedtor>", "None"⟩,
    ⟨"param_limit", "Option<i64>", "None"⟩]
  container := []

/-- The setters of this builder. -/
def directedShapeSetters : List Setter :=
  [⟨"axis", [], "crate::geo::crate::util::Delimitedtor", "Self", "self",
      ["self.param_axis = Some(value);"]⟩,
    ⟨"limit", [], "impl Into<i64>", "Self", "self", ["self.param_limit = Some(value.into());"]⟩]

theorem directedShape_generated :
    directedShape.layout = .ok directedShapeLayout ∧
      directedShape.setters directedShapeLayout false = .ok directedShapeSetters ∧
      directedShape.properties = directedShapeProperties := by
  decide +kernel

/-- Of these two types only one is kept. -/
theorem scalar_kept_iff_directedShape :
    directedShape.layout = .ok directedShapeLayout ∧
      directedShape.setters directedShapeLayout false = .ok directedShapeSetters ∧
      directedShape.properties = directedShapeProperties ∧
      ∀ property ∈ directedShapeProperties, '>' ∉ property.ty.toList ∧ property.ty ≠ fileMarker ∧
        wrapDelimited "crate::" property.ty [] = .ok (respelled "crate::" property.ty) ∧
        ∃ setter ∈ directedShapeSetters,
          directedShapeLayout.Declares
              ⟨property.valueSlot, "Option<" ++ property.ty ++ ">", "None"⟩ ∧
            setter.argTy = intoArgument property.ty ↔ property.name = "limit" := by
  obtain ⟨hlayout, hsetters, hproperties⟩ := directedShape_generated
  refine ⟨hlayout, hsetters, hproperties, fun property hproperty ↦ ?_⟩
  have hplain : '>' ∉ property.ty.toList ∧ property.ty ≠ fileMarker ∧
      property.kind.isParameter = true ∧ property.delimiting = [] ∧
      (¬ vecName <:+: property.ty.toList ↔ property.name = "limit") := by
    revert property
    decide
  obtain ⟨hclose, hfile, hkind, hformats, hname⟩ := hplain
  obtain ⟨hwrapped, hkept⟩ := scalar_kept_iff hclose hfile
  obtain ⟨setter, hassigned, hdeclared, _⟩ := hkept directedShape directedShapeLayout false
    directedShapeSetters property hlayout hsetters (hproperties ▸ hproperty) hkind rfl hformats
  have hsetter : setter ∈ directedShapeSetters.filter fun other ↦
      directedShapeLayout.dataPath ++ property.valueSlot ∈ other.assigned := by
    rw [hassigned]
    exact List.mem_singleton_self setter
  exact ⟨hclose, hfile, (hwrapped "crate::").1, setter, List.mem_of_mem_filter hsetter,
    hdeclared.trans hname⟩

/-- A type without brackets is not always kept: one that has the name of arrays as a part of its own
name is spelled differently. -/
theorem exists_scalar_not_kept :
    ¬ ∀ helpers ty : String, '<' ∉ ty.toList → '>' ∉ ty.toList → ty ≠ fileMarker →
      wrapDelimited helpers ty [] = .ok ty ∧ paramType helpers ty [] false = .ok ty := by
  intro hkept
  obtain ⟨hwrapped, _⟩ :=
    hkept "crate::" "crate::geo::Vector" (by decide) (by decide) (by decide)
  exact wrapDelimited_eq_self_iff.mp hwrapped (by decide)

end Builder

end TypestateBuilders
