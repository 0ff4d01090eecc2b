import TypestateBuilders.Proofs.MarkerModule
import TypestateBuilders.Proofs.Mentions
import TypestateBuilders.Proofs.UsedParameters

/-!
# Type parameters that capture the names of types

The implementation that fills a builder declares its type parameters, and inside it a type that is
mentioned under the name of one of them is that parameter. Parameters are named after required
properties. The types that setters take are made of the types in the model, of a few names that the
generator adds, and of paths to marker types, which nothing captures. So what a setter mentions is
known from its property (`Builder.Exposes`), and the parameters capture nothing exactly if none is
named like the builder or like a type that a property exposes
(`Builder.parameters_capture_nothing_iff`). A required field named `string` beside a field of type
`String` is enough for a capture (`Builder.exists_captured_type`).
-/

set_option autoImplicit false
set_option relaxedAutoImplicit false

namespace TypestateBuilders

open Naming Outcome Text

/-! ### Names of type parameters -/

theorem isNameChar_of_isIdentChar {c : Char} (h : isIdentChar c = true) : isNameChar c = true := by
  have halphanum : (c.isAlphanum || c = '_') = true := h
  have hascii : c.toNat < 0x80 := by
    rcases Bool.or_eq_true_iff.mp halphanum with hword | hunderscore
    · simp only [Char.isAlphanum, Char.isAlpha, Char.isUpper, Char.isLower, Char.isDigit,
        UInt32.le_iff_toNat_le, Bool.or_eq_true, Bool.and_eq_true, decide_eq_true_eq] at hword
      simp at hword
      omega
    · rw [of_decide_eq_true hunderscore]
      decide
  rw [isNameChar, if_pos hascii, halphanum]

theorem isName_of_isIdentChar {text : String} (hnonempty : text ≠ "")
    (h : ∀ c ∈ text.toList, isIdentChar c = true) : IsName text.toList :=
  ⟨fun hempty ↦ hnonempty (String.toList_eq_nil_iff.mp hempty),
    fun c hc ↦ isNameChar_of_isIdentChar (h c hc)⟩

/-- A fresh name begins with the name that it is made from. -/
theorem exists_freshName_eq_start (taken : List String) (name : String) :
    ∃ rest, freshName taken name = name ++ rest := by
  fun_induction freshName taken name with
  | case1 name htaken ih =>
    obtain ⟨rest, hrest⟩ := ih
    exact ⟨markerEnding ++ rest, by rw [hrest, String.append_assoc]⟩
  | case2 name hfree => exact ⟨"", by simp⟩

/-- The only marker whose name opens with a small letter is that of a property without words. -/
theorem markerIdent_eq_field {name : String} {c : Char}
    (hhead : (markerIdent name).toList.head? = some c) (hlower : c.isLower = true) :
    markerIdent name = "field" := by
  have hconvert : Sanitizer.convert .pascal name =
      String.ofList (repairStart (pascalChars name.toList)) := rfl
  cases hpascal : pascalChars name.toList with
  | nil =>
    rw [markerIdent, Sanitizer.sanitize, hconvert, hpascal]
    rfl
  | cons d rest =>
    have hopened : ¬ d.isLower = true := not_isLower_head_pascalChars d (by rw [hpascal]; rfl)
    have hrepaired : (repairStart (d :: rest)).head? = some '_' ∨
        (repairStart (d :: rest)).head? = some d := by
      rw [repairStart_cons]
      split
      · exact Or.inl rfl
      · exact Or.inr rfl
    have hkept : (markerIdent name).toList.head? = (repairStart (d :: rest)).head? := by
      have hnonempty : repairStart (d :: rest) ≠ [] := by
        intro hempty
        rw [hempty] at hrepaired
        rcases hrepaired with hmark | hsame
        · cases hmark
        · cases hsame
      rw [markerIdent, Sanitizer.sanitize, Sanitizer.avoidTaken, hconvert, hpascal]
      split
      · rw [String.toList_append, String.toList_ofList, List.head?_append_of_ne_nil _ hnonempty]
      · rw [String.toList_ofList]
    rw [hkept] at hhead
    rcases hrepaired with hmark | hsame
    · obtain rfl := Option.some.inj (hmark.symm.trans hhead)
      exact absurd hlower (by decide)
    · obtain rfl := Option.some.inj (hsame.symm.trans hhead)
      exact absurd hlower hopened

namespace Builder

/-- A type parameter that opens with a small letter is that of a property without words. -/
theorem generic_eq_field (builder : Builder) (name : String) {c : Char}
    (hhead : (builder.marker name).generic.toList.head? = some c) (hlower : c.isLower = true) :
    (builder.marker name).generic = "field" := by
  by_cases hrenamed : builder.isRenamed name = true
  · obtain ⟨rest, hfresh⟩ :=
      exists_freshName_eq_start builder.takenParams (anyParameter ++ markerEnding)
    rw [generic_of_renamed builder name hrenamed, hfresh, String.toList_append] at hhead
    obtain rfl : 'A' = c := by simpa [anyParameter] using hhead
    exact absurd hlower (by decide)
  · rw [generic_of_not_renamed builder name hrenamed] at hhead ⊢
    exact markerIdent_eq_field hhead hlower

/-- No type parameter is any other word that opens with a small letter. -/
theorem generic_ne_of_isLower (builder : Builder) (name : String) {word : String} {c : Char}
    (hhead : word.toList.head? = some c) (hlower : c.isLower = true) (hword : word ≠ "field") :
    (builder.marker name).generic ≠ word := by
  rintro rfl
  exact hword (builder.generic_eq_field name hhead hlower)

end Builder

/-! ### What a setter mentions -/

section

variable {name : List Char}

theorem mentions_pathArgument_iff :
    Mentions name pathArgument.toList ↔
      name = "impl".toList ∨ name = "AsRef".toList ∨ name = "std".toList := by
  have hpath : pathArgument.toList = "impl".toList ++ ' ' :: ("AsRef".toList ++ '<' ::
      (("std".toList ++ ':' :: ':' :: "path".toList) ++ ':' :: ':' :: "Path".toList ++ ['>'])) :=
    rfl
  rw [hpath, mentions_append_cons_iff (by decide), mentions_append_cons_iff (by decide),
    mentions_concat_iff (by decide), mentions_qualified_iff (by decide),
    mentions_qualified_iff (by decide), mentions_name_iff (by decide),
    mentions_name_iff (by decide), mentions_name_iff (by decide)]

theorem mentions_intoArgument_iff (ty : String) :
    Mentions name (intoArgument ty).toList ↔
      name = "impl".toList ∨ name = "Into".toList ∨ Mentions name ty.toList := by
  have hinto : (intoArgument ty).toList =
      "impl".toList ++ ' ' :: ("Into".toList ++ '<' :: (ty.toList ++ ['>'])) := by
    simp [intoArgument]
  rw [hinto, mentions_append_cons_iff (by decide), mentions_append_cons_iff (by decide),
    mentions_concat_iff (by decide), mentions_name_iff (by decide), mentions_name_iff (by decide)]

/-- A path to a marker type mentions what the path to helper modules does. -/
theorem mentions_markerPath_iff (helpers child : String) :
    Mentions name (genericsPath helpers ++ existsName (markerIdent child)).toList ↔
      Mentions name (helpers ++ "generics").toList := by
  have hpath : (genericsPath helpers ++ existsName (markerIdent child)).toList =
      (helpers ++ "generics").toList ++ ':' :: ':' :: (existsName (markerIdent child)).toList := by
    simp [genericsPath]
  have hname : IsName (existsName (markerIdent child)).toList := by
    refine isName_of_isIdentChar (by simp [existsName]) ?_
    rw [existsName, String.toList_append]
    exact List.forall_mem_append.mpr ⟨isIdentChar_of_mem_sanitize, List.all_eq_true.mp rfl⟩
  rw [hpath, mentions_qualified_iff hname]

end

namespace Builder

variable {builder : Builder} {layout : Layout} {addComments : Bool} {setters : List Setter}

/-- What the setter of a parameter mentions: the type that the model gives, or the one that the
parameter is written in where it is delimited. -/
def ParameterExposes (builder : Builder) (property : Property) (name : List Char) : Prop :=
  if property.needsFile then name = "AsRef".toList
  else if builder.keepsType property then
    name = "Into".toList ∨ Mentions name property.ty.toList
  else ∃ ty, wrapDelimited builder.helpers property.ty property.delimiting = .ok ty ∧
    Mentions name ty.toList

/-- What the setter of a field mentions. One that takes finished builders mentions the containers
around the leaf, the builder of the leaf, and the path to helper modules. -/
def FieldExposes (builder : Builder) (field : ObjectField) (name : List Char) : Prop :=
  if takesBuilders field = .ok true then
    (∃ shape, TypeShape.ofText field.tyPath = .ok shape ∧
      ((∃ part ∈ shape.frame, Mentions name part) ∨
        Mentions name (shape.leafPath ++ "Builder".toList))) ∨
      Mentions name (builder.helpers ++ "generics").toList ∨
      field.needsAny = true ∧ name = anyParameter.toList
  else if field.tyPath = fileMarker then name = "AsRef".toList
  else name = "Into".toList ∨ Mentions name field.tyPath.toList ∨
    field.needsAny = true ∧ HasObjectLeaf field.tyPath ∧ name = anyParameter.toList

/-- Whether the setter of a property mentions a type under a name that may be that of a type
parameter. -/
def Exposes (builder : Builder) (property : Property) (name : List Char) : Prop :=
  if property.kind.isParameter then builder.ParameterExposes property name
  else builder.bodyRequired = true ∧
    ∃ field, builder.objectField? property.name = some field ∧ builder.FieldExposes field name

/-- A name that may be that of a type parameter. -/
structure IsParameterName (name : List Char) : Prop where
  ne_impl : name ≠ "impl".toList
  ne_std : name ≠ "std".toList

theorem isParameterName_of_mem {parameter : String} (h : parameter ∈ builder.markerParameters) :
    IsParameterName parameter.toList := by
  rw [markerParameters_eq] at h
  obtain ⟨property, _, rfl⟩ := List.mem_map.mp h
  constructor
  · intro hsame
    have himpl : "impl".toList.head? = some 'i' := rfl
    exact builder.generic_ne_of_isLower property.name himpl (by decide) (by decide)
      (String.toList_inj.mp hsame)
  · intro hsame
    have hstd : "std".toList.head? = some 's' := rfl
    exact builder.generic_ne_of_isLower property.name hstd (by decide) (by decide)
      (String.toList_inj.mp hsame)

section

variable {name : List Char}

theorem mentions_parameterSetter_iff (hname : IsParameterName name) {data : String}
    {property : Property} {body : SetterBody}
    (h : builder.parameterSetter data property = .ok body) :
    Mentions name body.argTy.toList ↔ builder.ParameterExposes property name := by
  rw [ParameterExposes]
  rcases parameterSetter_eq_ok h with ⟨hfile, rfl⟩ | ⟨hfile, ty, hty, hother, rfl⟩ | ⟨hkeeps, hbody⟩
  · rw [if_pos hfile, mentions_pathArgument_iff, or_iff_right hname.ne_impl,
      or_iff_left hname.ne_std]
  · have hkeeps : ¬ builder.keepsType property = true := by
      intro hkeeps
      exact hother (Except.ok.inj (hty.symm.trans (keepsType_iff.mp hkeeps).2))
    rw [if_neg (by rw [hfile]; decide), if_neg hkeeps]
    constructor
    · exact fun hmentions ↦ ⟨ty, hty, hmentions⟩
    · rintro ⟨_, hsame, hmentions⟩
      obtain rfl := Except.ok.inj (hty.symm.trans hsame)
      exact hmentions
  · have hargTy : body.argTy = intoArgument property.ty := by
      rcases hbody with ⟨_, _, rfl⟩ | ⟨_, rfl⟩ <;> rfl
    rw [if_neg (by rw [(keepsType_iff.mp hkeeps).1]; decide), if_pos hkeeps, hargTy,
      mentions_intoArgument_iff, or_iff_right hname.ne_impl]

/-- What the finished builders mention that the setter of a field takes. -/
theorem mentions_nestedArguments_iff {field : ObjectField} (hchildren : field.childRequired ≠ []) :
    (∃ argument ∈ builder.nestedArguments field, Mentions name argument.toList) ↔
      Mentions name (builder.helpers ++ "generics").toList ∨
        field.needsAny = true ∧ name = anyParameter.toList := by
  have hmarkers : (∃ argument ∈ field.childRequired.map fun child ↦
        genericsPath builder.helpers ++ existsName (markerIdent child),
        Mentions name argument.toList) ↔ Mentions name (builder.helpers ++ "generics").toList := by
    obtain ⟨child, hchild⟩ := List.exists_mem_of_ne_nil _ hchildren
    constructor
    · rintro ⟨_, hmem, hmentions⟩
      obtain ⟨other, _, rfl⟩ := List.mem_map.mp hmem
      exact (mentions_markerPath_iff _ other).mp hmentions
    · exact fun hmentions ↦ ⟨_, List.mem_map.mpr ⟨child, hchild, rfl⟩,
        (mentions_markerPath_iff _ child).mpr hmentions⟩
  have hany : (∃ argument ∈ (if field.needsAny then some anyParameter else none).toList.filter
        (· ≠ ""), Mentions name argument.toList) ↔
      field.needsAny = true ∧ name = anyParameter.toList := by
    cases field.needsAny with
    | true =>
      have hkept : (some anyParameter).toList.filter (· ≠ "") = [anyParameter] := by decide
      rw [if_pos rfl, hkept]
      simp [mentions_name_iff isName_anyParameter]
    | false => simp
  rw [nestedArguments, childArguments, ← hmarkers, ← hany]
  simp only [List.mem_append, or_and_right, exists_or]

theorem mentions_fieldSetter_iff (hname : IsParameterName name) {data : String}
    {field : ObjectField} {body : SetterBody} (h : builder.fieldSetter data field = .ok body) :
    Mentions name body.argTy.toList ↔ builder.FieldExposes field name := by
  rw [FieldExposes]
  by_cases htakes : takesBuilders field = .ok true
  · obtain ⟨shape, hshape, hargTy⟩ := argTy_fieldSetter htakes h
    have hchildren : field.childRequired ≠ [] := by
      intro hempty
      rw [takesBuilders, hempty] at htakes
      cases htakes
    rw [if_pos htakes, hargTy, finishedType, String.toList_ofList, TypeShape.mentions_mapLeaf_iff,
      String.toList_append, ← List.append_assoc, mentions_angled_iff,
      mentions_nestedArguments_iff hchildren, ← or_assoc]
    simp only [hshape, Except.ok.injEq, exists_eq_left']
  · rw [if_neg htakes]
    obtain ⟨⟨argTy, value⟩, hargument, rfl⟩ := map_eq_ok.mp h
    obtain ⟨takes, htaken, hplain⟩ := bind_eq_ok.mp hargument
    obtain rfl : takes = false := by
      cases takes with
      | true => exact absurd htaken htakes
      | false => rfl
    rw [if_neg Bool.false_ne_true] at hplain
    by_cases hfile : field.tyPath = fileMarker
    · rw [if_pos hfile] at hplain ⊢
      obtain ⟨rfl, rfl⟩ := Prod.mk.inj (Except.ok.inj hplain)
      rw [mentions_pathArgument_iff, or_iff_right hname.ne_impl, or_iff_left hname.ne_std]
    · rw [if_neg hfile] at hplain ⊢
      obtain ⟨plain, hty, hanswer⟩ := bind_eq_ok.mp hplain
      obtain ⟨rfl, rfl⟩ := Prod.mk.inj (Except.ok.inj hanswer)
      rw [mentions_intoArgument_iff, or_iff_right hname.ne_impl, mentions_fieldType_iff hfile hty]

/-- The setter of a property mentions what the property exposes. -/
theorem mentions_setterBody?_iff (hname : IsParameterName name) {data : String}
    {property : Property} {body : SetterBody}
    (h : builder.setterBody? data property = .ok (some body)) :
    Mentions name body.argTy.toList ↔ builder.Exposes property name := by
  rw [setterBody?] at h
  rw [Exposes]
  by_cases hkind : property.kind.isParameter = true
  · rw [if_pos hkind] at h ⊢
    obtain ⟨_, hsetter, hsame⟩ := map_eq_ok.mp h
    obtain rfl := Option.some.inj hsame
    exact mentions_parameterSetter_iff hname hsetter
  · rw [if_neg hkind] at h ⊢
    by_cases hrequired : builder.bodyRequired = true
    · rw [if_pos hrequired] at h
      rw [and_iff_right hrequired]
      cases hfield : builder.objectField? property.name with
      | none =>
        rw [hfield] at h
        cases h
      | some field =>
        rw [hfield] at h
        obtain ⟨_, hsetter, hsame⟩ := map_eq_ok.mp h
        obtain rfl := Option.some.inj hsame
        rw [mentions_fieldSetter_iff hname hsetter]
        simp
    · rw [if_neg hrequired] at h
      cases h

/-- A property without a setter exposes nothing. -/
theorem setterBody?_ne_none_of_exposes {data : String} {property : Property}
    (h : builder.Exposes property name) : builder.setterBody? data property ≠ .ok none := by
  rw [Exposes] at h
  by_cases hkind : property.kind.isParameter = true
  · exact setterBody?_ne_none_of_parameter hkind
  · rw [if_neg hkind] at h
    obtain ⟨hrequired, field, hfield, _⟩ := h
    exact setterBody?_ne_none_of_field hkind hrequired hfield

end

/-- When type parameters capture nothing. The setter of a property mentions a type parameter of a
marker exactly if the property exposes a type of this name. So no parameter is named like the
builder or is mentioned in the type that a setter takes, exactly if none is named like the builder
or like a type that a property exposes. -/
theorem parameters_capture_nothing_iff
    (h : builder.setters layout addComments = .ok setters) :
    (∀ setter ∈ setters, ∃ property ∈ builder.properties, setter.name = property.key ∧
      ∀ parameter ∈ builder.markerParameters,
        (Mentions parameter.toList setter.argTy.toList ↔
          builder.Exposes property parameter.toList)) ∧
    ((∀ parameter ∈ builder.markerParameters, parameter ≠ builder.name ∧
        ∀ setter ∈ setters, ¬ Mentions parameter.toList setter.argTy.toList) ↔
      ∀ parameter ∈ builder.markerParameters, parameter ≠ builder.name ∧
        ∀ property ∈ builder.properties, ¬ builder.Exposes property parameter.toList) := by
  have hsetters : ∀ setter ∈ setters, ∃ property ∈ builder.properties,
      setter.name = property.key ∧ ∀ parameter ∈ builder.markerParameters,
        (Mentions parameter.toList setter.argTy.toList ↔
          builder.Exposes property parameter.toList) := by
    intro setter hsetter
    obtain ⟨property, hproperty, _, body, hbody, rfl⟩ := exists_body_of_mem_setters h hsetter
    exact ⟨property, hproperty, name_setterOf .., fun parameter hparameter ↦
      mentions_setterBody?_iff (isParameterName_of_mem hparameter) hbody⟩
  refine ⟨hsetters, forall₂_congr fun parameter hparameter ↦ and_congr_right fun _ ↦ ?_⟩
  constructor
  · intro hfree property hproperty hexposes
    obtain ⟨setter, hsetter, _, body, hbody, rfl⟩ :=
      exists_setter_of_body h hproperty (setterBody?_ne_none_of_exposes hexposes)
    exact hfree _ hsetter
      ((mentions_setterBody?_iff (isParameterName_of_mem hparameter) hbody).mpr hexposes)
  · intro hfree setter hsetter hmentions
    obtain ⟨property, hproperty, _, hiff⟩ := hsetters setter hsetter
    exact hfree property hproperty ((hiff parameter hparameter).mp hmentions)

/-- A builder for a pet that must have a name, and may have tags and owners, which must have
numbers. -/
def taggedBuilder : Builder where
  object := "Pet"
  fields := [{ name := "name", tyPath := "String", isRequired := true },
    { name := "tags", tyPath := "Vec<String>" },
    { name := "owners", tyPath := "Vec<crate::owner::Owner>", knownChildren := some ["id"] }]
  bodyRequired := true

/-- The layout of `taggedBuilder`. -/
def taggedLayout : Layout where
  needsContainer := false
  outer := [⟨"body", "self::Pet", defaultInit⟩, phantomSlot "_name" "Name"]
  container := []

theorem parameters_capture_nothing_tagged :
    taggedBuilder.layout = .ok taggedLayout ∧ taggedBuilder.markerParameters = ["Name"] ∧
      ∃ setters, taggedBuilder.setters taggedLayout false = .ok setters ∧
        ∀ parameter ∈ taggedBuilder.markerParameters, parameter ≠ taggedBuilder.name ∧
          ∀ property ∈ taggedBuilder.properties,
            ¬ taggedBuilder.Exposes property parameter.toList := by
  have hlayout : taggedBuilder.layout = .ok taggedLayout := by decide +kernel
  have hparameters : taggedBuilder.markerParameters = ["Name"] := by decide +kernel
  have hrendered : (taggedBuilder.setters taggedLayout false).map
      (fun setters ↦ setters.map Setter.argTy) =
        .ok ["impl Into<String>", "impl Into<Vec<String>>",
          "Vec<crate::owner::OwnerBuilder<crate::generics::IdExists>>"] := by
    decide +kernel
  obtain ⟨setters, hsetters, hargTys⟩ := map_eq_ok.mp hrendered
  refine ⟨hlayout, hparameters, setters, hsetters,
    (parameters_capture_nothing_iff hsetters).2.mp fun parameter hparameter ↦ ?_⟩
  rw [hparameters, List.mem_singleton] at hparameter
  subst hparameter
  have hfree : ∀ argTy ∈ setters.map Setter.argTy, ¬ Mentions "Name".toList argTy.toList := by
    rw [hargTys]
    decide +kernel
  exact ⟨by decide +kernel, fun setter hsetter ↦ hfree _ (List.mem_map_of_mem hsetter)⟩

/-- A builder for a pet that must have a string, whose length is counted, and may have a name. -/
def leashedBuilder : Builder where
  object := "Pet"
  fields := [{ name := "string", tyPath := "i64", isRequired := true },
    { name := "name", tyPath := "String" }]
  bodyRequired := true

/-- The layout of `leashedBuilder`. -/
def leashedLayout : Layout where
  needsContainer := false
  outer := [⟨"body", "self::Pet", defaultInit⟩, phantomSlot "_string" "String"]
  container := []

/-- A type parameter can have the name of a type that a setter takes. -/
theorem exists_captured_type :
    leashedBuilder.layout = .ok leashedLayout ∧ leashedBuilder.markerParameters = ["String"] ∧
      (∃ setters, leashedBuilder.setters leashedLayout false = .ok setters ∧
        setters.map Setter.argTy = ["impl Into<i64>", "impl Into<String>"]) ∧
      ¬ ∀ (builder : Builder) (layout : Layout) (addComments : Bool) (setters : List Setter),
        builder.layout = .ok layout → builder.setters layout addComments = .ok setters →
        ∀ parameter ∈ builder.markerParameters, parameter ≠ builder.name ∧
          ∀ setter ∈ setters, ¬ Mentions parameter.toList setter.argTy.toList := by
  have hlayout : leashedBuilder.layout = .ok leashedLayout := by decide +kernel
  have hparameters : leashedBuilder.markerParameters = ["String"] := by decide +kernel
  have hrendered : (leashedBuilder.setters leashedLayout false).map
      (fun setters ↦ setters.map Setter.argTy) = .ok ["impl Into<i64>", "impl Into<String>"] := by
    decide +kernel
  obtain ⟨setters, hsetters, hargTys⟩ := map_eq_ok.mp hrendered
  refine ⟨hlayout, hparameters, ⟨setters, hsetters, hargTys⟩, fun hlaw ↦ ?_⟩
  have hparameter : "String" ∈ leashedBuilder.markerParameters :=
    hparameters ▸ List.mem_singleton_self _
  have hargTy : "impl Into<String>" ∈ setters.map Setter.argTy := by
    rw [hargTys]
    exact List.mem_cons_of_mem _ List.mem_cons_self
  obtain ⟨setter, hsetter, hname⟩ := List.mem_map.mp hargTy
  refine (hlaw _ _ false setters hlayout hsetters "String" hparameter).2 setter hsetter ?_
  rw [hname]
  decide +kernel

end Builder

end TypestateBuilders
