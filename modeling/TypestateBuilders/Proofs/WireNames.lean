import TypestateBuilders.Proofs.ObjectStruct
import TypestateBuilders.Proofs.StringLiteral

/-!
# Names on the wire

A field of a struct is known on the wire by the name that its attribute gives, which is a string
literal, or by its identifier where it has no attribute (`FieldDeclaration.wireName?`). The name of
a field is written into the literal as it is. So the name on the wire is that of the field exactly
if it is the identifier, or if there is an attribute and all characters stand for themselves in a
literal (`Generator.wireName_eq_iff`). An empty name has no attribute, and a name with a quote, a
backslash or a carriage return is not read back (`Generator.exists_lost_wireName`).
-/

set_option autoImplicit false
set_option relaxedAutoImplicit false

namespace TypestateBuilders

open Naming Outcome StringLiteral Template

namespace FieldDeclaration

/-- What stands in front of the name in an attribute, up to the opening quote. -/
def attributeHead : String :=
  "    #[serde(rename = \""

/-- The name that an attribute gives: its string literal, which must be all there is in it. -/
def attributeName? (line : List Char) : Option (List Char) :=
  if attributeHead.toList <+: line then
    ((read .plain (line.drop attributeHead.length)).filter fun answer ↦
      answer.2 = ")]".toList).map Prod.fst
  else none

/-- The name of a declared field on the wire. -/
def wireName? (declaration : FieldDeclaration) : Option (List Char) :=
  match declaration.attributeLines with
  | [] => some declaration.name.toList
  | line :: _ => attributeName? line.toList

/-- An attribute gives the name that is written into it exactly if all its characters stand for
themselves. -/
theorem attributeName?_eq_iff {name : String} :
    attributeName? (attributeHead ++ name ++ "\")]").toList = some name.toList ↔
      ∀ c ∈ name.toList, IsVerbatim c := by
  have hline : (attributeHead ++ name ++ "\")]").toList =
      attributeHead.toList ++ (name.toList ++ '"' :: ")]".toList) := by
    simp
  have hdrop : (attributeHead.toList ++ (name.toList ++ '"' :: ")]".toList)).drop
      attributeHead.length = name.toList ++ '"' :: ")]".toList := by
    rw [← String.length_toList, List.drop_left]
  rw [attributeName?, hline, if_pos (List.prefix_append _ _), hdrop, ← read_append_quote_iff,
    Option.map_eq_some_iff]
  constructor
  · rintro ⟨⟨decoded, left⟩, hread, rfl⟩
    obtain ⟨hread, hkept⟩ := Option.filter_eq_some_iff.mp hread
    have hleft : left = ")]".toList := of_decide_eq_true hkept
    rwa [hleft] at hread
  · exact fun hread ↦ ⟨_, Option.filter_eq_some_iff.mpr ⟨hread, decide_eq_true rfl⟩, rfl⟩

end FieldDeclaration

namespace Generator

variable {generator : Generator} {object : ApiObject} {text : String}

/-- What a struct declares are fields of its object. -/
theorem exists_field_of_declaration {name : String} {declared : List (String × String)}
    {fields : List ObjectField} {declarations : List FieldDeclaration}
    (h : (generator.declareFields name declared fields).outcome = .ok declarations)
    {declaration : FieldDeclaration} (hdeclaration : declaration ∈ declarations) :
    ∃ field ∈ fields, generator.declareField field = .ok declaration := by
  induction fields generalizing declared declarations with
  | nil =>
    obtain rfl := Except.ok.inj h
    exact absurd hdeclaration List.not_mem_nil
  | cons field rest ih =>
    have hlater : ∀ {declared others}, (generator.declareFields name declared rest).outcome =
        .ok others → declaration ∈ others →
        ∃ owner ∈ field :: rest, generator.declareField owner = .ok declaration := by
      intro declared others hothers hmem
      obtain ⟨owner, howner, hdeclared⟩ := ih hothers hmem
      exact ⟨owner, List.mem_cons_of_mem _ howner, hdeclared⟩
    cases hfound : Keyed.get? (fieldIdent field.name) declared with
    | some kept =>
      rw [outcome_declareFields_of_declared generator hfound] at h
      split at h
      · cases h
      · exact hlater h hdeclaration
    | none =>
      rw [outcome_declareFields_of_new generator hfound] at h
      obtain ⟨first, hfirst, hrest⟩ := bind_eq_ok.mp h
      obtain ⟨others, hothers, hanswer⟩ := bind_eq_ok.mp hrest
      obtain rfl := Except.ok.inj hanswer
      rcases List.mem_cons.mp hdeclaration with rfl | hmem
      · exact ⟨field, List.mem_cons_self, hfirst⟩
      · exact hlater hothers hmem

/-- Whether the name of a field survives in its struct: it is the identifier, or it is not empty and
stands for itself in a literal. -/
def KeepsName (name : String) : Prop :=
  fieldIdent name = name ∨ name ≠ "" ∧ ∀ c ∈ name.toList, IsVerbatim c

instance (name : String) : Decidable (KeepsName name) :=
  have : Decidable (∀ c ∈ name.toList, IsVerbatim c) := List.decidableBAll _ _
  inferInstanceAs (Decidable (fieldIdent name = name ∨ name ≠ "" ∧ ∀ c ∈ name.toList, IsVerbatim c))

theorem rename_of_declareField {field : ObjectField} {declaration : FieldDeclaration}
    (h : generator.declareField field = .ok declaration) :
    declaration.rename = if fieldIdent field.name = field.name then none else some field.name := by
  obtain ⟨_, _, h⟩ := bind_eq_ok.mp h
  obtain ⟨_, _, h⟩ := bind_eq_ok.mp h
  rw [← Except.ok.inj h]

theorem wireName?_of_declareField {field : ObjectField} {declaration : FieldDeclaration}
    (h : generator.declareField field = .ok declaration) :
    declaration.wireName? = some field.name.toList ↔ KeepsName field.name := by
  have hrename := rename_of_declareField h
  rw [KeepsName]
  by_cases hsame : fieldIdent field.name = field.name
  · have hnone : declaration.attributeLines = [] := by
      rw [FieldDeclaration.attributeLines, hrename, if_pos hsame]
    rw [FieldDeclaration.wireName?, hnone, name_of_declareField h, hsame]
    simp
  · rw [if_neg hsame] at hrename
    rw [or_iff_right hsame]
    by_cases hempty : field.name = ""
    · have hnone : declaration.attributeLines = [] := by
        rw [FieldDeclaration.attributeLines, hrename]
        exact if_pos hempty
      rw [FieldDeclaration.wireName?, hnone, name_of_declareField h]
      simp only [Option.some.injEq, String.toList_inj]
      exact iff_of_false hsame fun hboth ↦ hboth.1 hempty
    · have hline : declaration.attributeLines =
          [FieldDeclaration.attributeHead ++ field.name ++ "\")]"] := by
        rw [FieldDeclaration.attributeLines, hrename]
        exact if_neg hempty
      rw [FieldDeclaration.wireName?, hline, and_iff_right hempty]
      exact FieldDeclaration.attributeName?_eq_iff

/-- Which names survive in a struct. The struct of an object is made of the lines of its
declarations. Each of them declares a field of the object, and the name by which it is known on the
wire is that of the field exactly if that is an identifier already, or if it is not empty and holds
no quote, no backslash and no carriage return. -/
theorem wireName_eq_iff (h : (generator.renderObject object).outcome = .ok text) :
    ∃ docLines derives head declarations,
      text = textOfLines (structLines docLines derives head declarations) ∧
      (generator.declareFields object.name [] object.fields).outcome = .ok declarations ∧
      ∀ declaration ∈ declarations, ∃ field ∈ object.fields,
        generator.declareField field = .ok declaration ∧
        (declaration.wireName? = some field.name.toList ↔
          fieldIdent field.name = field.name ∨
            field.name ≠ "" ∧ ∀ c ∈ field.name.toList, c ≠ '"' ∧ c ≠ '\\' ∧ c ≠ '\r') := by
  obtain ⟨docLines, declarations, derives, _, hdeclarations, _, htext⟩ := renderObject_eq_ok.mp h
  refine ⟨docLines, derives, _, declarations, htext, hdeclarations, fun declaration hmem ↦ ?_⟩
  obtain ⟨field, hfield, hdeclared⟩ := exists_field_of_declaration hdeclarations hmem
  exact ⟨field, hfield, hdeclared, wireName?_of_declareField hdeclared⟩

/-- A pet with a number, a name, and what is written on its collar in two lines. -/
def collaredPet : ApiObject where
  name := "Pet"
  fields := [{ name := "petId", tyPath := "i64" }, { name := "name", tyPath := "String" },
    { name := "front\nback", tyPath := "String" }]

theorem wireName_eq_iff_collaredPet :
    ∃ text, (standard.renderObject collaredPet).outcome = .ok text ∧
      ∃ declarations : List FieldDeclaration, declarations ≠ [] ∧
        ∀ declaration ∈ declarations, ∃ field ∈ collaredPet.fields,
          declaration.wireName? = some field.name.toList := by
  have hrendered : (standard.renderObject collaredPet).outcome.isOk = true := by decide +kernel
  have hkept : ∀ field ∈ collaredPet.fields, KeepsName field.name := by decide +kernel
  have hdeclared : (standard.declareFields collaredPet.name [] collaredPet.fields).outcome ≠
      .ok [] := by
    decide +kernel
  obtain ⟨text, htext⟩ := exists_of_isOk hrendered
  obtain ⟨_, _, _, declarations, _, hdeclarations, hnames⟩ := wireName_eq_iff htext
  refine ⟨text, htext, declarations, fun hempty ↦ hdeclared (hempty ▸ hdeclarations),
    fun declaration hdeclaration ↦ ?_⟩
  obtain ⟨field, hfield, _, hiff⟩ := hnames declaration hdeclaration
  exact ⟨field, hfield, hiff.mpr (hkept field hfield)⟩

/-- A parcel with a label that is measured in inches, and with a field that has no name. -/
def inchParcel : ApiObject where
  name := "Parcel"
  fields := [{ name := "5\" label", tyPath := "String" }, { name := "", tyPath := "i64" }]

/-- The struct of `inchParcel`. -/
def inchParcelStruct : String :=
  textOfLines ["#[derive(Debug, Default, Clone, Deserialize, Serialize)]",
    "pub struct Parcel \x7b", "    #[serde(rename = \"5\" label\")]",
    "    pub _5_label: Option<String>,", "    pub field: Option<i64>,", "\x7d"]

/-- Names with a quote and empty names are not those by which their fields are known on the wire. -/
theorem exists_lost_wireName :
    (standard.renderObject inchParcel).outcome = .ok inchParcelStruct ∧
      (∃ declarations, (standard.declareFields inchParcel.name [] inchParcel.fields).outcome =
          .ok declarations ∧
        declarations.map FieldDeclaration.wireName? = [none, some "field".toList]) ∧
      ¬ ∀ (generator : Generator) (object : ApiObject) (text : String)
          (declarations : List FieldDeclaration),
        (generator.renderObject object).outcome = .ok text →
        (generator.declareFields object.name [] object.fields).outcome = .ok declarations →
        ∀ declaration ∈ declarations, ∃ field ∈ object.fields,
          declaration.wireName? = some field.name.toList := by
  have hrendered : (standard.renderObject inchParcel).outcome = .ok inchParcelStruct := by
    decide +kernel
  have hdeclared : (standard.declareFields inchParcel.name [] inchParcel.fields).outcome.map
      (fun declarations ↦ declarations.map FieldDeclaration.wireName?) =
        .ok [none, some "field".toList] := by
    decide +kernel
  obtain ⟨declarations, hdeclarations, hnames⟩ := map_eq_ok.mp hdeclared
  refine ⟨hrendered, ⟨declarations, hdeclarations, hnames⟩, fun hlaw ↦ ?_⟩
  have hnone : none ∈ declarations.map FieldDeclaration.wireName? :=
    hnames.symm ▸ List.mem_cons_self
  obtain ⟨declaration, hmem, hname⟩ := List.mem_map.mp hnone
  obtain ⟨field, _, hkept⟩ := hlaw standard inchParcel _ _ hrendered hdeclarations declaration hmem
  rw [hname] at hkept
  cases hkept

end Generator

end TypestateBuilders
