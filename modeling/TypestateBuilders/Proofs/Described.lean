import TypestateBuilders.Proofs.Separation
import TypestateBuilders.Proofs.Undocumented
import TypestateBuilders.Template.Context

/-!
# Descriptions

What a model says about its parts are texts, or nothing (`Builder.IsDescribed`,
`ApiObject.IsDescribed`). Every line of a doc comment that is made from them is a doc comment
(`GivenText.exists_docLines`).

So the constructor and the setters of a builder, which carry such doc comments, agree with those of
the same builder without descriptions (`Builder.alike_constructor`, `Builder.alike_setters`): as
templates see them, they differ in doc comments at most. Templates are filled in with the same code
then (`alike_fill`).
-/

set_option autoImplicit false
set_option relaxedAutoImplicit false

namespace TypestateBuilders

open CodeLine Outcome Template

/-! ### Descriptions -/

namespace GivenText

/-- Whether a description is a text, or there is none. -/
def isDescription : GivenText → Bool
  | absent | text _ => true
  | other .. => false

/-- A description that is a text has a doc comment, and no line of the text leaves it. -/
theorem exists_docLines {description : GivenText} (h : description.isDescription = true) :
    ∃ lines, description.docLines = .ok lines ∧ ∀ line ∈ lines, IsDocLine line := by
  cases description with
  | absent => exact ⟨[], rfl, isDocLine_of_mem_nil⟩
  | text characters =>
    exact ⟨TypestateBuilders.docLines (some characters), rfl, fun _ ↦ isDocLine_of_mem_docLines⟩
  | other kind shown truth => cases h

end GivenText

/-- The descriptions of a builder and of its declarations. -/
def Builder.descriptions (builder : Builder) : List GivenText :=
  builder.description :: (builder.fields.map ObjectField.description ++
    builder.parameters.map Parameter.description)

/-- The descriptions of the operations at a path and of their parameters. -/
def PathOperations.descriptions (path : PathOperations) : List GivenText :=
  path.params.map Parameter.description ++ path.operations.flatMap fun entry ↦
    entry.2.description :: entry.2.params.map Parameter.description

/-- The descriptions of an object, of its fields and of the operations that address it. -/
def ApiObject.descriptions (object : ApiObject) : List GivenText :=
  object.description :: (object.fields.map ObjectField.description ++
    object.paths.flatMap fun entry ↦ entry.2.descriptions)

/-- A builder whose descriptions are texts, as far as there are any. -/
def Builder.IsDescribed (builder : Builder) : Prop :=
  ∀ description ∈ builder.descriptions, description.isDescription = true

/-- An object whose descriptions are texts, as far as there are any. -/
def ApiObject.IsDescribed (object : ApiObject) : Prop :=
  ∀ description ∈ object.descriptions, description.isDescription = true

instance (object : ApiObject) : Decidable object.IsDescribed :=
  inferInstanceAs
    (Decidable (∀ description ∈ object.descriptions, description.isDescription = true))

namespace Builder

/-- A property is described as it is declared. -/
theorem isDescription_of_mem_properties {builder : Builder} (h : builder.IsDescribed)
    {property : Property} (hproperty : property ∈ builder.properties) :
    property.description.isDescription = true := by
  refine h _ (List.mem_cons_of_mem _ (List.mem_append.mpr ?_))
  rcases origin_of_mem_properties hproperty with ⟨parameter, hmem, horigin⟩ | ⟨field, hmem, horigin⟩
  · exact Or.inr (List.mem_map.mpr ⟨parameter, hmem, (congrArg Property.description horigin).symm⟩)
  · exact Or.inl (List.mem_map.mpr ⟨field, hmem, (congrArg Property.description horigin).symm⟩)

/-! ### Constructors and setters -/

/-- A constructor is the same with other documentation. -/
theorem alike_constructor {builder : Builder} (h : builder.IsDescribed) (layout : Layout)
    (addComments : Bool) :
    Alike Failure.SameCause
      (fun constructor bare ↦ AgreeDeclaration constructor.value bare.value)
      (builder.constructor layout addComments)
      (builder.undocumented.constructor layout false) := by
  have htext : (builder.constructorText addComments).isDescription = true := by
    rw [constructorText]
    by_cases hgiven : (addComments && builder.description.isTrue) = true
    · rw [if_pos hgiven]
      exact h _ (List.mem_cons_self ..)
    · rw [if_neg hgiven]
      rfl
  obtain ⟨lines, hlines, hdoc⟩ := GivenText.exists_docLines htext
  have hsummary : (builder.undocumented.constructorText false).isDescription = true := rfl
  obtain ⟨others, hothers, hdoc'⟩ := GivenText.exists_docLines hsummary
  rw [constructor, constructor, hlines, hothers, type_undocumented]
  refine builder.alike_after_accepted ?_
  refine (Failure.alike_self builder.constructorName).bind ?_
  rintro name _ rfl
  refine Alike.answer ?_
  exact agreeDeclaration_object [_] _ (by simp [commentName]) hdoc hdoc'

/-- A setter is the same with other documentation. -/
theorem alike_setter? {builder : Builder} (data : String) (markers : List Marker)
    (addComments : Bool) {property : Property}
    (h : property.description.isDescription = true) :
    Alike Failure.SameCause
      (Option.Rel fun setter bare ↦ AgreeDeclaration setter.value bare.value)
      (builder.setter? data markers addComments property)
      (builder.undocumented.setter? data markers false property.undocumented) := by
  obtain ⟨lines, hlines, hdoc⟩ := GivenText.exists_docLines h
  rw [setter?, setter?, setterBody?_undocumented, hlines]
  refine (Failure.alike_self _).bind ?_
  rintro body _ rfl
  cases body with
  | none => exact Alike.answer Option.Rel.none
  | some body =>
    have hsetter : ∀ lines : List String, (∀ line ∈ lines, IsDocLine line) → AgreeDeclaration
        (builder.setterOf markers property lines body).value
        (builder.undocumented.setterOf markers property.undocumented [] body).value :=
      fun lines hdoc ↦
        agreeDeclaration_object [_] _ (by simp [commentName]) hdoc isDocLine_of_mem_nil
    -- A description that is a text cannot fail, so it does not matter whether it is looked at.
    cases addComments with
    | false => exact Alike.answer (Option.Rel.some (hsetter [] isDocLine_of_mem_nil))
    | true => exact Alike.answer (Option.Rel.some (hsetter lines hdoc))

/-- The setters of a builder are the same with other documentation. -/
theorem alike_setters {builder : Builder} (h : builder.IsDescribed) (layout : Layout)
    (addComments : Bool) :
    Alike Failure.SameCause
      (List.Forall₂ fun setter bare ↦ AgreeDeclaration setter.value bare.value)
      (builder.setters layout addComments) (builder.undocumented.setters layout false) := by
  have hpresent : ∀ {found bare : List (Option Setter)},
      List.Forall₂ (Option.Rel fun setter bare ↦ AgreeDeclaration setter.value bare.value)
        found bare →
      List.Forall₂ (fun setter bare ↦ AgreeDeclaration setter.value bare.value)
        found.reduceOption bare.reduceOption := by
    intro found bare hfound
    induction hfound with
    | nil => exact List.Forall₂.nil
    | cons hsetter _ ih =>
      rcases hsetter with hsetter | _
      · exact List.Forall₂.cons hsetter ih
      · exact ih
  rw [setters, setters, markers_undocumented, properties_undocumented]
  refine builder.alike_after_accepted ?_
  refine (Alike.mapM_map fun property hproperty ↦ ?_).bind fun found bare hfound ↦
    Alike.answer (hpresent hfound)
  exact alike_setter? _ _ _ (isDescription_of_mem_properties h hproperty)

end Builder

/-! ### Texts of templates -/

/-- A template is filled in with the same code in contexts that agree. -/
theorem alike_fill (name : Template.Name) {context bare : Template.Scope}
    (h : Scope.Agree context bare) :
    Alike Failure.SameCause SameCode (fill name context) (fill name bare) := by
  have hlines := alike_nodesLines h name.template (nodesSeparate_template name)
  rw [fill, fill, Template.lines, Template.lines]
  generalize nodesLines context name.template = outcome,
    nodesLines bare name.template = outcome' at hlines
  rcases hlines with hcode | rfl
  · refine Alike.answer ?_
    rw [SameCode, codeLines_textOfLines, codeLines_textOfLines, hcode]
  · exact Alike.failure rfl

theorem alike_text (outcome : Except Failure String) :
    Alike Failure.SameCause SameCode outcome outcome :=
  Alike.of_eq (fun _ ↦ rfl) fun _ ↦ rfl

end TypestateBuilders
