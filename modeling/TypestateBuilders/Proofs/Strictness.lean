import TypestateBuilders.Proofs.Refusal
import TypestateBuilders.Proofs.Builders
import TypestateBuilders.Generator.Source

/-!
# Strict policies only reject

A lenient generator is compared with the same one under other policies (`Generator.policedBy`). What
it writes for an object is refused exactly if one of the builders of the object is
(`Generator.refusedIf_renderWhole`). Fields of the object that share an identifier are looked for on
their own, while its struct is written; but these collide in the builder of the object too
(`Generator.collisions_objectBuilder_ne_nil`). Once no builder is refused, implementations and
marker types are the same under all policies (`Generator.renderImpls_policedBy`,
`Generator.markerNames_policedBy`).

So a strict policy never changes what is generated: it only rejects it, and for no other cause than
those that it names (`Generator.strict_policies_only_reject`).
-/

set_option autoImplicit false
set_option relaxedAutoImplicit false

namespace TypestateBuilders

open Naming Outcome Occurrence

namespace Settings

/-- The settings with given policies. -/
def withPolicies (settings : Settings) (collision unnamed : Value) : Settings :=
  { settings with fieldCollision := collision, unnamedOperations := unnamed }

/-- A policy that is known is given as a text. -/
theorem eq_text_of_policyName {setting name : String} {known : List String} {value : Value}
    (h : policyName setting known value = .ok name) : value = .text name := by
  obtain ⟨isKnown, hknown, hname⟩ := bind_eq_ok.mp h
  cases value with
  | text characters =>
    cases isKnown with
    | true => exact congrArg Value.text (Except.ok.inj hname)
    | false => cases hname
  | list elements => cases hknown
  | object members => cases hknown
  | null | bool | int | float => cases Except.ok.inj hknown; cases hname

end Settings

namespace Generator

open Builder

/-- The generator under the policies of another one. -/
def policedBy (generator policies : Generator) : Generator :=
  { generator with
    settings := { generator.settings with
      fieldCollision := policies.settings.fieldCollision
      unnamedOperations := policies.settings.unnamedOperations }
    collisionPolicy := policies.collisionPolicy
    unnamedPolicy := policies.unnamedPolicy }

/-- A generator whose policies refuse nothing. -/
structure IsLenient (generator : Generator) : Prop where
  drops : generator.collisionPolicy = .drop
  numbers : generator.unnamedPolicy = .indexed

section

variable {builder : Builder} {policies : Generator}

/-- The struct of a builder is refused where the builder is. -/
theorem refusedIf_renderBuilder (hlenient : builder.IsLenient) :
    RefusedIf (RefusedBy policies builder) (renderBuilder builder).outcome
      (renderBuilder (builder.policedBy policies)).outcome := by
  simp only [renderBuilder, Logged.outcome_bind, Logged.outcome_lift,
    Builder.outcome_nameConstructor, Builder.outcome_unify]
  refine ((refusedIf_constructorName hlenient).bind fun _ name _ ↦
    (refusedIf_accepted hlenient ()).bind_same fun haccepted _ ↦ ?_).congr or_comm
  rw [layout_policedBy hlenient haccepted]
  rfl

end

/-- The builders of an object under other policies. -/
theorem builders_policedBy (generator policies : Generator) (object : ApiObject) :
    (generator.policedBy policies).builders object =
      (generator.builders object).map (Builder.policedBy · policies) := by
  unfold builders
  rw [List.map_cons, List.map_flatMap]
  refine congrArg _ (List.flatMap_congr fun numbered _ ↦ ?_)
  unfold pathBuilders
  rw [List.map_map]
  rfl

/-- The builders of a lenient generator are lenient. -/
theorem isLenient_of_mem_builders {generator : Generator} (hlenient : generator.IsLenient)
    {object : ApiObject} {builder : Builder} (h : builder ∈ generator.builders object) :
    builder.IsLenient := by
  rcases mem_builders_iff.mp h with rfl | ⟨_, _, _, _, _, _, _, rfl⟩
  · exact ⟨hlenient.drops, hlenient.numbers⟩
  · exact ⟨hlenient.drops, hlenient.numbers⟩

/-- The fields whose identifiers are all different and not declared yet. -/
def AreNew (declared : List (String × String)) (fields : List ObjectField) : Prop :=
  (fields.map fun field ↦ fieldIdent field.name).Nodup ∧
    ∀ field ∈ fields, fieldIdent field.name ∉ Keyed.keys declared

theorem areNew_cons {declared : List (String × String)} {field : ObjectField}
    {rest : List ObjectField} :
    AreNew declared (field :: rest) ↔ fieldIdent field.name ∉ Keyed.keys declared ∧
      AreNew ((fieldIdent field.name, field.name) :: declared) rest := by
  have hkeys : ∀ other : ObjectField,
      fieldIdent other.name ∉ Keyed.keys ((fieldIdent field.name, field.name) :: declared) ↔
        fieldIdent other.name ≠ fieldIdent field.name ∧
          fieldIdent other.name ∉ Keyed.keys declared := by
    intro other
    simp only [Keyed.keys, List.map_cons, List.mem_cons, not_or, ne_eq]
  unfold AreNew
  rw [List.map_cons, List.nodup_cons, List.forall_mem_cons, List.mem_map]
  constructor
  · rintro ⟨⟨hfresh, hnodup⟩, hnew, hrest⟩
    refine ⟨hnew, hnodup, fun other hother ↦ (hkeys other).mpr ⟨?_, hrest other hother⟩⟩
    exact fun hsame ↦ hfresh ⟨other, hother, hsame⟩
  · rintro ⟨hnew, hnodup, hrest⟩
    refine ⟨⟨?_, hnodup⟩, hnew, fun other hother ↦ ((hkeys other).mp (hrest other hother)).2⟩
    rintro ⟨other, hother, hsame⟩
    exact ((hkeys other).mp (hrest other hother)).1 hsame

/-- The fields of an object are refused where one of them is declared again. -/
theorem refusedIf_declareFields {generator policies : Generator}
    (hlenient : generator.IsLenient) (object : String)
    (declared : List (String × String)) (fields : List ObjectField) :
    RefusedIf (policies.collisionPolicy = .refuse ∧ ¬ AreNew declared fields)
      (generator.declareFields object declared fields).outcome
      ((generator.policedBy policies).declareFields object declared fields).outcome := by
  induction fields generalizing declared with
  | nil => exact (RefusedIf.of_eq rfl).congr (by simp [AreNew])
  | cons field rest ih =>
    cases hfound : Keyed.get? (fieldIdent field.name) declared with
    | some kept =>
      have hagain : ¬ AreNew declared (field :: rest) :=
        fun hnew ↦ (areNew_cons.mp hnew).1 (Keyed.mem_keys_of_get? hfound)
      have hpolicy : (generator.policedBy policies).collisionPolicy = policies.collisionPolicy :=
        rfl
      rw [outcome_declareFields_of_declared _ hfound, outcome_declareFields_of_declared _ hfound,
        hlenient.drops, hpolicy]
      cases hstrict : policies.collisionPolicy with
      | drop => exact (ih declared).congr (by simp [hstrict])
      | refuse => exact ⟨fun hnot ↦ absurd ⟨rfl, hagain⟩ hnot, fun _ _ _ ↦ ⟨_, rfl, rfl⟩⟩
    | none =>
      have hnew := Keyed.get?_eq_none_iff.mp hfound
      rw [outcome_declareFields_of_new _ hfound, outcome_declareFields_of_new _ hfound]
      have hnext : AreNew declared (field :: rest) ↔
          AreNew ((fieldIdent field.name, field.name) :: declared) rest := by
        rw [areNew_cons, and_iff_right hnew]
      have hrest := ih ((fieldIdent field.name, field.name) :: declared)
      rw [← hnext] at hrest
      exact RefusedIf.of_next (generator.declareField field) fun _ ↦
        hrest.bind_same fun _ _ ↦ rfl

/-- The struct of an object is refused where two of its fields share an identifier. -/
theorem refusedIf_renderObject {generator policies : Generator}
    (hlenient : generator.IsLenient) (object : ApiObject) :
    RefusedIf (policies.collisionPolicy = .refuse ∧ ¬ AreNew [] object.fields)
      (generator.renderObject object).outcome
      ((generator.policedBy policies).renderObject object).outcome := by
  unfold renderObject
  simp only [Logged.outcome_bind, Logged.outcome_lift]
  exact RefusedIf.of_next (generator.comment object.description) fun _ ↦
    (refusedIf_declareFields hlenient object.name [] object.fields).bind_same fun _ _ ↦ rfl

/-- Two fields that share an identifier collide in the builder of their object. -/
theorem collisions_objectBuilder_ne_nil {generator : Generator} {object : ApiObject}
    (h : ¬ AreNew [] object.fields) : (generator.objectBuilder object).collisions ≠ [] :=
  fun hnone ↦ h ⟨(collisions_eq_nil_iff rfl).mp hnone, fun _ _ ↦ List.not_mem_nil⟩

/-! ### Implementations -/

/-- A builder with a layout that no policy refuses, and the same under these policies. -/
def SameUnder (policies : Generator) (entry other : Builder × Layout) : Prop :=
  entry.1.IsLenient ∧ ¬ RefusedBy policies entry.1 ∧ (entry.1.policedBy policies, entry.2) = other

/-- The functions that create builders that are not refused are the same under all policies. -/
theorem renderConstructors_policedBy {generator policies : Generator} (object : ApiObject)
    {laidOut others : List (Builder × Layout)}
    (h : List.Forall₂ (SameUnder policies) laidOut others) :
    (generator.policedBy policies).renderConstructors object others =
      generator.renderConstructors object laidOut := by
  have hconstructors : others.mapM (fun entry ↦
        entry.1.constructor entry.2 generator.addComments) =
      laidOut.mapM fun entry ↦ entry.1.constructor entry.2 generator.addComments := by
    refine (mapM_congr (h.imp ?_)).symm
    rintro ⟨builder, layout⟩ _ ⟨hlenient, hnot, rfl⟩
    exact (constructor_policedBy hlenient hnot layout generator.addComments).symm
  exact congrArg (· >>= _) hconstructors

theorem renderSetters_policedBy {generator policies : Generator} {builder : Builder}
    (hlenient : builder.IsLenient) (h : ¬ CollidesUnder policies builder) (layout : Layout) :
    (generator.policedBy policies).renderSetters (builder.policedBy policies) layout =
      generator.renderSetters builder layout := by
  unfold renderSetters
  rw [setters_policedBy hlenient h]
  rfl

theorem renderCompletion_policedBy {generator policies : Generator} {builder : Builder}
    (hlenient : builder.IsLenient) (h : ¬ CollidesUnder policies builder) (layout : Layout) :
    (generator.policedBy policies).renderCompletion (builder.policedBy policies) layout =
      generator.renderCompletion builder layout := by
  have hmethod : (builder.policedBy policies).method = builder.method := rfl
  unfold renderCompletion
  rw [hmethod, conversion_policedBy hlenient h]
  cases builder.method with
  | none => rfl
  | some method =>
    have hsendable := sendable_policedBy hlenient h layout method generator.settings.defaultAnyValue
    exact congrArg (· >>= fun sendable ↦ fill .sendable sendable.members) hsendable

/-- The methods of a builder: its setters, and what can be done once it is finished. -/
def renderMethods (generator : Generator) (entry : Builder × Layout) :
    Except Failure (List String) := do
  let setters ← generator.renderSetters entry.1 entry.2
  let completion ← generator.renderCompletion entry.1 entry.2
  pure (setters ++ [completion])

theorem renderMethods_policedBy {generator policies : Generator} {entry other : Builder × Layout}
    (h : SameUnder policies entry other) :
    (generator.policedBy policies).renderMethods other = generator.renderMethods entry := by
  obtain ⟨hlenient, hnot, rfl⟩ := h
  have hfree : ¬ CollidesUnder policies entry.1 := fun hcollides ↦ hnot (Or.inl hcollides)
  unfold renderMethods
  rw [renderSetters_policedBy hlenient hfree, renderCompletion_policedBy hlenient hfree]

theorem renderImpls_eq (generator : Generator) (object : ApiObject) (builders : List Builder) :
    generator.renderImpls object builders =
      (builders.mapM fun builder ↦ builder.layout.map fun layout ↦ (builder, layout)) >>=
        fun laidOut ↦ generator.renderConstructors object laidOut >>= fun constructors ↦
          laidOut.mapM generator.renderMethods >>= fun others ↦
            pure (constructors :: others.flatten) := rfl

/-- The implementations for builders that are not refused are the same under all policies. -/
theorem renderImpls_policedBy {generator policies : Generator} (object : ApiObject)
    {builders : List Builder} (hlenient : ∀ builder ∈ builders, builder.IsLenient)
    (h : ∀ builder ∈ builders, ¬ RefusedBy policies builder) :
    (generator.policedBy policies).renderImpls object
        (builders.map (Builder.policedBy · policies)) =
      generator.renderImpls object builders := by
  have hlaidOut : Alike Eq (List.Forall₂ (SameUnder policies))
      (builders.mapM fun builder ↦ builder.layout.map fun layout ↦ (builder, layout))
      ((builders.map (Builder.policedBy · policies)).mapM fun builder ↦
        builder.layout.map fun layout ↦ (builder, layout)) := by
    refine Alike.mapM_map fun builder hbuilder ↦ ?_
    have hnot := h builder hbuilder
    rw [layout_policedBy (hlenient builder hbuilder) fun hcollides ↦ hnot (Or.inl hcollides)]
    refine (Alike.refl builder.layout).map ?_
    rintro layout _ rfl
    exact ⟨hlenient builder hbuilder, hnot, rfl⟩
  rw [renderImpls_eq, renderImpls_eq]
  refine (Alike.eq (hlaidOut.bind fun laidOut others hsame ↦ ?_)).symm
  rw [renderConstructors_policedBy object hsame,
    mapM_congr (hsame.imp fun entry other hentry ↦ (renderMethods_policedBy hentry).symm)]
  exact Alike.refl _

/-! ### Whole runs -/

/-- The source of an object is refused where one of its builders is. -/
theorem refusedIf_renderWhole {generator policies : Generator}
    (hlenient : generator.IsLenient) (object : ApiObject) :
    RefusedIf (∃ builder ∈ generator.builders object, RefusedBy policies builder)
      (generator.renderWhole object).outcome
      ((generator.policedBy policies).renderWhole object).outcome := by
  have hbuilders : ∀ builder ∈ generator.builders object, builder.IsLenient :=
    fun builder hbuilder ↦ isLenient_of_mem_builders hlenient hbuilder
  have hstructs : RefusedIf (∃ builder ∈ generator.builders object, RefusedBy policies builder)
      ((generator.builders object).mapM fun builder ↦ (renderBuilder builder).outcome)
      (((generator.builders object).map (Builder.policedBy · policies)).mapM fun builder ↦
        (renderBuilder builder).outcome) :=
    RefusedIf.mapM_map fun builder hbuilder ↦ refusedIf_renderBuilder (hbuilders builder hbuilder)
  have hrepeats : policies.collisionPolicy = .refuse ∧ ¬ AreNew [] object.fields →
      ∃ builder ∈ generator.builders object, RefusedBy policies builder := by
    rintro ⟨hrefuse, hrepeated⟩
    exact ⟨_, objectBuilder_mem_builders ..,
      Or.inl ⟨hrefuse, collisions_objectBuilder_ne_nil hrepeated⟩⟩
  unfold renderWhole
  simp only [Logged.outcome_bind, Logged.outcome_report, Logged.outcome_mapM, builders_policedBy]
  have hemit : (generator.policedBy policies).settings.emitImpls = generator.settings.emitImpls :=
    rfl
  refine RefusedIf.of_next _ fun _ ↦ (refusedIf_renderObject hlenient object).bind_of_imp hrepeats
    fun struct ↦ hstructs.bind_same fun hnone structs ↦ ?_
  rw [hemit]
  by_cases himpls : generator.settings.emitImpls.isTrue = true
  · rw [if_pos himpls, if_pos himpls]
    simp only [Logged.outcome_bind, Logged.outcome_lift]
    rw [renderImpls_policedBy object hbuilders fun builder hbuilder hrefused ↦
      hnone ⟨builder, hbuilder, hrefused⟩]
  · rw [if_neg himpls, if_neg himpls]

theorem markerNames_policedBy {generator policies : Generator}
    (hlenient : generator.IsLenient) {objects : List ApiObject}
    (h : ¬ ∃ object ∈ objects, ∃ builder ∈ generator.builders object, RefusedBy policies builder) :
    ((generator.policedBy policies).markerNames objects).outcome =
      (generator.markerNames objects).outcome := by
  have hobjects : ∀ object ∈ objects,
      ((generator.policedBy policies).objectMarkerNames object).outcome =
        (generator.objectMarkerNames object).outcome := by
    intro object hobject
    have hbuilders : ∀ builder ∈ generator.builders object,
        (builder.accepted () >>= fun _ ↦
          pure (builder.markers.flatMap fun marker ↦ bothNames marker.param)) =
        ((builder.policedBy policies).accepted () >>= fun _ ↦
          pure ((builder.policedBy policies).markers.flatMap fun marker ↦
            bothNames marker.param)) := by
      intro builder hbuilder
      have hfree : ¬ CollidesUnder policies builder := fun hcollides ↦
        h ⟨object, hobject, builder, hbuilder, Or.inl hcollides⟩
      rw [accepted_policedBy (isLenient_of_mem_builders hlenient hbuilder) hfree]
      rfl
    unfold objectMarkerNames
    simp only [Logged.outcome_bind, Logged.outcome_mapM, Builder.outcome_unify, Logged.outcome_pure,
      builders_policedBy]
    rw [← mapM_congr (List.forall₂_map_right_iff.mpr (List.forall₂_same.mpr hbuilders))]
    rfl
  unfold markerNames
  simp only [Logged.outcome_bind, Logged.outcome_mapM, Logged.outcome_pure]
  rw [mapM_congr (List.forall₂_same.mpr hobjects)]

/-- What is generated is refused where some builder of some object is. -/
theorem refusedIf_generate {generator : Generator} (policies : Generator)
    (hstyle : generator.target.style = .builders) (hlenient : generator.IsLenient)
    (objects : List ApiObject) :
    RefusedIf
      (∃ object ∈ objects, ∃ builder ∈ generator.builders object, RefusedBy policies builder)
      (generator.generate objects).outcome
      ((generator.policedBy policies).generate objects).outcome := by
  have hsources : RefusedIf
      (∃ object ∈ objects, ∃ builder ∈ generator.builders object, RefusedBy policies builder)
      (objects.mapM fun object ↦ (generator.renderWhole object).outcome)
      ((objects.map id).mapM fun object ↦
        ((generator.policedBy policies).renderWhole object).outcome) :=
    RefusedIf.mapM_map fun object _ ↦ refusedIf_renderWhole hlenient object
  have hstrict : (generator.policedBy policies).target.style = .builders := hstyle
  rw [List.map_id] at hsources
  unfold generate
  rw [hstyle, hstrict]
  simp only [generateBuilders, Logged.outcome_bind, Logged.outcome_mapM, Logged.outcome_lift]
  refine hsources.bind_same fun hnone sources ↦ ?_
  rw [markerNames_policedBy hlenient hnone]

/-! ### Causes -/

/-- An operation without an identifier is refused where it belongs to an object with operations at
several paths. -/
theorem exists_unnamedUnder_iff {generator policies : Generator} {object : ApiObject} :
    (∃ builder ∈ generator.builders object, UnnamedUnder policies builder) ↔
      policies.unnamedPolicy = .refuse ∧
        2 ≤ (object.paths.filter fun path ↦ path.2.operations ≠ []).length ∧
        ∃ path ∈ object.paths, ∃ entry ∈ path.2.operations, entry.2.id.isTrue = false := by
  rw [← severalPaths_iff]
  constructor
  · rintro ⟨builder, hbuilder, hrefuse, hpaths, hnaming⟩
    rcases mem_builders_iff.mp hbuilder with rfl | ⟨_, path, hpath, method, operation, hmem, _, rfl⟩
    · cases hpaths
    · refine ⟨hrefuse, hpaths, path, hpath, (method, operation), hmem, ?_⟩
      rw [isSome_namingMethod?_operationBuilder] at hnaming
      exact Bool.not_eq_true' _ ▸ hnaming
  · rintro ⟨hrefuse, hpaths, path, hpath, entry, hmem, hid⟩
    obtain ⟨index, hbuilder⟩ := generator.exists_operationBuilder hpath hmem
    refine ⟨_, hbuilder, hrefuse, hpaths, ?_⟩
    rw [isSome_namingMethod?_operationBuilder, hid]
    rfl

/-- The causes for which some builder of some object is refused. -/
theorem exists_refusedBy_iff (generator policies : Generator) (objects : List ApiObject) :
    (∃ object ∈ objects, ∃ builder ∈ generator.builders object, RefusedBy policies builder) ↔
      (policies.collisionPolicy = .refuse ∧
        ∃ object ∈ objects, ∃ builder ∈ generator.builders object, builder.collisions ≠ []) ∨
      (policies.unnamedPolicy = .refuse ∧
        ∃ object ∈ objects, 2 ≤ (object.paths.filter fun path ↦ path.2.operations ≠ []).length ∧
          ∃ path ∈ object.paths, ∃ entry ∈ path.2.operations, entry.2.id.isTrue = false) := by
  constructor
  · rintro ⟨object, hobject, builder, hbuilder, ⟨hrefuse, hcollisions⟩ | hunnamed⟩
    · exact Or.inl ⟨hrefuse, object, hobject, builder, hbuilder, hcollisions⟩
    · obtain ⟨hrefuse, hrest⟩ := exists_unnamedUnder_iff.mp ⟨builder, hbuilder, hunnamed⟩
      exact Or.inr ⟨hrefuse, object, hobject, hrest⟩
  · rintro (⟨hrefuse, object, hobject, builder, hbuilder, hcollisions⟩ |
      ⟨hrefuse, object, hobject, hrest⟩)
    · exact ⟨object, hobject, builder, hbuilder, Or.inl ⟨hrefuse, hcollisions⟩⟩
    · obtain ⟨builder, hbuilder, hunnamed⟩ := exists_unnamedUnder_iff.mpr ⟨hrefuse, hrest⟩
      exact ⟨object, hobject, builder, hbuilder, Or.inr hunnamed⟩

/-- What a generator does under given policies. -/
theorem ofSettings_withPolicies {target : Target} {settings : Settings} {collision unnamed : Value}
    {generator : Generator}
    (h : ofSettings target (settings.withPolicies collision unnamed) = .ok generator) :
    generator.target = target ∧ generator.settings = settings.withPolicies collision unnamed ∧
      (generator.collisionPolicy = .refuse ↔ collision = .text "error") ∧
      (generator.unnamedPolicy = .refuse ↔ unnamed = .text "error") := by
  obtain ⟨⟨collisionPolicy, unnamedPolicy⟩, hpolicies, rfl⟩ := map_eq_ok.mp h
  obtain ⟨first, hfirst, hrest⟩ := bind_eq_ok.mp hpolicies
  obtain ⟨second, hsecond, hboth⟩ := bind_eq_ok.mp hrest
  obtain ⟨rfl, rfl⟩ := Prod.mk.inj (Except.ok.inj hboth)
  have hcollision : collision = .text first := Settings.eq_text_of_policyName hfirst
  have hunnamed : unnamed = .text second := Settings.eq_text_of_policyName hsecond
  refine ⟨rfl, rfl, ?_, ?_⟩
  · rw [hcollision, CollisionPolicy.ofText, Value.text.injEq]
    by_cases herror : first = "error" <;> simp [herror]
  · rw [hunnamed, UnnamedPolicy.ofText, Value.text.injEq]
    by_cases herror : second = "error" <;> simp [herror]

/-- The settings that drop what collides and number what is unnamed give a lenient generator. -/
theorem isLenient_of_ofSettings {target : Target} {settings : Settings} {generator : Generator}
    (h : ofSettings target (settings.withPolicies (.text "drop") (.text "indexed")) =
      .ok generator) : generator.IsLenient := by
  obtain ⟨_, _, hcollision, hunnamed⟩ := ofSettings_withPolicies h
  constructor
  · cases hpolicy : generator.collisionPolicy with
    | drop => rfl
    | refuse => exact absurd (Value.text.inj (hcollision.mp hpolicy)) (by decide)
  · cases hpolicy : generator.unnamedPolicy with
    | indexed => rfl
    | refuse => exact absurd (Value.text.inj (hunnamed.mp hpolicy)) (by decide)

/-- Of two generators whose settings differ in the policies alone, one is the other under its
policies. -/
theorem policedBy_of_ofSettings {target : Target} {settings : Settings}
    {collision unnamed collision' unnamed' : Value} {generator policies : Generator}
    (h : ofSettings target (settings.withPolicies collision unnamed) = .ok generator)
    (h' : ofSettings target (settings.withPolicies collision' unnamed') = .ok policies) :
    generator.policedBy policies = policies := by
  obtain ⟨htarget, hsettings, -, -⟩ := ofSettings_withPolicies h
  obtain ⟨htarget', hsettings', -, -⟩ := ofSettings_withPolicies h'
  unfold policedBy
  rw [htarget, hsettings, hsettings', ← htarget']
  cases policies
  cases hsettings'
  rfl

/-- Strict policies only reject. Of two runs whose settings differ in the policies alone, let the
one with lenient policies give a source text. Then the other one gives the same text, or a policy
refuses it. It is refused exactly when it does not let declarations collide and those of some
builder do, or when it asks for names of operations and some operation without an identifier belongs
to an object with operations at two paths or more. -/
theorem strict_policies_only_reject {target : Target} (hstyle : target.style = .builders)
    {settings : Settings} {collision unnamed : Value} {lenient strict : Generator}
    (hlenient : ofSettings target (settings.withPolicies (.text "drop") (.text "indexed")) =
      .ok lenient)
    (hstrict : ofSettings target (settings.withPolicies collision unnamed) = .ok strict)
    {objects : List ApiObject} {code : String}
    (h : (lenient.generate objects).outcome = .ok code) :
    ((strict.generate objects).outcome = .ok code ∨
      ∃ failure, (strict.generate objects).outcome = .error failure ∧ failure.isRefusal = true) ∧
    ((∃ failure, (strict.generate objects).outcome = .error failure) ↔
      (collision = .text "error" ∧
        ∃ object ∈ objects, ∃ builder ∈ lenient.builders object, builder.collisions ≠ []) ∨
      (unnamed = .text "error" ∧
        ∃ object ∈ objects, 2 ≤ (object.paths.filter fun path ↦ path.2.operations ≠ []).length ∧
          ∃ path ∈ object.paths, ∃ entry ∈ path.2.operations, entry.2.id.isTrue = false)) := by
  obtain ⟨htarget, -, -, -⟩ := ofSettings_withPolicies hlenient
  obtain ⟨-, -, hcollision, hunnamed⟩ := ofSettings_withPolicies hstrict
  have hrun :=
    refusedIf_generate strict (htarget ▸ hstyle) (isLenient_of_ofSettings hlenient) objects
  have hcauses := lenient.exists_refusedBy_iff strict objects
  rw [policedBy_of_ofSettings hlenient hstrict] at hrun
  rw [hcollision, hunnamed] at hcauses
  rw [← hcauses]
  by_cases hrefused : ∃ object ∈ objects, ∃ builder ∈ lenient.builders object,
      builder.RefusedBy strict
  · obtain ⟨failure, hfailure, hrefusal⟩ := hrun.refused hrefused code h
    exact ⟨Or.inr ⟨failure, hfailure, hrefusal⟩, fun _ ↦ hrefused, fun _ ↦ ⟨failure, hfailure⟩⟩
  · have hsame := hrun.same hrefused code h
    refine ⟨Or.inl hsame, ?_, fun hcause ↦ absurd hcause hrefused⟩
    rintro ⟨failure, hfailure⟩
    rw [hsame] at hfailure
    cases hfailure

/-- An object whose fields share an identifier. -/
def doubtfulPet : ApiObject where
  name := "Pet"
  fields := [{ name := "petName", tyPath := "String" }, { name := "pet_name", tyPath := "i64" }]

theorem exists_generate_doubtfulPet {generator : Generator}
    (h : ofSettings .rust (Settings.withPolicies {} (.text "drop") (.text "indexed")) =
      .ok generator) :
    ∃ code, (generator.generate [doubtfulPet]).outcome = .ok code := by
  obtain rfl := Except.ok.inj h
  refine exists_generate_singleton rfl ?_ ?_
  · rw [renderWhole, builders_of_no_paths rfl]
    decide +kernel
  · rw [objectMarkerNames, builders_of_no_paths rfl]
    decide +kernel

theorem strict_policies_only_reject_doubtfulPet :
    ∃ lenient strict code,
      ofSettings .rust (Settings.withPolicies {} (.text "drop") (.text "indexed")) = .ok lenient ∧
      ofSettings .rust (Settings.withPolicies {} (.text "error") (.text "error")) = .ok strict ∧
      (lenient.generate [doubtfulPet]).outcome = .ok code ∧
      ∃ failure, (strict.generate [doubtfulPet]).outcome = .error failure := by
  obtain ⟨lenient, hlenient⟩ : ∃ generator,
      ofSettings .rust (Settings.withPolicies {} (.text "drop") (.text "indexed")) =
        .ok generator :=
    ⟨_, rfl⟩
  obtain ⟨strict, hstrict⟩ : ∃ generator,
      ofSettings .rust (Settings.withPolicies {} (.text "error") (.text "error")) = .ok generator :=
    ⟨_, rfl⟩
  obtain ⟨code, hcode⟩ := exists_generate_doubtfulPet hlenient
  refine ⟨lenient, strict, code, hlenient, hstrict, hcode, ?_⟩
  refine (strict_policies_only_reject rfl hlenient hstrict hcode).2.mpr
    (Or.inl ⟨rfl, doubtfulPet, ?_⟩)
  refine ⟨List.mem_singleton_self _, _, objectBuilder_mem_builders .., ?_⟩
  obtain rfl := Except.ok.inj hlenient
  decide

end Generator

end TypestateBuilders
