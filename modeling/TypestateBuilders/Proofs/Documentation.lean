import TypestateBuilders.Proofs.Described
import TypestateBuilders.Proofs.Builders

/-!
# Documentation never changes code

A run of a generator is compared with the run of the same generator that writes no descriptions
(`Generator.uncommented`) on the same objects without descriptions. Both end alike
(`Generator.alike_generate`): struct by struct, builder by builder and implementation by
implementation the same code is written, in the same order, and the same failure stops both.

Two runs that differ only in descriptions and in whether these become comments are compared with
the same run in this way, so they end alike too (`Generator.documentation_never_changes_code`).
-/

set_option autoImplicit false
set_option relaxedAutoImplicit false

namespace TypestateBuilders

open Naming CodeLine Outcome Template

namespace Generator

/-- The generator that writes no descriptions. -/
def uncommented (generator : Generator) : Generator :=
  { generator with settings := { generator.settings with addComments := .bool false } }

theorem exists_comment (generator : Generator) {description : GivenText}
    (h : description.isDescription = true) :
    ∃ lines, generator.comment description = .ok lines ∧ ∀ line ∈ lines, IsDocLine line := by
  unfold comment
  by_cases hcomments : generator.addComments = true
  · rw [if_pos hcomments]
    exact GivenText.exists_docLines h
  · rw [if_neg hcomments]
    exact ⟨[], rfl, isDocLine_of_mem_nil⟩

theorem comment_uncommented (generator : Generator) (description : GivenText) :
    generator.uncommented.comment description = .ok [] := rfl

/-! ### The struct of an object -/

/-- A field is declared in the same way with other documentation. -/
theorem alike_declareField (generator : Generator) {field : ObjectField}
    (h : field.description.isDescription = true) :
    Alike Failure.SameCause
      (fun declared bare ↦ AgreeDeclaration declared.value bare.value)
      (generator.declareField field) (generator.uncommented.declareField field.undocumented) := by
  obtain ⟨lines, hlines, hdoc⟩ := generator.exists_comment h
  rw [declareField, declareField, comment_uncommented, hlines]
  refine (Failure.alike_self _).bind ?_
  rintro plain _ rfl
  refine Alike.answer ?_
  exact agreeDeclaration_object [_, _, _] [] (by simp [commentName]) hdoc isDocLine_of_mem_nil

/-- The fields of an object are declared in the same way with other documentation. -/
theorem alike_declareFields (generator : Generator) (object : String)
    (declared : List (String × String)) {fields : List ObjectField}
    (h : ∀ field ∈ fields, field.description.isDescription = true) :
    Alike Failure.SameCause
      (List.Forall₂ fun declared bare ↦ AgreeDeclaration declared.value bare.value)
      (generator.declareFields object declared fields).outcome
      (generator.uncommented.declareFields object declared
        (fields.map ObjectField.undocumented)).outcome := by
  induction fields generalizing declared with
  | nil => exact Alike.answer List.Forall₂.nil
  | cons field rest ih =>
    have hrest := fun declared ↦
      ih declared fun other hother ↦ h other (List.mem_cons_of_mem _ hother)
    have hname : field.undocumented.name = field.name := rfl
    rw [List.map_cons]
    cases hfound : Keyed.get? (fieldIdent field.name) declared with
    | some kept =>
      have hpolicy : generator.uncommented.collisionPolicy = generator.collisionPolicy := rfl
      rw [outcome_declareFields_of_declared _ hfound,
        outcome_declareFields_of_declared _ (hname ▸ hfound), hpolicy]
      cases generator.collisionPolicy with
      | drop => exact hrest declared
      | refuse => exact Alike.failure rfl
    | none =>
      rw [outcome_declareFields_of_new _ hfound, outcome_declareFields_of_new _ (hname ▸ hfound)]
      refine (generator.alike_declareField (h field (List.mem_cons_self ..))).bind
        fun _ _ hfirst ↦ ?_
      exact (hrest _).bind fun _ _ hothers ↦ Alike.answer (List.Forall₂.cons hfirst hothers)

/-- The struct of an object has the same code with other documentation. -/
theorem alike_renderObject (generator : Generator) {object : ApiObject} (h : object.IsDescribed) :
    Alike Failure.SameCause SameCode (generator.renderObject object).outcome
      (generator.uncommented.renderObject object.undocumented).outcome := by
  obtain ⟨lines, hlines, hdoc⟩ := generator.exists_comment (h _ (List.mem_cons_self ..))
  have hfields : ∀ field ∈ object.fields, field.description.isDescription = true :=
    fun field hfield ↦ h _ (List.mem_cons_of_mem _
      (List.mem_append_left _ (List.mem_map.mpr ⟨field, hfield, rfl⟩)))
  rw [renderObject, renderObject, comment_uncommented, hlines, object.needsAny_undocumented]
  simp only [Logged.outcome_bind, Logged.outcome_lift]
  refine (generator.alike_declareFields object.name [] hfields).bind fun fields bare hdeclared ↦ ?_
  refine alike_fill .object ?_
  exact Scope.Agree.cons_code (by decide) <| Scope.Agree.cons_code (by decide) <|
    Scope.Agree.cons_code (by decide) <|
    Scope.Agree.cons_comment (by decide) hdoc isDocLine_of_mem_nil <|
    Scope.Agree.cons_declarations (by decide) hdeclared Scope.agree_nil

/-! ### The struct of a builder -/

/-- The struct of a builder is the same with other descriptions. -/
theorem alike_renderBuilder (builder : Builder) :
    Alike Failure.SameCause SameCode (renderBuilder builder).outcome
      (renderBuilder builder.undocumented).outcome := by
  simp only [renderBuilder, Logged.outcome_bind, Logged.outcome_lift,
    Builder.outcome_nameConstructor, Builder.outcome_unify]
  refine (Failure.alike_self builder.constructorName).bind ?_
  rintro name _ rfl
  refine builder.alike_after_accepted ?_
  refine builder.alike_layout.bind ?_
  rintro layout _ rfl
  rw [Builder.generics_undocumented]
  exact alike_text _

/-! ### Implementations -/

/-- A described builder with a layout, and the same without descriptions. -/
def SameLayout (entry bare : Builder × Layout) : Prop :=
  entry.1.IsDescribed ∧ (entry.1.undocumented, entry.2) = bare

/-- The functions that create builders have the same code with other documentation. -/
theorem alike_renderConstructors (generator : Generator) (object : ApiObject)
    {laidOut bare : List (Builder × Layout)} (h : List.Forall₂ SameLayout laidOut bare) :
    Alike Failure.SameCause SameCode (generator.renderConstructors object laidOut)
      (generator.uncommented.renderConstructors object.undocumented bare) := by
  have hconstructor : ∀ entry bare : Builder × Layout, SameLayout entry bare →
      Alike Failure.SameCause (fun declared bare ↦ AgreeDeclaration declared.value bare.value)
        (entry.1.constructor entry.2 generator.addComments)
        (bare.1.constructor bare.2 generator.uncommented.addComments) := by
    rintro ⟨builder, layout⟩ _ ⟨hdescribed, rfl⟩
    exact Builder.alike_constructor hdescribed layout generator.addComments
  rw [renderConstructors, renderConstructors, object.needsAny_undocumented]
  refine (Alike.mapM h hconstructor).bind fun constructors others hconstructors ↦ ?_
  refine alike_fill .constructors ?_
  exact Scope.Agree.cons_code (by decide) <| Scope.Agree.cons_code (by decide) <|
    Scope.Agree.cons_code (by decide) <|
    Scope.Agree.cons_declarations (by decide) hconstructors Scope.agree_nil

/-- The methods that fill a builder have the same code with other documentation. -/
theorem alike_renderSetters (generator : Generator) {builder : Builder} (h : builder.IsDescribed)
    (layout : Layout) :
    Alike Failure.SameCause (List.Forall₂ SameCode) (generator.renderSetters builder layout)
      (generator.uncommented.renderSetters builder.undocumented layout) := by
  rw [renderSetters, renderSetters, Builder.generics_undocumented]
  refine (Builder.alike_setters h layout generator.addComments).bind fun setters bare hsetters ↦ ?_
  rcases hsetters with _ | ⟨hfirst, hrest⟩
  · exact Alike.answer List.Forall₂.nil
  · refine (alike_fill .setters ?_).bind fun text other htext ↦
      Alike.answer (List.Forall₂.cons htext List.Forall₂.nil)
    exact Scope.Agree.cons_code (by decide) <| Scope.Agree.cons_code (by decide) <|
      Scope.Agree.cons_declarations (by decide) (List.Forall₂.cons hfirst hrest) Scope.agree_nil

/-- What can be done with a finished builder is the same with other descriptions. -/
theorem alike_renderCompletion (generator : Generator) (builder : Builder) (layout : Layout) :
    Alike Failure.SameCause SameCode (generator.renderCompletion builder layout)
      (generator.uncommented.renderCompletion builder.undocumented layout) := by
  have hmethod : builder.undocumented.method = builder.method := rfl
  rw [renderCompletion, renderCompletion, hmethod]
  cases builder.method with
  | none =>
    refine (builder.alike_conversion layout).bind ?_
    rintro conversion _ rfl
    exact alike_text _
  | some method =>
    refine (builder.alike_sendable layout method generator.settings.defaultAnyValue).bind ?_
    rintro sendable _ rfl
    exact alike_text _

/-- The implementations for builders have the same code with other documentation. -/
theorem alike_renderImpls (generator : Generator) (object : ApiObject) {builders : List Builder}
    (h : ∀ builder ∈ builders, builder.IsDescribed) :
    Alike Failure.SameCause (List.Forall₂ SameCode) (generator.renderImpls object builders)
      (generator.uncommented.renderImpls object.undocumented
        (builders.map Builder.undocumented)) := by
  have hlayout : ∀ builder ∈ builders,
      Alike Failure.SameCause SameLayout (builder.layout.map fun layout ↦ (builder, layout))
        (builder.undocumented.layout.map fun layout ↦ (builder.undocumented, layout)) := by
    intro builder hbuilder
    refine builder.alike_layout.map ?_
    rintro layout _ rfl
    exact ⟨h builder hbuilder, rfl⟩
  have hothers : ∀ entry bare : Builder × Layout, SameLayout entry bare →
      Alike Failure.SameCause (List.Forall₂ SameCode)
        (generator.renderSetters entry.1 entry.2 >>= fun setters ↦
          generator.renderCompletion entry.1 entry.2 >>= fun completion ↦
            pure (setters ++ [completion]))
        (generator.uncommented.renderSetters bare.1 bare.2 >>= fun setters ↦
          generator.uncommented.renderCompletion bare.1 bare.2 >>= fun completion ↦
            pure (setters ++ [completion])) := by
    rintro ⟨builder, layout⟩ _ ⟨hdescribed, rfl⟩
    refine (generator.alike_renderSetters hdescribed layout).bind fun _ _ hsetters ↦ ?_
    refine (generator.alike_renderCompletion builder layout).bind fun _ _ hcompletion ↦ ?_
    exact Alike.answer (List.rel_append hsetters (List.Forall₂.cons hcompletion List.Forall₂.nil))
  rw [renderImpls, renderImpls]
  refine (Alike.mapM_map hlayout).bind fun laidOut bare hlaidOut ↦ ?_
  refine (generator.alike_renderConstructors object hlaidOut).bind fun _ _ hconstructors ↦ ?_
  refine (Alike.mapM hlaidOut hothers).bind fun others bare hothers ↦ ?_
  exact Alike.answer (List.Forall₂.cons hconstructors (List.rel_flatten hothers))

/-! ### The builders of an object -/

theorem objectBuilder_undocumented (generator : Generator) (object : ApiObject) :
    generator.uncommented.objectBuilder object.undocumented =
      (generator.objectBuilder object).undocumented := by
  rw [objectBuilder, object.needsAny_undocumented]
  rfl

theorem severalPaths_undocumented (object : ApiObject) :
    severalPaths object.undocumented = severalPaths object := by
  have hempty : (fun path : String × PathOperations ↦ !path.2.operations.isEmpty) ∘
      (fun path : String × PathOperations ↦ (path.1, path.2.undocumented)) =
      fun path ↦ !path.2.operations.isEmpty := by
    funext path
    exact congrArg not List.isEmpty_map
  rw [severalPaths, severalPaths, ApiObject.undocumented, List.countP_map, hempty]

theorem sorted_undocumented (path : PathOperations) :
    path.undocumented.sorted = path.sorted.map fun entry ↦ (entry.1, entry.2.undocumented) := by
  rw [PathOperations.sorted, PathOperations.sorted, PathOperations.undocumented]
  refine (List.map_mergeSort ?_).symm
  exact fun _ _ _ _ ↦ rfl

theorem sortedPaths_undocumented (object : ApiObject) :
    object.undocumented.sortedPaths =
      object.sortedPaths.map fun entry ↦ (entry.1, entry.2.undocumented) := by
  rw [ApiObject.sortedPaths, ApiObject.sortedPaths, ApiObject.undocumented]
  refine (List.map_mergeSort ?_).symm
  exact fun _ _ _ _ ↦ rfl

theorem pathBuilders_undocumented (generator : Generator) (object : ApiObject) (relPath : String)
    (path : PathOperations) (index : Nat) :
    generator.uncommented.pathBuilders object.undocumented ((relPath, path.undocumented), index) =
      (generator.pathBuilders object ((relPath, path), index)).map Builder.undocumented := by
  rw [pathBuilders, pathBuilders, sorted_undocumented, List.map_map, List.map_map]
  refine List.map_congr_left fun entry _ ↦ ?_
  show generator.uncommented.operationBuilder _ _ _ _ _ _ =
    (generator.operationBuilder _ _ _ _ _ _).undocumented
  rw [operationBuilder, operationBuilder, severalPaths_undocumented, objectBuilder_undocumented]
  rfl

/-- The builders of an object without descriptions are its builders without descriptions. -/
theorem builders_undocumented (generator : Generator) (object : ApiObject) :
    generator.uncommented.builders object.undocumented =
      (generator.builders object).map Builder.undocumented := by
  rw [builders, builders, objectBuilder_undocumented, sortedPaths_undocumented, List.zipIdx_map,
    List.flatMap_map, List.map_cons, List.map_flatMap]
  congr 1
  exact List.flatMap_congr fun numbered _ ↦
    generator.pathBuilders_undocumented object numbered.1.1 numbered.1.2 numbered.2

/-- The descriptions of the builders of an object are those of the object. -/
theorem isDescribed_of_mem_builders {generator : Generator} {object : ApiObject}
    (h : object.IsDescribed) {builder : Builder} (hbuilder : builder ∈ generator.builders object) :
    builder.IsDescribed := by
  have hfields : ∀ description ∈ object.fields.map ObjectField.description,
      description.isDescription = true :=
    fun _ hmem ↦ h _ (List.mem_cons_of_mem _ (List.mem_append_left _ hmem))
  rw [Builder.IsDescribed, Builder.descriptions, List.forall_mem_cons, List.forall_mem_append]
  rcases mem_builders_iff.mp hbuilder with
    rfl | ⟨_, path, hpath, method, operation, hentry, _, rfl⟩
  · exact ⟨rfl, hfields, fun _ hmem ↦ absurd hmem List.not_mem_nil⟩
  · have hdescriptions : ∀ description ∈ path.2.descriptions, description.isDescription = true :=
      fun _ hmem ↦ h _ (List.mem_cons_of_mem _
        (List.mem_append_right _ (List.mem_flatMap.mpr ⟨path, hpath, hmem⟩)))
    rw [PathOperations.descriptions, List.forall_mem_append] at hdescriptions
    obtain ⟨hshared, hoperations⟩ := hdescriptions
    have hown := fun description hmem ↦
      hoperations description (List.mem_flatMap.mpr ⟨(method, operation), hentry, hmem⟩)
    rw [List.forall_mem_cons] at hown
    refine ⟨hown.1, hfields, ?_⟩
    show ∀ description ∈ (path.2.params ++ operation.params).map Parameter.description, _
    rw [List.map_append, List.forall_mem_append]
    exact ⟨hshared, hown.2⟩

/-! ### Whole runs -/

/-- The source of an object has the same code with other documentation. -/
theorem alike_renderWhole (generator : Generator) {object : ApiObject} (h : object.IsDescribed) :
    Alike Failure.SameCause SameCode (generator.renderWhole object).outcome
      (generator.uncommented.renderWhole object.undocumented).outcome := by
  have hstructs : Alike Failure.SameCause (List.Forall₂ SameCode)
      ((generator.builders object).mapM fun builder ↦ (renderBuilder builder).outcome)
      (((generator.builders object).map Builder.undocumented).mapM fun builder ↦
        (renderBuilder builder).outcome) :=
    Alike.mapM_map fun builder _ ↦ alike_renderBuilder builder
  simp only [renderWhole, Logged.outcome_bind, Logged.outcome_report, Logged.outcome_mapM,
    builders_undocumented]
  refine Alike.bind (Alike.answer (rfl : () = ())) fun _ _ _ ↦ ?_
  refine (generator.alike_renderObject h).bind fun _ _ hobject ↦ ?_
  refine hstructs.bind fun _ _ hstructs ↦ ?_
  have hemit : generator.uncommented.settings.emitImpls = generator.settings.emitImpls := rfl
  rw [hemit]
  by_cases himpls : generator.settings.emitImpls.isTrue = true
  · rw [if_pos himpls, if_pos himpls]
    simp only [Logged.outcome_bind, Logged.outcome_lift]
    refine (generator.alike_renderImpls object fun _ ↦ isDescribed_of_mem_builders h).bind
      fun _ _ himpls ↦ ?_
    exact Alike.answer
      (SameCode.intercalate (List.rel_append (List.Forall₂.cons hobject hstructs) himpls))
  · rw [if_neg himpls, if_neg himpls]
    exact Alike.answer (SameCode.intercalate
      (List.rel_append (List.Forall₂.cons hobject hstructs) List.Forall₂.nil))

theorem childMarkerNames_undocumented (object : ApiObject) :
    childMarkerNames object.undocumented = childMarkerNames object := by
  rw [childMarkerNames, ApiObject.undocumented, List.flatMap_map]
  rfl

theorem alike_objectMarkerNames (generator : Generator) (object : ApiObject) :
    Alike Failure.SameCause Eq (generator.objectMarkerNames object).outcome
      (generator.uncommented.objectMarkerNames object.undocumented).outcome := by
  have hmarkers : ∀ builder ∈ generator.builders object, Alike Failure.SameCause Eq
      (builder.accepted () >>= fun _ ↦
        pure (builder.markers.flatMap fun marker ↦ bothNames marker.param))
      (builder.undocumented.accepted () >>= fun _ ↦
        pure (builder.undocumented.markers.flatMap fun marker ↦ bothNames marker.param)) := by
    intro builder _
    rw [Builder.markers_undocumented]
    exact builder.alike_after_accepted (Alike.answer rfl)
  simp only [objectMarkerNames, Logged.outcome_bind, Logged.outcome_mapM, Builder.outcome_unify,
    Logged.outcome_pure, childMarkerNames_undocumented, builders_undocumented]
  refine (Alike.mapM_map hmarkers).bind fun own bare hown ↦ ?_
  rw [List.forall₂_eq_eq_eq] at hown
  rw [hown]
  exact Alike.answer rfl

/-- The same marker types are named with other descriptions. -/
theorem alike_markerNames (generator : Generator) (objects : List ApiObject) :
    Alike Failure.SameCause Eq (generator.markerNames objects).outcome
      (generator.uncommented.markerNames (objects.map ApiObject.undocumented)).outcome := by
  have hobjects : Alike Failure.SameCause (List.Forall₂ Eq)
      (objects.mapM fun object ↦ (generator.objectMarkerNames object).outcome)
      ((objects.map ApiObject.undocumented).mapM fun object ↦
        (generator.uncommented.objectMarkerNames object).outcome) :=
    Alike.mapM_map fun object _ ↦ generator.alike_objectMarkerNames object
  simp only [markerNames, Logged.outcome_bind, Logged.outcome_mapM, Logged.outcome_pure]
  refine hobjects.bind fun names bare hnames ↦ ?_
  rw [List.forall₂_eq_eq_eq] at hnames
  rw [hnames]
  exact Alike.answer rfl

/-- What is generated has the same code with other documentation. -/
theorem alike_generate (generator : Generator) {objects : List ApiObject}
    (h : ∀ object ∈ objects, object.IsDescribed) :
    Alike Failure.SameCause SameCode (generator.generate objects).outcome
      (generator.uncommented.generate (objects.map ApiObject.undocumented)).outcome := by
  have hsources : Alike Failure.SameCause (List.Forall₂ SameCode)
      (objects.mapM fun object ↦ (generator.renderWhole object).outcome)
      ((objects.map ApiObject.undocumented).mapM fun object ↦
        (generator.uncommented.renderWhole object).outcome) :=
    Alike.mapM_map fun object hobject ↦ generator.alike_renderWhole (h object hobject)
  have hmodule : ∀ markers : List String, Alike Failure.SameCause (List.Forall₂ SameCode)
      (renderMarkers markers) (renderMarkers markers) :=
    fun _ ↦ Alike.of_eq (fun _ ↦ rfl) fun _ ↦ List.forall₂_same.mpr fun _ _ ↦ rfl
  have hheader : SameCode fileHeader fileHeader := rfl
  have hstyle : generator.uncommented.target.style = generator.target.style := rfl
  rw [generate, generate, hstyle]
  cases generator.target.style with
  | builders =>
    simp only [generateBuilders, Logged.outcome_bind, Logged.outcome_mapM, Logged.outcome_lift]
    refine hsources.bind fun _ _ hsources ↦ ?_
    refine (generator.alike_markerNames objects).bind ?_
    rintro markers _ rfl
    refine (hmodule markers).bind fun _ _ hmodule ↦ Alike.answer (SameCode.intercalate ?_)
    exact List.rel_append (List.Forall₂.cons hheader hsources) hmodule
  | outline =>
    have hnames : (objects.map ApiObject.undocumented).map ApiObject.name =
        objects.map ApiObject.name := by
      rw [List.map_map]
      rfl
    rw [hnames]
    exact Alike.answer rfl

/-- Documentation never changes code. Two runs that differ only in descriptions, each of which is a
text or missing, and in whether these become comments, both give a source text or both fail. Their
texts are the same once all doc comments are deleted, and their failures the same up to the
descriptions of the declarations that they name, with the same message. -/
theorem documentation_never_changes_code (first second : Generator)
    (objects others : List ApiObject) (hgenerators : first.uncommented = second.uncommented)
    (hobjects : objects.map ApiObject.undocumented = others.map ApiObject.undocumented)
    (hfirst : ∀ object ∈ objects, object.IsDescribed)
    (hsecond : ∀ object ∈ others, object.IsDescribed) :
    Alike (fun failure other ↦ failure.undocumented = other.undocumented ∧
        failure.message = other.message)
      (fun code other ↦ withoutComments code = withoutComments other)
      (first.generate objects).outcome (second.generate others).outcome := by
  -- Both runs end like the run without descriptions, which is the same for both.
  have hbare := second.alike_generate hsecond
  rw [← hgenerators, ← hobjects] at hbare
  refine (first.alike_generate hfirst).of_common hbare ?_ ?_
  · intro failure other bare hfailure hother
    have hcause : failure.SameCause other := hfailure.trans hother.symm
    exact ⟨hcause, hcause.message_eq⟩
  · intro code other bare hcode hother
    exact SameCode.withoutComments_eq (hcode.trans hother.symm)

/-- A generator that writes descriptions, or does not. -/
def petGenerator (addComments : Bool) : Generator where
  target := .rust
  settings := { addComments := .bool addComments }
  collisionPolicy := .drop
  unnamedPolicy := .indexed

/-- An operation with a parameter, both described in the same way. -/
def listPets (description : GivenText) : Operation where
  description := description
  params := [{ name := "limit", tyPath := "i64", description }]

/-- An object with a field and an operation, all described in the same way. -/
def describedPet (description : GivenText) : ApiObject where
  name := "Pet"
  description := description
  fields := [{ name := "petName", tyPath := "String", description }]
  paths := [("/pets", { operations := [(.get, listPets description)] })]

/-- A description that would be code if its second line left the doc comment. -/
def twoLines : GivenText :=
  .text "A [pet].\npub fn pet() \x7b\x7d"

theorem builders_describedPet (addComments : Bool) (description : GivenText) :
    (petGenerator addComments).builders (describedPet description) =
      [(petGenerator addComments).objectBuilder (describedPet description),
        (petGenerator addComments).operationBuilder (describedPet description) 0 "/pets" [] .get
          (listPets description)] := by
  simp [builders, ApiObject.sortedPaths, PathOperations.sorted, describedPet, pathBuilders]

theorem exists_generate_describedPet :
    ∃ code, ((petGenerator true).generate [describedPet twoLines]).outcome = .ok code := by
  -- Sorting does not evaluate, so its result is put in before the rest is evaluated.
  refine exists_generate_singleton rfl ?_ ?_
  · rw [renderWhole, builders_describedPet]
    decide +kernel
  · rw [objectMarkerNames, builders_describedPet]
    decide +kernel

theorem documentation_never_changes_code_pet :
    (∀ object ∈ [describedPet twoLines], object.IsDescribed) ∧
    (∀ object ∈ [describedPet .absent], object.IsDescribed) ∧
    ∃ code other,
      ((petGenerator true).generate [describedPet twoLines]).outcome = .ok code ∧
      ((petGenerator false).generate [describedPet .absent]).outcome = .ok other ∧
      withoutComments code = withoutComments other := by
  have hdescribed : ∀ object ∈ [describedPet twoLines], object.IsDescribed := by decide
  have hbare : ∀ object ∈ [describedPet .absent], object.IsDescribed := by decide
  obtain ⟨code, hcode⟩ := exists_generate_describedPet
  have halike := documentation_never_changes_code (petGenerator true) (petGenerator false)
    [describedPet twoLines] [describedPet .absent] rfl rfl hdescribed hbare
  rw [hcode] at halike
  generalize ((petGenerator false).generate [describedPet .absent]).outcome = outcome at halike ⊢
  rcases halike with hsame | _
  exact ⟨hdescribed, hbare, _, _, hcode, rfl, hsame⟩

end Generator

end TypestateBuilders
