import TypestateBuilders.Proofs.Builders
import TypestateBuilders.Proofs.KeyOrder
import TypestateBuilders.Proofs.LeafRenderings
import TypestateBuilders.Proofs.Markers
import TypestateBuilders.Proofs.Refusal
import TypestateBuilders.Proofs.Words

/-!
# The module of marker types

The marker types of a run are declared in one module. They are addressed in many places: by the
constructors, setters and completions of all builders through their type arguments, and by the
setters of fields that take finished builders of another object.

An argument addresses a marker type when it is a path into this module. Type parameters and the
parameter for dynamically typed values hold no colon, so they are no such paths
(`Builder.path_ne_generic`). What remains are the markers of required properties
(`Builder.mem_typeArguments`) and of the required fields of children
(`Builder.mem_nestedArguments`), and these are the names that the module declares
(`Generator.mem_markerNames_iff`). So every marker type that is addressed is declared
(`Generator.markerNames_closed`).
-/

set_option autoImplicit false
set_option relaxedAutoImplicit false

namespace TypestateBuilders

open Naming Outcome

/-! ### Paths and identifiers -/

/-- A path to a marker type holds a colon. -/
theorem colon_mem_path (helpers name : String) : ':' ∈ (genericsPath helpers ++ name).toList := by
  rw [genericsPath, String.toList_append, String.toList_append]
  exact List.mem_append_left _ (List.mem_append_right _ (by simp))

theorem path_ne_of_no_colon {helpers name text : String} (h : ':' ∉ text.toList) :
    genericsPath helpers ++ name ≠ text := by
  rintro rfl
  exact h (colon_mem_path helpers name)

theorem path_ne_anyParameter (helpers name : String) :
    genericsPath helpers ++ name ≠ anyParameter :=
  path_ne_of_no_colon (by simp [anyParameter])

/-- What stands for dynamically typed values is no path to a marker type, unless it was given as
one. -/
theorem eq_some_of_path_eq_anyArgument {helpers name : String} {anyValue : Option String}
    (h : genericsPath helpers ++ name = Builder.anyArgument anyValue) :
    anyValue = some (genericsPath helpers ++ name) := by
  rw [Builder.anyArgument] at h
  cases hvalue : anyValue.filter (· ≠ "") with
  | none =>
    rw [hvalue, Option.getD_none] at h
    exact absurd h (path_ne_anyParameter helpers name)
  | some value =>
    rw [hvalue, Option.getD_some] at h
    rw [h]
    exact (Option.filter_eq_some_iff.mp hvalue).1

/-- A fresh name is made of identifier characters if the name that it is made from is. -/
theorem isIdentChar_freshName (taken : List String) (name : String)
    (h : ∀ c ∈ name.toList, isIdentChar c = true) :
    ∀ c ∈ (freshName taken name).toList, isIdentChar c = true := by
  fun_induction freshName taken name with
  | case1 name htaken ih =>
    refine ih ?_
    rw [String.toList_append]
    exact List.forall_mem_append.mpr ⟨h, List.all_eq_true.mp rfl⟩
  | case2 name hfree => exact h

namespace Builder

variable {builder : Builder}

/-- A type parameter is made of identifier characters. -/
theorem isIdentChar_generic (builder : Builder) (name : String) :
    ∀ c ∈ (builder.marker name).generic.toList, isIdentChar c = true := by
  by_cases hrenamed : builder.isRenamed name = true
  · rw [generic_of_renamed builder name hrenamed]
    exact isIdentChar_freshName _ _ (List.all_eq_true.mp rfl)
  · rw [generic_of_not_renamed builder name hrenamed]
    exact isIdentChar_of_mem_sanitize

/-- A type parameter is no path to a marker type. -/
theorem path_ne_generic (helpers text : String) (builder : Builder) (name : String) :
    genericsPath helpers ++ text ≠ (builder.marker name).generic :=
  path_ne_of_no_colon fun hcolon ↦
    absurd (builder.isIdentChar_generic name ':' hcolon) (by decide)

/-! ### Arguments -/

theorem param_marker (builder : Builder) (name : String) :
    (builder.marker name).param = markerIdent name := by
  rw [marker]

theorem missing_mem_bothNames (marker : Marker) :
    marker.missing ∈ Generator.bothNames marker.param :=
  List.mem_cons_self

theorem present_mem_bothNames (marker : Marker) :
    marker.present ∈ Generator.bothNames marker.param :=
  List.mem_cons_of_mem _ List.mem_cons_self

/-- A type argument is the path of a marker type of some required property, the type parameter of
one, or stands for dynamically typed values. -/
theorem mem_typeArguments {mode : ArgumentMode} {anyValue : Option String} {argument : String}
    (h : argument ∈ builder.typeArguments mode anyValue) :
    (∃ property ∈ builder.requiredProperties,
      ∃ name ∈ Generator.bothNames (markerIdent property.name),
        argument = genericsPath builder.helpers ++ name) ∨
    (∃ property ∈ builder.requiredProperties, argument = (builder.marker property.name).generic) ∨
    argument = anyArgument anyValue := by
  rcases List.mem_append.mp h with hmarker | hany
  · obtain ⟨marker, hmem, rfl⟩ := List.mem_map.mp hmarker
    obtain ⟨property, hproperty, rfl⟩ := List.mem_map.mp hmem
    have hmissing := missing_mem_bothNames (builder.marker property.name)
    have hpresent := present_mem_bothNames (builder.marker property.name)
    rw [param_marker] at hmissing hpresent
    cases mode with
    | generic => exact Or.inr (Or.inl ⟨property, hproperty, rfl⟩)
    | changeAll => exact Or.inl ⟨property, hproperty, _, hpresent, rfl⟩
    | replaceAll => exact Or.inl ⟨property, hproperty, _, hmissing, rfl⟩
    | changeOne name =>
      by_cases hname : (builder.marker property.name).propertyName = name
      · exact Or.inl ⟨property, hproperty, _, hpresent, if_pos hname⟩
      · exact Or.inr (Or.inl ⟨property, hproperty, if_neg hname⟩)
  · refine Or.inr (Or.inr ?_)
    split at hany
    · exact List.mem_singleton.mp hany
    · exact absurd hany List.not_mem_nil

/-- The arguments of the finished builders that the setter of a field takes: one marker per required
field of the child, and the parameter for dynamically typed values if the field needs it. -/
def nestedArguments (builder : Builder) (field : ObjectField) : List String :=
  childArguments builder.helpers field.childRequired
    (if field.needsAny then some anyParameter else none)

theorem mem_nestedArguments {field : ObjectField} {argument : String}
    (h : argument ∈ builder.nestedArguments field) :
    (∃ child ∈ field.childRequired, ∃ name ∈ Generator.bothNames (markerIdent child),
      argument = genericsPath builder.helpers ++ name) ∨ argument = anyParameter := by
  rcases List.mem_append.mp h with hmarker | hany
  · obtain ⟨child, hchild, rfl⟩ := List.mem_map.mp hmarker
    exact Or.inl ⟨child, hchild, _, List.mem_cons_of_mem _ List.mem_cons_self, rfl⟩
  · refine Or.inr ?_
    have hany := List.mem_of_mem_filter hany
    split at hany
    · simpa using hany
    · simp at hany

/-- A type with the finished builders of its leaf in place of the leaf. -/
def finishedType (shape : TypeShape) (arguments : List String) : String :=
  String.ofList (shape.mapLeaf fun leaf ↦ leaf ++ ("Builder" ++ angled arguments).toList).chars

/-- The setter of a field that takes builders takes those with the arguments for the field's
children. -/
theorem argTy_fieldSetter {field : ObjectField} {data : String} {body : SetterBody}
    (htakes : takesBuilders field = .ok true) (h : builder.fieldSetter data field = .ok body) :
    ∃ shape, TypeShape.ofText field.tyPath = .ok shape ∧
      body.argTy = finishedType shape (builder.nestedArguments field) := by
  obtain ⟨⟨argTy, value⟩, hargument, rfl⟩ := map_eq_ok.mp h
  obtain ⟨takes, htaken, hbuilders⟩ := bind_eq_ok.mp hargument
  obtain rfl := Except.ok.inj (htakes.symm.trans htaken)
  obtain ⟨childTy, hchildTy, hrest⟩ := bind_eq_ok.mp ((if_pos rfl).symm.trans hbuilders)
  obtain ⟨conversion, _, hanswer⟩ := bind_eq_ok.mp hrest
  obtain ⟨rfl, rfl⟩ := Prod.mk.inj (Except.ok.inj hanswer)
  rw [childBuilderType_eq] at hchildTy
  obtain ⟨shape, hshape, rfl⟩ := map_eq_ok.mp hchildTy
  exact ⟨shape, hshape, rfl⟩

end Builder

namespace Generator

open Builder

/-! ### Declared names -/

/-- The names of the marker types of a builder's own properties. -/
def ownNames (builder : Builder) : List String :=
  builder.markers.flatMap fun marker ↦ bothNames marker.param

/-- The names of the marker types that an object names: those of its builders, and those of the
children of its fields. -/
def namesOf (generator : Generator) (object : ApiObject) : List String :=
  (generator.builders object).flatMap ownNames ++ childMarkerNames object

theorem mem_namesOf_iff {generator : Generator} {object : ApiObject} {name : String} :
    name ∈ generator.namesOf object ↔
      (∃ builder ∈ generator.builders object, ∃ property ∈ builder.requiredProperties,
        name ∈ bothNames (markerIdent property.name)) ∨
      ∃ field ∈ object.fields, ∃ child ∈ field.childRequired,
        name ∈ bothNames (markerIdent child) := by
  simp only [namesOf, ownNames, childMarkerNames, markers, List.mem_append, List.mem_flatMap,
    List.mem_map, exists_exists_and_eq_and, param_marker]

section

variable {generator : Generator} {objects : List ApiObject} {names : List String}

/-- The names that are found for an object are those that it names. -/
theorem eq_namesOf_of_objectMarkerNames {object : ApiObject}
    (h : (generator.objectMarkerNames object).outcome = .ok names) :
    names = generator.namesOf object := by
  simp only [objectMarkerNames, Logged.outcome_bind, Logged.outcome_mapM, Builder.outcome_unify,
    Logged.outcome_pure] at h
  obtain ⟨own, hown, hnames⟩ := bind_eq_ok.mp h
  have hmarkers := eq_map_of_mapM_eq_ok ownNames (fun builder answer hanswer ↦ ?_) hown
  · rw [← Except.ok.inj hnames, hmarkers, namesOf, List.flatMap_def]
  · obtain ⟨_, _, hmarkers⟩ := bind_eq_ok.mp hanswer
    exact (Except.ok.inj hmarkers).symm

/-- The names of an object are found where no builder of it is refused. -/
theorem objectMarkerNames_eq_ok {object : ApiObject}
    (h : ∀ builder ∈ generator.builders object, builder.accepted () = .ok ()) :
    (generator.objectMarkerNames object).outcome = .ok (generator.namesOf object) := by
  simp only [objectMarkerNames, Logged.outcome_bind, Logged.outcome_mapM, Builder.outcome_unify,
    Logged.outcome_pure]
  rw [mapM_eq_ok_map ownNames fun builder hbuilder ↦ by rw [h builder hbuilder]; rfl]
  rw [namesOf, List.flatMap_def]
  rfl

/-- The names that the module declares are those that the objects of the run name, told apart and in
order. -/
theorem eq_distinctInOrder_of_markerNames
    (h : (generator.markerNames objects).outcome = .ok names) :
    names = Text.distinctInOrder (objects.flatMap generator.namesOf) := by
  simp only [markerNames, Logged.outcome_bind, Logged.outcome_mapM, Logged.outcome_pure] at h
  obtain ⟨found, hfound, hnames⟩ := bind_eq_ok.mp h
  have hobjects := eq_map_of_mapM_eq_ok generator.namesOf
    (fun object _ ↦ eq_namesOf_of_objectMarkerNames) hfound
  rw [← Except.ok.inj hnames, hobjects, List.flatMap_def]

/-- A lenient policy finds the names where the children of all fields are known. -/
theorem exists_markerNames (hdrop : generator.collisionPolicy = .drop)
    (hknown : ∀ object ∈ objects, ∀ field ∈ object.fields, field.hasKnownChildren = true) :
    ∃ names, (generator.markerNames objects).outcome = .ok names := by
  have haccepted : ∀ object ∈ objects, ∀ builder ∈ generator.builders object,
      builder.accepted () = .ok () := by
    intro object hobject builder hbuilder
    refine accepted_of_drop (collisionPolicy_of_mem_builders hbuilder ▸ hdrop) ?_ ()
    rw [fields_of_mem_builders hbuilder]
    exact hknown object hobject
  refine ⟨Text.distinctInOrder (objects.map generator.namesOf).flatten, ?_⟩
  simp only [markerNames, Logged.outcome_bind, Logged.outcome_mapM, Logged.outcome_pure]
  rw [mapM_eq_ok_map generator.namesOf fun object hobject ↦
    objectMarkerNames_eq_ok (haccepted object hobject)]
  rfl

/-- The module declares the marker types of required properties and of the required fields of
children, and nothing else. -/
theorem mem_markerNames_iff (h : (generator.markerNames objects).outcome = .ok names)
    {name : String} :
    name ∈ names ↔ ∃ object ∈ objects,
      (∃ builder ∈ generator.builders object, ∃ property ∈ builder.requiredProperties,
        name ∈ bothNames (markerIdent property.name)) ∨
      ∃ field ∈ object.fields, ∃ child ∈ field.childRequired,
        name ∈ bothNames (markerIdent child) := by
  rw [eq_distinctInOrder_of_markerNames h, KeyOrder.mem_distinctInOrder, List.mem_flatMap]
  exact exists_congr fun object ↦ and_congr_right fun _ ↦ mem_namesOf_iff

/-- The names that the module declares are made of identifier characters. -/
theorem isIdentChar_of_mem_markerNames (h : (generator.markerNames objects).outcome = .ok names)
    {name : String} (hname : name ∈ names) : ∀ c ∈ name.toList, isIdentChar c = true := by
  have hboth : ∃ property, name ∈ bothNames (markerIdent property) := by
    obtain ⟨_, _, ⟨_, _, property, _, hown⟩ | ⟨_, _, child, _, hchild⟩⟩ :=
      (mem_markerNames_iff h).mp hname
    · exact ⟨property.name, hown⟩
    · exact ⟨child, hchild⟩
  obtain ⟨property, hproperty⟩ := hboth
  have hmarker : ∀ c ∈ (markerIdent property).toList, isIdentChar c = true :=
    isIdentChar_of_mem_sanitize
  rcases List.mem_pair.mp hproperty with rfl | rfl
  · rw [missingName, String.toList_append]
    exact List.forall_mem_append.mpr ⟨List.all_eq_true.mp rfl, hmarker⟩
  · rw [existsName, String.toList_append]
    exact List.forall_mem_append.mpr ⟨hmarker, List.all_eq_true.mp rfl⟩

/-- The names that the module declares are strictly increasing. -/
theorem pairwise_markerNames (h : (generator.markerNames objects).outcome = .ok names) :
    names.Pairwise (· < ·) := by
  have hunmarked : ∀ name ∈ names, ∀ c ∈ name.toList, c ≠ Text.mark := by
    rintro name hname _ hc rfl
    exact absurd (isIdentChar_of_mem_markerNames h hname _ hc) (by decide)
  have hbefore : names.Pairwise Text.Before := by
    rw [eq_distinctInOrder_of_markerNames h]
    exact KeyOrder.pairwise_distinctInOrder _
  exact hbefore.imp_of_mem fun hfirst hsecond ↦
    KeyOrder.lt_of_before (hunmarked _ hfirst) (hunmarked _ hsecond)

end

/-! ### Addressed names -/

section

variable {generator : Generator} {objects : List ApiObject} {names : List String}
  {object : ApiObject} {name : String}

/-- What the type arguments of a builder address is declared. -/
theorem mem_names_of_typeArgument (h : (generator.markerNames objects).outcome = .ok names)
    (hobject : object ∈ objects) {builder : Builder}
    (hbuilder : builder ∈ generator.builders object) {mode : ArgumentMode}
    {anyValue : Option String}
    (hname : genericsPath builder.helpers ++ name ∈ builder.typeArguments mode anyValue) :
    name ∈ names ∨ anyValue = some (genericsPath builder.helpers ++ name) := by
  rcases mem_typeArguments hname with
    ⟨property, hproperty, declared, hdeclared, hsame⟩ | ⟨property, _, hgeneric⟩ | hany
  · rw [(String.append_right_inj _).mp hsame]
    exact Or.inl ((mem_markerNames_iff h).mpr
      ⟨object, hobject, Or.inl ⟨builder, hbuilder, property, hproperty, hdeclared⟩⟩)
  · exact absurd hgeneric (path_ne_generic _ _ builder property.name)
  · exact Or.inr (eq_some_of_path_eq_anyArgument hany)

/-- What the builders that a field takes address is declared. -/
theorem mem_names_of_nestedArgument (h : (generator.markerNames objects).outcome = .ok names)
    (hobject : object ∈ objects) {builder : Builder} {field : ObjectField}
    (hfield : field ∈ object.fields)
    (hname : genericsPath builder.helpers ++ name ∈ builder.nestedArguments field) :
    name ∈ names := by
  rcases mem_nestedArguments hname with ⟨child, hchild, declared, hdeclared, hsame⟩ | hany
  · rw [(String.append_right_inj _).mp hsame]
    exact (mem_markerNames_iff h).mpr
      ⟨object, hobject, Or.inr ⟨field, hfield, child, hchild, hdeclared⟩⟩
  · exact absurd hany (path_ne_anyParameter _ _)

end

/-- The module of marker types is closed. A lenient policy finds its names wherever the children of
all fields are known. Every marker type that a builder of the run addresses in its type arguments is
declared, where the value that is given for dynamically typed slots does not count as one. So is
every marker type that the setter of a field addresses in the finished builders that it takes. Every
name that is declared is that of a marker type of a required property, or of a required field of
some field's children, and the names are strictly increasing. -/
theorem markerNames_closed {generator : Generator} (hdrop : generator.collisionPolicy = .drop)
    (objects : List ApiObject) :
    ((∀ object ∈ objects, ∀ field ∈ object.fields, field.hasKnownChildren = true) →
      ∃ names, (generator.markerNames objects).outcome = .ok names) ∧
    ∀ names, (generator.markerNames objects).outcome = .ok names →
      (∀ object ∈ objects, ∀ builder ∈ generator.builders object,
        (∀ mode anyValue name,
          genericsPath builder.helpers ++ name ∈ builder.typeArguments mode anyValue →
          name ∈ names ∨ anyValue = some (genericsPath builder.helpers ++ name)) ∧
        ∀ field ∈ object.fields,
          (∀ name, genericsPath builder.helpers ++ name ∈ builder.nestedArguments field →
            name ∈ names) ∧
          ∀ data body, takesBuilders field = .ok true → builder.fieldSetter data field = .ok body →
            ∃ shape, TypeShape.ofText field.tyPath = .ok shape ∧
              body.argTy = finishedType shape (builder.nestedArguments field)) ∧
      (∀ name ∈ names, ∃ object ∈ objects,
        (∃ builder ∈ generator.builders object, ∃ property ∈ builder.requiredProperties,
          name = missingName (markerIdent property.name) ∨
            name = existsName (markerIdent property.name)) ∨
        ∃ field ∈ object.fields, ∃ child ∈ field.childRequired,
          name = missingName (markerIdent child) ∨ name = existsName (markerIdent child)) ∧
      names.Pairwise (· < ·) := by
  refine ⟨exists_markerNames hdrop, fun names hnames ↦ ⟨fun object hobject builder hbuilder ↦ ?_,
    fun name hname ↦ ?_, pairwise_markerNames hnames⟩⟩
  · refine ⟨fun _ _ _ ↦ mem_names_of_typeArgument hnames hobject hbuilder, fun field hfield ↦ ?_⟩
    exact ⟨fun _ ↦ mem_names_of_nestedArgument hnames hobject hfield,
      fun _ _ ↦ argTy_fieldSetter⟩
  · simpa only [bothNames, List.mem_cons, List.not_mem_nil, or_false] using
      (mem_markerNames_iff hnames).mp hname

/-- A field for pets, which must have names. -/
def ownedPets : ObjectField where
  name := "pets"
  tyPath := "Vec<crate::pet::Pet>"
  knownChildren := some ["name"]

/-- An owner with a number and with pets. -/
def petOwner : ApiObject where
  name := "Owner"
  fields := [{ name := "id", tyPath := "i64", isRequired := true }, ownedPets]

theorem markerNames_closed_petOwner :
    standard.collisionPolicy = .drop ∧
      (∀ object ∈ [petOwner], ∀ field ∈ object.fields, field.hasKnownChildren = true) ∧
      takesBuilders ownedPets = .ok true ∧
      ∃ names, (standard.markerNames [petOwner]).outcome = .ok names ∧ "MissingId" ∈ names ∧
        "NameExists" ∈ names ∧ "MissingPets" ∉ names ∧ names.Pairwise (· < ·) := by
  have hknown : ∀ object ∈ [petOwner], ∀ field ∈ object.fields, field.hasKnownChildren = true := by
    decide
  have hbuilder := objectBuilder_mem_builders standard petOwner
  have hdrop : standard.collisionPolicy = .drop := rfl
  obtain ⟨hfound, hclosed⟩ := markerNames_closed hdrop [petOwner]
  obtain ⟨names, hnames⟩ := hfound hknown
  obtain ⟨haddressed, hdeclared, hsorted⟩ := hclosed names hnames
  obtain ⟨htypes, hfields⟩ := haddressed petOwner (List.mem_singleton_self _) _ hbuilder
  refine ⟨rfl, hknown, by decide +kernel, names, hnames, ?_, ?_, fun hpets ↦ ?_, hsorted⟩
  · exact (htypes .replaceAll none "MissingId" (by decide +kernel)).resolve_right nofun
  · exact (hfields _ (List.mem_cons_of_mem _ List.mem_cons_self)).1 "NameExists" (by decide +kernel)
  · obtain ⟨object, hobject, hname⟩ := hdeclared _ hpets
    obtain rfl := List.mem_singleton.mp hobject
    rw [builders_of_no_paths rfl] at hname
    revert hname
    decide +kernel

end Generator

end TypestateBuilders
