import TypestateBuilders.Proofs.Outcome
import TypestateBuilders.Proofs.Unification
import TypestateBuilders.Builder.Completion

/-!
# Models without documentation

Every part of a model has a form without descriptions (`ApiObject.undocumented`,
`Builder.undocumented` and those of what they consist of). The descriptions are passed on and
nothing is decided by them: what is kept of the declarations of a builder, what collides, and all
names and types are the same with and without descriptions, up to the descriptions that the
properties themselves carry.

A collision names its two properties as they are described. So a failure has a form without
descriptions as well (`Failure.undocumented`); two failures have the same cause when they agree in
that form (`Failure.SameCause`), and then their messages are the same (`message_eq`).
-/

set_option autoImplicit false
set_option relaxedAutoImplicit false

namespace TypestateBuilders

open Naming Occurrence Outcome

/-! ### Parts of a model -/

/-- A field without its description. -/
def ObjectField.undocumented (field : ObjectField) : ObjectField :=
  { field with description := .absent }

/-- A parameter without its description. -/
def Parameter.undocumented (parameter : Parameter) : Parameter :=
  { parameter with description := .absent }

/-- A property without its description. -/
def Property.undocumented (property : Property) : Property :=
  { property with description := .absent }

/-- An operation without descriptions. -/
def Operation.undocumented (operation : Operation) : Operation :=
  { operation with
    description := .absent
    params := operation.params.map Parameter.undocumented }

/-- The operations at a path without descriptions. -/
def PathOperations.undocumented (path : PathOperations) : PathOperations where
  operations := path.operations.map fun entry ↦ (entry.1, entry.2.undocumented)
  params := path.params.map Parameter.undocumented

/-- An object without descriptions. -/
def ApiObject.undocumented (object : ApiObject) : ApiObject :=
  { object with
    description := .absent
    fields := object.fields.map ObjectField.undocumented
    paths := object.paths.map fun entry ↦ (entry.1, entry.2.undocumented) }

/-- What is kept and what collides without descriptions. -/
def Unification.undocumented (unified : Unification) : Unification where
  kept := unified.kept.map Property.undocumented
  collisions := unified.collisions.map fun pair ↦ (pair.1.undocumented, pair.2.undocumented)

/-- A builder without descriptions. -/
def Builder.undocumented (builder : Builder) : Builder :=
  { builder with
    fields := builder.fields.map ObjectField.undocumented
    description := .absent
    sharedParams := builder.sharedParams.map Parameter.undocumented
    ownParams := builder.ownParams.map Parameter.undocumented }

/-- A failure without descriptions. -/
def Failure.undocumented : Failure → Failure
  | .collision builder kept dropped => .collision builder kept.undocumented dropped.undocumented
  | failure => failure

namespace Failure

/-- Two failures that differ in descriptions at most. -/
def SameCause (first second : Failure) : Prop :=
  first.undocumented = second.undocumented

theorem sameCause_undocumented (failure : Failure) : failure.SameCause failure.undocumented := by
  cases failure <;> rfl

/-- Descriptions are not part of a message. -/
theorem message_undocumented (failure : Failure) :
    failure.undocumented.message = failure.message := by
  cases failure <;> rfl

theorem SameCause.message_eq {first second : Failure} (h : first.SameCause second) :
    first.message = second.message := by
  rw [← message_undocumented first, h, message_undocumented]

theorem alike_self {α : Type} (outcome : Except Failure α) : Alike SameCause Eq outcome outcome :=
  Alike.of_eq (fun _ ↦ rfl) fun _ ↦ rfl

end Failure

theorem ApiObject.needsAny_undocumented (object : ApiObject) :
    object.undocumented.needsAny = object.needsAny :=
  List.any_map ..

/-! ### Declarations -/

namespace Property

@[simp] theorem key_undocumented (property : Property) :
    property.undocumented.key = property.key := rfl

theorem ofField_undocumented (bodyRequired : Bool) (field : ObjectField) :
    ofField bodyRequired field.undocumented = (ofField bodyRequired field).undocumented := rfl

theorem ofParameter_undocumented (parameter : Parameter) :
    ofParameter parameter.undocumented = (ofParameter parameter).undocumented := rfl

end Property

namespace Unification

theorem markOverridden_undocumented (key : String) (properties : List Property) :
    markOverridden key (properties.map Property.undocumented) =
      (markOverridden key properties).map Property.undocumented := by
  rw [markOverridden, markOverridden, List.map_map, List.map_map]
  refine List.map_congr_left fun property _ ↦ ?_
  rw [Function.comp_apply, Function.comp_apply, Property.key_undocumented]
  by_cases hkey : property.key = key
  · rw [if_pos hkey, if_pos hkey]
    rfl
  · rw [if_neg hkey, if_neg hkey]

/-- One more declaration is unified in the same way without descriptions. -/
theorem add_undocumented (unified : Unification) (candidate : Property) :
    unified.undocumented.add candidate.undocumented = (unified.add candidate).undocumented := by
  have htest : (fun property : Property ↦ property.key == candidate.key) ∘ Property.undocumented =
      fun property ↦ property.key == candidate.key :=
    funext fun property ↦ by rw [Function.comp_apply, Property.key_undocumented]
  have hfind : unified.undocumented.kept.find? (fun property ↦ property.key == candidate.key) =
      (unified.kept.find? fun property ↦ property.key == candidate.key).map
        Property.undocumented := by
    rw [undocumented, List.find?_map, htest]
  simp only [add, Property.key_undocumented, hfind]
  cases unified.kept.find? fun property ↦ property.key == candidate.key with
  | none => simp [undocumented]
  | some kept =>
    have hmerges : merges kept.undocumented candidate.undocumented = merges kept candidate := rfl
    simp only [Option.map_some, hmerges]
    by_cases hgoes : merges kept candidate = true
    · rw [if_pos hgoes, if_pos hgoes]
      simp [undocumented, markOverridden_undocumented]
    · rw [if_neg hgoes, if_neg hgoes]
      simp [undocumented]

theorem foldl_add_undocumented (candidates : List Property) (unified : Unification) :
    (candidates.map Property.undocumented).foldl add unified.undocumented =
      (candidates.foldl add unified).undocumented := by
  induction candidates generalizing unified with
  | nil => rfl
  | cons candidate rest ih =>
    rw [List.map_cons, List.foldl_cons, List.foldl_cons, add_undocumented, ih]

end Unification

namespace Builder

theorem parameters_undocumented (builder : Builder) :
    builder.undocumented.parameters = builder.parameters.map Parameter.undocumented :=
  List.map_append.symm

theorem declarations_undocumented (builder : Builder) :
    builder.undocumented.declarations = builder.declarations.map Property.undocumented := by
  have hname : (fun parameter : Parameter ↦ parameter.undocumented.name) = Parameter.name := rfl
  rw [declarations, declarations, parameters_undocumented, firsts_map, hname, List.map_map,
    List.map_append, List.map_map]
  congr 1
  · refine List.map_congr_left fun parameter _ ↦ ?_
    rw [Function.comp_apply, Function.comp_apply, latest_map, hname,
      Property.ofParameter_undocumented]
  · rw [List.map_map]
    show (builder.fields.map ObjectField.undocumented).map _ = _
    rw [List.map_map]
    exact List.map_congr_left fun field _ ↦ Property.ofField_undocumented builder.bodyRequired field

/-- Unification decides nothing by descriptions. -/
theorem unification_undocumented (builder : Builder) :
    builder.undocumented.unification = builder.unification.undocumented := by
  rw [unification, unification, candidates_eq_declarations, candidates_eq_declarations,
    declarations_undocumented]
  exact Unification.foldl_add_undocumented builder.declarations {}

theorem properties_undocumented (builder : Builder) :
    builder.undocumented.properties = builder.properties.map Property.undocumented := by
  rw [properties, unification_undocumented]
  rfl

theorem collisions_undocumented (builder : Builder) :
    builder.undocumented.collisions =
      builder.collisions.map fun pair ↦ (pair.1.undocumented, pair.2.undocumented) := by
  rw [collisions, unification_undocumented]
  rfl

theorem examined_undocumented (builder : Builder) :
    builder.undocumented.examined = builder.examined.undocumented := by
  have hknown : ObjectField.hasKnownChildren ∘ ObjectField.undocumented =
      ObjectField.hasKnownChildren := rfl
  have hfields : (builder.fields.map ObjectField.undocumented).takeWhile
      ObjectField.hasKnownChildren =
      (builder.fields.takeWhile ObjectField.hasKnownChildren).map ObjectField.undocumented := by
    rw [List.takeWhile_map, hknown]
  exact congrArg (fun fields ↦ { builder.undocumented with fields }) hfields

/-- A builder is refused for the same cause without descriptions. -/
theorem refusal?_undocumented (builder : Builder) :
    builder.undocumented.refusal? = builder.refusal?.map Failure.undocumented := by
  have hpolicy : builder.undocumented.collisionPolicy = builder.collisionPolicy := rfl
  have hcollisions : builder.undocumented.examined.collisions =
      builder.examined.collisions.map fun pair ↦ (pair.1.undocumented, pair.2.undocumented) := by
    rw [examined_undocumented, collisions_undocumented]
  have hunknown : ((builder.undocumented.fields.find? fun field ↦ !field.hasKnownChildren).map
      fun field ↦ Failure.unknownChildren field.name) =
      ((builder.fields.find? fun field ↦ !field.hasKnownChildren).map
        fun field ↦ Failure.unknownChildren field.name).map Failure.undocumented := by
    show ((builder.fields.map ObjectField.undocumented).find? _).map _ = _
    rw [List.find?_map, Option.map_map, Option.map_map]
    rfl
  rw [refusal?, refusal?, hpolicy, hcollisions]
  cases builder.collisionPolicy with
  | drop => exact hunknown
  | refuse =>
    cases builder.examined.collisions with
    | nil => exact hunknown
    | cons pair rest => rfl

/-- What is derived from the properties of a builder is refused alike without descriptions. -/
theorem alike_accepted {α β : Type} {answers : α → β → Prop} (builder : Builder) {derived : α}
    {derived' : β} (h : answers derived derived') :
    Alike Failure.SameCause answers (builder.accepted derived)
      (builder.undocumented.accepted derived') := by
  rw [accepted, accepted, refusal?_undocumented]
  cases builder.refusal? with
  | none => exact Alike.answer h
  | some failure => exact Alike.failure failure.sameCause_undocumented

/-- What comes after the properties are accepted ends alike if it does for itself. -/
theorem alike_after_accepted {α β : Type} {answers : α → β → Prop} (builder : Builder)
    {next : Except Failure α} {next' : Except Failure β}
    (h : Alike Failure.SameCause answers next next') :
    Alike Failure.SameCause answers (builder.accepted () >>= fun _ ↦ next)
      (builder.undocumented.accepted () >>= fun _ ↦ next') :=
  (builder.alike_accepted (rfl : () = ())).bind fun _ _ _ ↦ h

/-! ### Markers -/

theorem requiredProperties_undocumented (builder : Builder) :
    builder.undocumented.requiredProperties =
      builder.requiredProperties.map Property.undocumented := by
  rw [requiredProperties, properties_undocumented, List.filter_map]
  rfl

theorem marker_undocumented (builder : Builder) (name : String) :
    builder.undocumented.marker name = builder.marker name := by
  have htaken : builder.undocumented.takenParams = builder.takenParams := by
    rw [takenParams, takenParams, requiredProperties_undocumented, List.map_map]
    rfl
  rw [marker, marker, htaken]
  rfl

theorem markers_undocumented (builder : Builder) :
    builder.undocumented.markers = builder.markers := by
  rw [markers, markers, requiredProperties_undocumented, List.map_map]
  exact List.map_congr_left fun property _ ↦ builder.marker_undocumented property.name

theorem generics_undocumented (builder : Builder) (mode : ArgumentMode)
    (anyValue : Option String) :
    builder.undocumented.generics mode anyValue = builder.generics mode anyValue := by
  rw [generics, generics, typeArguments, typeArguments, markers_undocumented]
  rfl

theorem type_undocumented (builder : Builder) (mode : ArgumentMode) (anyValue : Option String) :
    builder.undocumented.type mode anyValue = builder.type mode anyValue := by
  rw [type, type, generics_undocumented]
  rfl

/-! ### Layout -/

theorem needsContainer_undocumented (builder : Builder) :
    builder.undocumented.needsContainer = builder.needsContainer := by
  have hparameters : (builder.parameters.map Parameter.undocumented).any Parameter.required =
      builder.parameters.any Parameter.required := List.any_map ..
  have hfields : builder.undocumented.fields.any ObjectField.isRequired =
      builder.fields.any ObjectField.isRequired := List.any_map ..
  rw [needsContainer, needsContainer, parameters_undocumented, hparameters, hfields,
    List.isEmpty_map]
  rfl

theorem markerSlots_undocumented (builder : Builder) (property : Property) :
    builder.undocumented.markerSlots property.undocumented = builder.markerSlots property := by
  rw [markerSlots, markerSlots, marker_undocumented]
  rfl

theorem layoutOf_undocumented (builder : Builder) (stored : List (Property × List Slot)) :
    builder.undocumented.layoutOf (stored.map fun entry ↦ (entry.1.undocumented, entry.2)) =
      builder.layoutOf stored := by
  rw [layoutOf, layoutOf, needsContainer_undocumented]
  simp only [List.flatMap_map, markerSlots_undocumented]
  rfl

/-- A builder is laid out in the same way without descriptions. -/
theorem alike_layout (builder : Builder) :
    Alike Failure.SameCause Eq builder.layout builder.undocumented.layout := by
  have hstored : Alike Eq
      (List.Forall₂ fun entry bare : Property × List Slot ↦ (entry.1.undocumented, entry.2) = bare)
      (builder.properties.mapM fun property ↦
        (builder.valueSlots property).map fun slots ↦ (property, slots))
      ((builder.properties.map Property.undocumented).mapM fun property ↦
        (builder.undocumented.valueSlots property).map fun slots ↦ (property, slots)) := by
    refine Alike.mapM_map fun property _ ↦ ?_
    have hslots : builder.undocumented.valueSlots property.undocumented =
        builder.valueSlots property := rfl
    rw [hslots]
    refine (Alike.refl _).map ?_
    rintro slots _ rfl
    rfl
  rw [layout, layout, properties_undocumented]
  refine builder.alike_after_accepted ?_
  refine (hstored.mapError fun fault _ hfault ↦ ?_).bind fun stored _ hbare ↦ ?_
  · rw [hfault]
    rfl
  · rw [← List.forall₂_map_left_iff, List.forall₂_eq_eq_eq] at hbare
    rw [← hbare, layoutOf_undocumented]
    exact Alike.answer rfl

/-! ### Setters -/

theorem objectField?_undocumented (builder : Builder) (name : String) :
    builder.undocumented.objectField? name =
      (builder.objectField? name).map ObjectField.undocumented := by
  show (builder.fields.map ObjectField.undocumented).find? _ = _
  rw [List.find?_map]
  rfl

theorem parameterSetter_undocumented (builder : Builder) (data : String) (property : Property) :
    builder.undocumented.parameterSetter data property.undocumented =
      builder.parameterSetter data property := by
  have hmerged : builder.undocumented.mergedField? property.undocumented =
      (builder.mergedField? property).map ObjectField.undocumented := by
    rw [mergedField?, mergedField?]
    by_cases h : (property.overridden && builder.bodyRequired) = true
    · rw [if_pos h, ← objectField?_undocumented]
      exact if_pos h
    · rw [if_neg h]
      exact if_neg h
  rw [parameterSetter, parameterSetter, hmerged]
  cases builder.mergedField? property <;> rfl

/-- A setter takes and does the same without descriptions. -/
theorem setterBody?_undocumented (builder : Builder) (data : String) (property : Property) :
    builder.undocumented.setterBody? data property.undocumented =
      builder.setterBody? data property := by
  have hfield : builder.undocumented.objectField? property.undocumented.name =
      (builder.objectField? property.name).map ObjectField.undocumented :=
    objectField?_undocumented builder property.name
  rw [setterBody?, setterBody?, parameterSetter_undocumented, hfield]
  cases builder.objectField? property.name <;> rfl

/-! ### Finished builders -/

theorem alike_conversion (builder : Builder) (layout : Layout) :
    Alike Failure.SameCause Eq (builder.conversion layout)
      (builder.undocumented.conversion layout) := by
  refine builder.alike_accepted ?_
  rw [type_undocumented]
  rfl

theorem formatExpression_undocumented (layout : Layout) (properties : List Property)
    (template : String) :
    formatExpression layout (properties.map Property.undocumented) template =
      formatExpression layout properties template := by
  have hpath : renamePlaceholders template.toList (properties.map Property.undocumented) =
      renamePlaceholders template.toList properties := by
    rw [renamePlaceholders, renamePlaceholders, List.foldl_map]
    rfl
  have harguments : (properties.map Property.undocumented).map (pathArgumentOf layout) =
      properties.map (pathArgumentOf layout) := by
    rw [List.map_map]
    rfl
  rw [formatExpression, formatExpression, hpath, harguments]

theorem pathExpression_undocumented (builder : Builder) (layout : Layout) :
    builder.undocumented.pathExpression layout = builder.pathExpression layout := by
  have hproperties : builder.undocumented.pathProperties =
      builder.pathProperties.map Property.undocumented := by
    rw [pathProperties, properties_undocumented, List.filter_map]
    rfl
  have htemplate : builder.undocumented.pathTemplate = builder.pathTemplate := rfl
  rw [pathExpression, pathExpression, hproperties, htemplate]
  cases hcases : builder.pathProperties with
  | nil => rfl
  | cons property rest =>
    have hformat : formatExpression layout ((property :: rest).map Property.undocumented) =
        formatExpression layout (property :: rest) :=
      funext fun template ↦ formatExpression_undocumented layout (property :: rest) template
    exact congrArg (fun format ↦ (builder.pathTemplate.require .path).map format) hformat

theorem alike_sendable (builder : Builder) (layout : Layout) (method : HttpMethod)
    (defaultAny : Value) :
    Alike Failure.SameCause Eq (builder.sendable layout method defaultAny)
      (builder.undocumented.sendable layout method defaultAny) := by
  rw [sendable, sendable, pathExpression_undocumented]
  refine builder.alike_after_accepted ?_
  simp only [type_undocumented]
  exact Failure.alike_self _

end Builder

end TypestateBuilders
