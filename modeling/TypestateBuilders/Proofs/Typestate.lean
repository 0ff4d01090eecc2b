import TypestateBuilders.Proofs.Setters

/-!
# Chains of setter calls

A builder starts with the type that its constructor returns, where every marker is missing. A call
of the setter of a required property switches the arguments in which the type that the setter
returns differs from the generic one (`switched`), and every other call leaves the type as it is
(`Builder.call`). So the state of the type after a chain of calls says which setters occurred in it
(`argumentsAfter_eq`), in whatever order and however often. The type is that of the finished build
exactly when the setter of every required property occurred (`finished_iff_all_set`).
-/

set_option autoImplicit false
set_option relaxedAutoImplicit false

namespace TypestateBuilders.Builder

open Naming

/-- The type arguments after a call: an argument that is generic in the type that is returned stays
as it is, and any other is that of the type that is returned. -/
def switched (generic returned current : List String) : List String :=
  List.zipWith (fun pair now ↦ if pair.2 = pair.1 then now else pair.2) (generic.zip returned)
    current

theorem switched_map {α : Type} (generic returned current : α → String) (items : List α) :
    switched (items.map generic) (items.map returned) (items.map current) =
      items.map fun item ↦
        if returned item = generic item then current item else returned item := by
  induction items with
  | nil => rfl
  | cons item rest ih => exact congrArg _ ih

theorem switched_append {generic returned current : List String} (rest : List String)
    (hreturned : generic.length = returned.length) (hcurrent : generic.length = current.length) :
    switched (generic ++ rest) (returned ++ rest) (current ++ rest) =
      switched generic returned current ++ rest := by
  have hrest : switched rest rest rest = rest := by
    induction rest with
    | nil => rfl
    | cons argument rest ih =>
      show (if argument = argument then argument else argument) :: switched rest rest rest = _
      rw [if_pos rfl, ih]
  rw [switched, List.zip_append hreturned, List.zipWith_append (by simp [← hreturned, hcurrent])]
  exact congrArg _ hrest

variable (builder : Builder)

/-- The required property that a setter sets, if it is the setter of one. -/
def setProperty? (setter : Setter) : Option Property :=
  builder.requiredProperties.find? fun property ↦ property.key == setter.name

/-- The type arguments after a call of a setter. -/
def call (current : List String) (setter : Setter) : List String :=
  match builder.setProperty? setter with
  | some property =>
    switched (builder.typeArguments .generic none)
      (builder.typeArguments (.changeOne property.name) none) current
  | none => current

/-- The type arguments after a chain of calls on a builder that was just created. -/
def argumentsAfter (calls : List Setter) : List String :=
  calls.foldl builder.call (builder.typeArguments .replaceAll none)

/-- The argument of the slot for dynamically typed values, if there is one. -/
def anyArguments : List String :=
  if builder.needsAny then [anyArgument none] else []

/-- The arguments for the markers, when it is known which properties are set. -/
def markersWhen (isSet : String → Bool) : List String :=
  builder.markers.map fun marker ↦
    genericsPath builder.helpers ++
      if isSet marker.propertyName then marker.present else marker.missing

theorem replaceAll_eq_markersWhen :
    builder.typeArguments .replaceAll none =
      builder.markersWhen (fun _ ↦ false) ++ builder.anyArguments :=
  rfl

/-- A call that sets a property changes what the type says about this property alone. -/
theorem switched_markersWhen (isSet : String → Bool) (name : String) :
    switched (builder.typeArguments .generic none) (builder.typeArguments (.changeOne name) none)
        (builder.markersWhen isSet ++ builder.anyArguments) =
      builder.markersWhen (fun other ↦ decide (other = name) || isSet other) ++
        builder.anyArguments := by
  have hgeneric : builder.typeArguments .generic none =
      builder.markers.map Marker.generic ++ builder.anyArguments := rfl
  have hreturned : builder.typeArguments (.changeOne name) none =
      builder.markers.map (builder.markerArgument (.changeOne name)) ++ builder.anyArguments := rfl
  rw [hgeneric, hreturned, switched_append _ (by simp) (by simp [markersWhen]), markersWhen,
    switched_map, markersWhen]
  congr 1
  refine List.map_congr_left fun marker hmarker ↦ ?_
  obtain ⟨property, _, rfl⟩ := List.mem_map.mp hmarker
  by_cases hname : (builder.marker property.name).propertyName = name
  · simp only [markerArgument, hname, if_true, decide_true, Bool.true_or,
      if_neg (builder.path_present_ne_generic property.name)]
  · simp only [markerArgument, hname, if_false, if_true, decide_false, Bool.false_or]

/-- Whether the setter of a required property occurs in a chain of calls. -/
def isSetBy (calls : List Setter) (name : String) : Bool :=
  calls.any fun setter ↦ (builder.setProperty? setter).any fun property ↦ name = property.name

/-- What a chain of calls makes of a type that says which properties are set. -/
theorem foldl_call_markersWhen (calls : List Setter) (isSet : String → Bool) :
    calls.foldl builder.call (builder.markersWhen isSet ++ builder.anyArguments) =
      builder.markersWhen (fun name ↦ builder.isSetBy calls name || isSet name) ++
        builder.anyArguments := by
  induction calls generalizing isSet with
  | nil => rfl
  | cons setter calls ih =>
    rw [List.foldl_cons, call]
    cases hset : builder.setProperty? setter with
    | none =>
      simp only [ih, isSetBy, List.any_cons, hset, Option.any_none, Bool.false_or]
    | some property =>
      simp only [switched_markersWhen, ih, isSetBy, List.any_cons, hset, Option.any_some]
      congr 2
      funext name
      rw [← Bool.or_assoc, Bool.or_comm (calls.any _)]

/-- After a chain of calls the type says which setters occurred in it. -/
theorem argumentsAfter_eq (calls : List Setter) :
    builder.argumentsAfter calls =
      builder.markersWhen (builder.isSetBy calls) ++ builder.anyArguments := by
  rw [argumentsAfter, replaceAll_eq_markersWhen, foldl_call_markersWhen]
  simp only [Bool.or_false]

theorem isSetBy_iff (calls : List Setter) {property : Property}
    (hproperty : property ∈ builder.requiredProperties) :
    builder.isSetBy calls property.name = true ↔ ∃ setter ∈ calls, setter.name = property.key := by
  rw [isSetBy, List.any_eq_true]
  refine exists_congr fun setter ↦ and_congr_right fun _ ↦ ?_
  rw [Option.any_eq_true]
  constructor
  · rintro ⟨found, hfound, hname⟩
    have hkey : found.key = setter.name := by simpa using List.find?_some hfound
    rw [← hkey, Property.key, Property.key, of_decide_eq_true hname]
  · intro hname
    have hsome : (builder.setProperty? setter).isSome = true :=
      List.find?_isSome.mpr ⟨property, hproperty, by rw [hname, beq_self_eq_true]⟩
    obtain ⟨found, hfound⟩ := Option.isSome_iff_exists.mp hsome
    refine ⟨found, hfound, ?_⟩
    have hkey : found.key = setter.name := by simpa using List.find?_some hfound
    have hsame : found = property :=
      List.inj_on_of_nodup_map builder.nodup_keys_requiredProperties
        (List.mem_of_find?_eq_some hfound) hproperty (hkey.trans hname)
    rw [hsame, decide_eq_true_iff]

/-- The marker arguments are those of the finished build when every property is set. -/
theorem take_markersWhen_eq_iff (isSet : String → Bool) (anyValue : Option String)
    (rest : List String) :
    (builder.markersWhen isSet ++ rest).take builder.markers.length =
        (builder.typeArguments .changeAll anyValue).take builder.markers.length ↔
      ∀ property ∈ builder.requiredProperties, isSet property.name = true := by
  have hlength : ∀ (argument : Marker → String) (rest : List String),
      (builder.markers.map argument ++ rest).take builder.markers.length =
        builder.markers.map argument := fun argument rest ↦ by
    rw [List.take_append_of_le_length (by simp), List.take_of_length_le (by simp)]
  rw [markersWhen, hlength, typeArguments, argumentsFor, hlength, List.map_inj_left, markers,
    List.forall_mem_map]
  refine forall₂_congr fun property _ ↦ ?_
  cases hset : isSet property.name with
  | false =>
    have hne := present_ne_missing (genericsPath builder.helpers) (builder.marker property.name)
    have hfalse : isSet (builder.marker property.name).propertyName = false := hset
    simp only [hfalse, Bool.false_eq_true, if_false, markerArgument, iff_false]
    exact fun h ↦ hne h.symm
  | true =>
    have htrue : isSet (builder.marker property.name).propertyName = true := hset
    simp only [htrue, if_true, markerArgument]

/-- Typestate over chains of calls. Every required property has a setter, which returns the type
with the marker of this property switched, and the setters of other properties return the builder as
it is. After a chain of calls of setters, in any order and with repetitions, the marker arguments
are those of the finished build exactly when the setter of every required property occurs in it. -/
theorem finished_iff_all_set {builder : Builder} {layout : Layout} {addComments : Bool}
    {setters : List Setter} (h : builder.setters layout addComments = .ok setters) :
    (∀ property ∈ builder.requiredProperties, ∃ setter ∈ setters,
      setter.name = property.key ∧ setter.ret = builder.type (.changeOne property.name)) ∧
    (∀ setter ∈ setters, (∀ property ∈ builder.requiredProperties, property.key ≠ setter.name) →
      setter.ret = "Self") ∧
    ∀ calls : List Setter, (∀ setter ∈ calls, setter ∈ setters) → ∀ anyValue : Option String,
      (builder.argumentsAfter calls).take builder.markers.length =
          (builder.typeArguments .changeAll anyValue).take builder.markers.length ↔
        ∀ property ∈ builder.requiredProperties,
          ∃ setter ∈ calls, setter.name = property.key := by
  refine ⟨fun property hproperty ↦ ?_, fun setter hsetter hother ↦ ?_, fun calls _ anyValue ↦ ?_⟩
  · obtain ⟨setter, hsetter, docLines, body, rfl⟩ := exists_setter_of_required h hproperty
    have hrequired : property.kind.isRequired = true := (List.mem_filter.mp hproperty).2
    exact ⟨_, hsetter, name_setterOf .., ret_setterOf_of_required _ _ _ _ hrequired⟩
  · obtain ⟨property, hproperty, docLines, body, rfl⟩ := exists_property_of_mem_setters h hsetter
    have hoptional : ¬ property.kind.isRequired = true := fun hrequired ↦
      hother property (List.mem_filter.mpr ⟨hproperty, hrequired⟩) (name_setterOf ..).symm
    exact ret_setterOf_of_optional _ _ _ _ _ hoptional
  · rw [argumentsAfter_eq, take_markersWhen_eq_iff]
    exact forall₂_congr fun property hproperty ↦ builder.isSetBy_iff calls hproperty

/-- A builder with a required parameter, with required fields of which one is named like the
parameter for dynamically typed values, and with an optional field. -/
def petUpdate : Builder where
  object := "Pet"
  fields :=
    [{ name := "petName", tyPath := "String", isRequired := true },
      { name := "any", tyPath := "Vec<Any>", isRequired := true, needsAny := true },
      { name := "tag", tyPath := "String" }]
  bodyRequired := true
  method := some .put
  ownParams := [{ name := "id", tyPath := "i64", required := true, location := .path }]
  needsAny := true

/-- The setters of `petUpdate`. -/
def petUpdateSetters : List Setter :=
  [⟨"id", [], "impl Into<i64>", "PetPutBuilder<crate::generics::IdExists, PetName, AnyMarker, Any>",
      transmute, ["self.inner.param_id = Some(value.into());"]⟩,
    ⟨"pet_name", [], "impl Into<String>",
      "PetPutBuilder<Id, crate::generics::PetNameExists, AnyMarker, Any>", transmute,
      ["self.inner.body.pet_name = value.into();"]⟩,
    ⟨"any", [], "impl Into<Vec<Any>>",
      "PetPutBuilder<Id, PetName, crate::generics::AnyExists, Any>", transmute,
      ["self.inner.body.any = value.into();"]⟩,
    ⟨"tag", [], "impl Into<String>", "Self", "self", ["self.inner.body.tag = Some(value.into());"]⟩]

theorem finished_iff_all_set_petUpdate :
    petUpdate.setters ⟨true, [], [], ""⟩ false = .ok petUpdateSetters ∧
      (petUpdate.argumentsAfter (petUpdateSetters.reverse ++ petUpdateSetters)).take 3 =
        (petUpdate.typeArguments .changeAll (some "Value")).take 3 ∧
      ¬ (petUpdate.argumentsAfter (petUpdateSetters.drop 1)).take 3 =
        (petUpdate.typeArguments .changeAll (some "Value")).take 3 := by
  have hsetters : petUpdate.setters ⟨true, [], [], ""⟩ false = .ok petUpdateSetters := by
    decide +kernel
  have hlength : petUpdate.markers.length = 3 := by decide
  have hfinished := (finished_iff_all_set hsetters).2.2
  rw [hlength] at hfinished
  refine ⟨hsetters, (hfinished _ (by simp) (some "Value")).mpr (by decide +kernel), ?_⟩
  rw [hfinished _ (fun setter ↦ List.mem_of_mem_drop) (some "Value")]
  decide +kernel

end TypestateBuilders.Builder
