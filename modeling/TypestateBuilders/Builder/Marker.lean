import TypestateBuilders.Builder.Unification

/-!
# Typestate markers

Every required property of a builder has one type parameter. It is instantiated with the marker
`Missing…` by the constructor and with `…Exists` by the property's setter, and what finishes the
build is implemented for the builder whose markers all say that the property exists. So a build with
a property missing does not compile.

`Builder.markers` lists the markers in the order of the properties, and `Builder.typeArguments` the
arguments of the builder type: in a declaration the names of its parameters, after a setter the same
with one marker switched, and for a constructor or a finished build the markers all missing or all
set (`ArgumentMode`). A builder that is generic over dynamically typed values has one more argument
at the end. A marker that would share the name of that parameter gets another one (`freshName`).
-/

set_option autoImplicit false
set_option relaxedAutoImplicit false

namespace TypestateBuilders

open Naming

/-- What the type arguments of a builder say about its required properties. -/
inductive ArgumentMode
  /-- The names of the type parameters, to declare the builder. -/
  | generic
  /-- One property is set, for the type that its setter returns. -/
  | changeOne (name : String)
  /-- Every property is set, for the finished build. -/
  | changeAll
  /-- No property is set, for the constructor. -/
  | replaceAll
  deriving DecidableEq, Repr

/-- What is put behind a type parameter whose name is taken. -/
def markerEnding : String :=
  "Marker"

/-- The first of `name`, `nameMarker`, `nameMarkerMarker` and so on that is not taken. -/
def freshName (taken : List String) (name : String) : String :=
  if name ∈ taken then freshName taken (name ++ markerEnding) else name
termination_by (taken.filter fun other ↦ name.length ≤ other.length).length
decreasing_by
  rename_i htaken
  have hlonger : (name ++ markerEnding).length = name.length + 6 := by
    rw [String.length_append]
    rfl
  have hsub : (taken.filter fun other ↦ (name ++ markerEnding).length ≤ other.length) =
      (taken.filter fun other ↦ name.length ≤ other.length).filter
        fun other ↦ (name ++ markerEnding).length ≤ other.length := by
    rw [List.filter_filter]
    refine List.filter_congr fun other _ ↦ ?_
    have himplies : (name ++ markerEnding).length ≤ other.length → name.length ≤ other.length := by
      omega
    simpa using himplies
  rw [hsub]
  refine List.length_filter_lt_length_iff_exists.mpr ⟨name, ?_, ?_⟩
  · simpa using htaken
  · simp [hlonger]

/-- The marker types of one required property. -/
structure Marker where
  /-- The name of the property. -/
  propertyName : String
  /-- The name that the marker types are formed from. -/
  param : String
  /-- The name of the type parameter, if it is not `param`. -/
  typeParam : Option String := none
  deriving DecidableEq, Repr

namespace Marker

/-- The name of the type parameter. -/
def generic (marker : Marker) : String :=
  marker.typeParam.getD marker.param

/-- The name of the marker type for the property before it is set. -/
def missing (marker : Marker) : String :=
  missingName marker.param

/-- The name of the marker type for the property once it is set. -/
def present (marker : Marker) : String :=
  existsName marker.param

end Marker

namespace Builder

/-- The names that type parameters of the builder have of their own. -/
def takenParams (builder : Builder) : List String :=
  anyParameter :: builder.requiredProperties.map fun property ↦ markerIdent property.name

/-- The marker of the property with a given name. -/
def marker (builder : Builder) (name : String) : Marker where
  propertyName := name
  param := markerIdent name
  typeParam :=
    if builder.needsAny && markerIdent name = anyParameter then
      some (freshName builder.takenParams (anyParameter ++ markerEnding))
    else none

/-- The markers of the required properties, in order. -/
def markers (builder : Builder) : List Marker :=
  builder.requiredProperties.map fun property ↦ builder.marker property.name

/-- What stands for a marker among the type arguments. -/
def markerArgument (builder : Builder) (mode : ArgumentMode) (marker : Marker) : String :=
  match mode with
  | .generic => marker.generic
  | .changeOne name =>
    if marker.propertyName = name then genericsPath builder.helpers ++ marker.present
    else marker.generic
  | .changeAll => genericsPath builder.helpers ++ marker.present
  | .replaceAll => genericsPath builder.helpers ++ marker.missing

/-- The value of the dynamically typed slot: `Any` itself unless a nonempty text is given. -/
def anyArgument (anyValue : Option String) : String :=
  (anyValue.filter (· ≠ "")).getD anyParameter

/-- The arguments of the builder type for some markers. The dynamically typed slot comes last and
does not depend on the mode. -/
def argumentsFor (builder : Builder) (markers : List Marker) (mode : ArgumentMode)
    (anyValue : Option String) : List String :=
  markers.map (builder.markerArgument mode) ++
    if builder.needsAny then [anyArgument anyValue] else []

/-- The arguments of the builder type. -/
def typeArguments (builder : Builder) (mode : ArgumentMode) (anyValue : Option String) :
    List String :=
  builder.argumentsFor builder.markers mode anyValue

/-- Arguments between angle brackets; without arguments there are none. -/
def bracketed : List String → String
  | [] => ""
  | arguments => angled arguments

/-- The arguments of the builder type between angle brackets; without arguments there are none. -/
def generics (builder : Builder) (mode : ArgumentMode) (anyValue : Option String := none) :
    String :=
  bracketed (builder.typeArguments mode anyValue)

/-- The builder type with its arguments. -/
def type (builder : Builder) (mode : ArgumentMode) (anyValue : Option String := none) : String :=
  builder.name ++ builder.generics mode anyValue

end Builder

end TypestateBuilders
