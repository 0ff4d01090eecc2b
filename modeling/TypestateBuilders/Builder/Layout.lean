import TypestateBuilders.Builder.Marker

/-!
# Storage layout

A setter that changes a builder's markers reinterprets the builder as the new type instead of
copying its data. That is sound only when the layout cannot depend on the markers. Markers live in
slots without size, so a builder that holds nothing but its body can be reinterpreted as it is. Once
parameters stand beside the body and the markers, the data moves into a container of its own, which
no marker reaches, and the builder is a transparent wrapper around it (`Builder.needsContainer`).

`Builder.layout` lists the slots of the builder struct and those of its container.
-/

set_option autoImplicit false
set_option relaxedAutoImplicit false

namespace TypestateBuilders

/-- The type of slots without size. -/
def phantomData : String :=
  "core::marker::PhantomData"

/-- What initialises a slot that holds data. -/
def defaultInit : String :=
  "Default::default()"

/-- A field of a generated struct. -/
structure Slot where
  /-- The name of the slot. -/
  name : String
  /-- Its type. -/
  ty : String
  /-- The expression that initialises it in constructors. -/
  init : String
  deriving DecidableEq, Repr

/-- The slots of a builder struct and of its container. -/
structure Layout where
  /-- Whether the data is split off into a container. -/
  needsContainer : Bool
  /-- The slots of the builder struct. -/
  outer : List Slot
  /-- The slots of the container. -/
  container : List Slot
  /-- The angle brackets behind the name of the container. -/
  containerGenerics : String := ""
  deriving DecidableEq, Repr

namespace Layout

/-- Whether the builder struct has no slots. -/
def isUnit (layout : Layout) : Bool :=
  layout.outer.isEmpty

/-- The way from a builder to the slots that hold its data. -/
def dataPath (layout : Layout) : String :=
  if layout.needsContainer then "inner." else ""

end Layout

namespace Builder

/-- Whether the builder keeps a parameter or tracks a required property. -/
def hasStoredProperty (builder : Builder) : Bool :=
  builder.properties.any fun property ↦ property.kind.isParameter || property.kind.isRequired

/-- Whether the data must be split off: some parameter is required, or there are parameters beside a
body with required fields. -/
def needsContainer (builder : Builder) : Bool :=
  builder.parameters.any Parameter.required ||
    (builder.bodyRequired && builder.fields.any ObjectField.isRequired &&
      !builder.parameters.isEmpty)

/-- The slot of the container in the builder struct. The container is generic only through the
body. -/
def innerSlot (builder : Builder) : Slot :=
  ⟨"inner", builder.containerName ++ anyGeneric (builder.needsAny && builder.bodyRequired),
    defaultInit⟩

/-- The slot of the body. Its type is addressed from the module, since a type parameter may have the
name of the object. -/
def bodySlots (builder : Builder) : List Slot :=
  if builder.bodyRequired then
    [⟨"body", "self::" ++ builder.object ++ anyGeneric builder.needsAny, defaultInit⟩]
  else []

/-- The slot that keeps a parameter. -/
def valueSlots (builder : Builder) (property : Property) : Except TypeFault (List Slot) :=
  if property.kind.isParameter then
    (paramType builder.helpers property.ty property.delimiting property.needsFile).map
      fun ty ↦ [⟨property.valueSlot, "Option<" ++ ty ++ ">", "None"⟩]
  else .ok []

/-- The slot that carries the marker of a required property. -/
def markerSlots (builder : Builder) (property : Property) : List Slot :=
  if property.kind.isRequired then
    [⟨property.markerSlot, phantomData ++ angled [(builder.marker property.name).generic],
      phantomData⟩]
  else []

/-- The slot that uses the dynamically typed parameter when no body does. -/
def anySlots (builder : Builder) : List Slot :=
  if builder.needsAny && !builder.bodyRequired then
    [⟨"_any", phantomData ++ angled [anyParameter], phantomData⟩]
  else []

/-- The slots of properties whose value slots are known. -/
def layoutOf (builder : Builder) (stored : List (Property × List Slot)) : Layout :=
  let values := stored.flatMap Prod.snd
  if builder.needsContainer then
    { needsContainer := true
      outer := builder.innerSlot :: stored.flatMap (fun entry ↦ builder.markerSlots entry.1) ++
        builder.anySlots
      container := builder.bodySlots ++ values
      containerGenerics := anyGeneric (builder.needsAny && builder.bodyRequired) }
  else
    { needsContainer := false
      outer := builder.bodySlots ++
        stored.flatMap (fun entry ↦ entry.2 ++ builder.markerSlots entry.1) ++ builder.anySlots
      container := [] }

/-- The layout of the builder, once its declarations are accepted. -/
def layout (builder : Builder) : Except Failure Layout := do
  builder.accepted ()
  let stored ← (builder.properties.mapM fun property ↦
    (builder.valueSlots property).map fun slots ↦ (property, slots)).mapError Failure.type
  pure (builder.layoutOf stored)

end Builder

end TypestateBuilders
