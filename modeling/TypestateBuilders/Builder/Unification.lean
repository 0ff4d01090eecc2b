import TypestateBuilders.Builder.Basic
import TypestateBuilders.Log.Basic

/-!
# Unification

The declarations of a builder are its parameters, those of the path before those of the operation,
and then the fields of its object. A parameter of the operation replaces one of the path that has
the same name, at its place. Declarations whose names give the same identifier cannot stand side by
side: a field of the same type as an earlier parameter goes along with it, and any other later
declaration collides (`Unification.add`).

`Builder.unification` finds what is kept and what collides. A lenient policy drops what collides; a
strict one refuses the builder (`Builder.accepted`). Refused is also a builder with a field of which
it is not known what the objects in it must have. The declarations are looked at one after the
other, so what collides behind such a field is no longer found out (`Builder.examined`).
-/

set_option autoImplicit false
set_option relaxedAutoImplicit false

namespace TypestateBuilders

open Naming

/-- What is kept of the declarations of a builder, and which pairs collide. -/
structure Unification where
  /-- The declarations that are kept, each under an identifier of its own. -/
  kept : List Property := []
  /-- The kept and the dropped one of each pair that collides. -/
  collisions : List (Property × Property) := []
  deriving DecidableEq, Repr

namespace Unification

/-- Whether a declaration goes along with an earlier one: a field with a parameter of its type. -/
def merges (kept candidate : Property) : Bool :=
  kept.kind.isParameter && candidate.kind.isField && kept.ty == candidate.ty

/-- The declarations with those of one identifier marked as overridden. -/
def markOverridden (key : String) (properties : List Property) : List Property :=
  properties.map fun property ↦
    if property.key = key then { property with overridden := true } else property

/-- One more declaration. -/
def add (unified : Unification) (candidate : Property) : Unification :=
  let key := candidate.key
  match unified.kept.find? fun property ↦ property.key == key with
  | none => { unified with kept := unified.kept ++ [candidate] }
  | some kept =>
    if merges kept candidate then
      { unified with kept := markOverridden key unified.kept }
    else { unified with collisions := unified.collisions ++ [(kept, candidate)] }

end Unification

namespace Builder

/-- All parameters, those of the path before those of the operation. -/
def parameters (builder : Builder) : List Parameter :=
  builder.sharedParams ++ builder.ownParams

/-- The parameters as properties, one per name: the first declaration of a name fixes its place and
the last one its content. -/
def parameterProperties (builder : Builder) : List Property :=
  (Keyed.ofList (builder.parameters.map fun parameter ↦
    (parameter.name, Property.ofParameter parameter))).map Prod.snd

/-- All declarations, in the order in which they are unified. -/
def candidates (builder : Builder) : List Property :=
  builder.parameterProperties ++ builder.fields.map (Property.ofField builder.bodyRequired)

/-- What is kept of the declarations and which of them collide. -/
def unification (builder : Builder) : Unification :=
  builder.candidates.foldl Unification.add {}

/-- The properties of a builder, with identifiers of their own. -/
def properties (builder : Builder) : List Property :=
  builder.unification.kept

/-- The declarations that could neither be kept nor merged, with those they lost to. -/
def collisions (builder : Builder) : List (Property × Property) :=
  builder.unification.collisions

/-- The properties that carry a marker. -/
def requiredProperties (builder : Builder) : List Property :=
  builder.properties.filter fun property ↦ property.kind.isRequired

/-- The builder with only those fields that stand in front of the first one with unknown children:
these are looked at before it is refused. -/
def examined (builder : Builder) : Builder :=
  { builder with fields := builder.fields.takeWhile ObjectField.hasKnownChildren }

/-- Why a builder is refused: a strict policy does not let two declarations collide, and the
children of all fields must be known. -/
def refusal? (builder : Builder) : Option Failure :=
  match builder.collisionPolicy, builder.examined.collisions with
  | .refuse, (kept, dropped) :: _ => some (.collision builder.name kept dropped)
  | _, _ =>
    (builder.fields.find? fun field ↦ !field.hasKnownChildren).map fun field ↦
      .unknownChildren field.name

/-- What is derived from the properties of a builder, unless they are refused. -/
def accepted {α : Type} (builder : Builder) (derived : α) : Except Failure α :=
  match builder.refusal? with
  | some failure => .error failure
  | none => .ok derived

/-- All fields of a builder are looked at when their children are known. -/
theorem examined_of_known {builder : Builder}
    (h : ∀ field ∈ builder.fields, field.hasKnownChildren = true) : builder.examined = builder := by
  have hall : ∀ fields : List ObjectField, (∀ field ∈ fields, field.hasKnownChildren = true) →
      fields.takeWhile ObjectField.hasKnownChildren = fields := by
    intro fields hfields
    induction fields with
    | nil => rfl
    | cons field rest ih =>
      rw [List.takeWhile_cons_of_pos (hfields field (List.mem_cons_self ..)),
        ih fun other hother ↦ hfields other (List.mem_cons_of_mem _ hother)]
  rw [examined, hall builder.fields h]

/-- A lenient policy refuses no builder whose fields have known children. -/
theorem accepted_of_drop {α : Type} {builder : Builder} (h : builder.collisionPolicy = .drop)
    (hknown : ∀ field ∈ builder.fields, field.hasKnownChildren = true) (derived : α) :
    builder.accepted derived = .ok derived := by
  have hfind : (builder.fields.find? fun field ↦ !field.hasKnownChildren) = none :=
    List.find?_eq_none.mpr fun field hfield ↦ by simp [hknown field hfield]
  simp [accepted, refusal?, h, hfind]

/-! ### Reports -/

/-- The names of parameters that replace an earlier declaration, given the names seen so far. -/
def replacements (seen : List String) : List Parameter → List String
  | [] => []
  | parameter :: rest =>
    if parameter.name ∈ seen then parameter.name :: replacements seen rest
    else replacements (parameter.name :: seen) rest

/-- What unification reports: the parameters that are replaced, and then the collisions that are
found out, unless they are refused. -/
def unificationReport (builder : Builder) : List Log.Entry :=
  (replacements [] builder.parameters).map (fun name ↦
    ⟨.debug, "Parameter " ++ Text.quoted name ++ " of " ++ builder.name ++
      " overrides an earlier declaration"⟩) ++
  match builder.collisionPolicy with
  | .refuse => []
  | .drop => builder.examined.collisions.map fun (kept, dropped) ↦
    ⟨.debug, builder.name ++ ": " ++ kept.describeCollision dropped⟩

/-- What naming the constructor reports: that the method had to name it where several paths have
operations. -/
def constructorReport (builder : Builder) : List Log.Entry :=
  match builder.namingMethod?, builder.severalPaths, builder.unnamedPolicy with
  | some method, true, .indexed =>
    [⟨.debug, "No operation ID for " ++ method.verb ++ " " ++ builder.relPath.display ++
      " on " ++ builder.object ++ "; using constructor name " ++
      Text.quoted (builder.methodName method)⟩]
  | _, _, _ => []

/-- Naming the constructor, with its report. -/
def nameConstructor (builder : Builder) : Logged Failure (Option String) := do
  Logged.report builder.constructorReport
  builder.constructorName

theorem outcome_nameConstructor (builder : Builder) :
    builder.nameConstructor.outcome = builder.constructorName := rfl

/-- Unifying the declarations, with its report. -/
def unify (builder : Builder) : Logged Failure Unit := do
  Logged.report builder.unificationReport
  builder.accepted ()

theorem outcome_unify (builder : Builder) : builder.unify.outcome = builder.accepted () := rfl

end Builder

end TypestateBuilders
