import TypestateBuilders.Settings.Basic
import TypestateBuilders.Template.Context
import TypestateBuilders.Log.Basic

/-!
# Generators

A `Generator` is a target with settings whose policies have been checked. For every object it has a
row of builders: the builder of the object itself, and one for each operation that addresses it, in
the order of the paths and then of the methods (`Generator.builders`). Each operation's builder
carries the place of its path among all paths of the object.
-/

set_option autoImplicit false
set_option relaxedAutoImplicit false

namespace TypestateBuilders

/-- What a target is written as. -/
inductive Style
  /-- Rust structs with their typestate builders. -/
  | builders
  /-- A list of the names of the objects. -/
  | outline
  deriving DecidableEq, Repr

/-- What source is generated for. -/
structure Target where
  /-- The name of the language. -/
  language : String
  /-- The ending of the names of source files. -/
  fileExtension : String
  /-- What is written. -/
  style : Style
  deriving DecidableEq, Repr

/-- Rust source. -/
def Target.rust : Target :=
  ⟨"rust", ".rs", .builders⟩

/-- The templates of a target. -/
def Target.catalogue (target : Target) : Template.Catalogue :=
  match target.style with
  | .builders => Template.Name.all
  | .outline => []

/-- A target with checked settings. -/
structure Generator where
  /-- What source is generated for. -/
  target : Target
  /-- The settings. -/
  settings : Settings
  /-- What becomes of colliding declarations. -/
  collisionPolicy : CollisionPolicy
  /-- What becomes of operations without an identifier. -/
  unnamedPolicy : UnnamedPolicy

namespace Generator

/-- The generator for a target with given settings, if their policies are known. -/
def ofSettings (target : Target) (settings : Settings) : Except SettingsError Generator :=
  settings.policies.map fun (collision, unnamed) ↦ ⟨target, settings, collision, unnamed⟩

/-- The path under which helper modules are found. -/
def helpers (generator : Generator) : String :=
  generator.settings.helpers.display

/-- Whether descriptions become doc comments. -/
def addComments (generator : Generator) : Bool :=
  generator.settings.addComments.isTrue

/-- The doc comment for a description, if comments are wanted. -/
def comment (generator : Generator) (description : GivenText) : Except Failure (List String) :=
  if generator.addComments then description.docLines else .ok []

/-- The builder of an object itself. -/
def objectBuilder (generator : Generator) (object : ApiObject) : Builder where
  object := object.name
  fields := object.fields
  bodyRequired := true
  helpers := generator.helpers
  needsAny := object.needsAny
  collisionPolicy := generator.collisionPolicy
  unnamedPolicy := generator.unnamedPolicy

/-- Whether several paths of an object have operations. -/
def severalPaths (object : ApiObject) : Bool :=
  1 < object.paths.countP fun path ↦ !path.2.operations.isEmpty

/-- The builder of an operation at the path with number `index`. -/
def operationBuilder (generator : Generator) (object : ApiObject) (index : Nat) (relPath : String)
    (shared : List Parameter) (method : HttpMethod) (operation : Operation) : Builder :=
  { generator.objectBuilder object with
    index := .int index
    description := operation.description
    bodyRequired := operation.bodyRequired
    operationId := operation.id
    deprecated := .bool operation.deprecated
    method := some method
    relPath := .text relPath
    isListOperation := operation.listable
    response := operation.response
    decoding := operation.decoding
    severalPaths := severalPaths object
    sharedParams := shared
    ownParams := operation.params }

/-- The builders of the operations at one path. -/
def pathBuilders (generator : Generator) (object : ApiObject)
    (numbered : (String × PathOperations) × Nat) : List Builder :=
  numbered.1.2.sorted.map fun (method, operation) ↦
    generator.operationBuilder object numbered.2 numbered.1.1 numbered.1.2.params method operation

/-- The builders of an object: its own, and those of its operations. -/
def builders (generator : Generator) (object : ApiObject) : List Builder :=
  generator.objectBuilder object ::
    object.sortedPaths.zipIdx.flatMap (generator.pathBuilders object)

end Generator

end TypestateBuilders
