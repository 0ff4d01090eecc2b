import TypestateBuilders.Generator.Creation
import TypestateBuilders.Log.Console
import TypestateBuilders.Registry.Run
import TypestateBuilders.Proofs.Occurrence
import TypestateBuilders.Proofs.Unification
import TypestateBuilders.Proofs.Markers
import TypestateBuilders.Proofs.Outcome
import TypestateBuilders.Proofs.Setters
import TypestateBuilders.Proofs.Typestate
import TypestateBuilders.Proofs.Reinterpretation
import TypestateBuilders.Proofs.CodeLine
import TypestateBuilders.Proofs.Separation
import TypestateBuilders.Proofs.Undocumented
import TypestateBuilders.Proofs.Documentation
import TypestateBuilders.Proofs.Builders
import TypestateBuilders.Proofs.Refusal
import TypestateBuilders.Proofs.Strictness
import TypestateBuilders.Proofs.TypeParameters
import TypestateBuilders.Proofs.Assignments
import TypestateBuilders.Proofs.MarkerModule
import TypestateBuilders.Proofs.RequiredFields
import TypestateBuilders.Proofs.Storage
import TypestateBuilders.Proofs.InsertionOrder
import TypestateBuilders.Proofs.FieldOwners
import TypestateBuilders.Proofs.NestedBuilders
import TypestateBuilders.Proofs.Registration
import TypestateBuilders.Proofs.SlotNames
import TypestateBuilders.Proofs.SnakeCase
import TypestateBuilders.Proofs.PathTemplates
import TypestateBuilders.Proofs.MergedFields
import TypestateBuilders.Proofs.PathSlots
import TypestateBuilders.Proofs.TypeReading
import TypestateBuilders.Proofs.LeafRenderings
import TypestateBuilders.Proofs.NestedTypes
import TypestateBuilders.Proofs.ParameterTypes
import TypestateBuilders.Proofs.UsedParameters
import TypestateBuilders.Proofs.Mentions
import TypestateBuilders.Proofs.ObjectStruct
import TypestateBuilders.Proofs.StringLiteral
import TypestateBuilders.Proofs.WireNames
import TypestateBuilders.Proofs.Capture
import TypestateBuilders.Proofs.UnitBuilders
import TypestateBuilders.Proofs.BuilderStruct
import TypestateBuilders.Proofs.StructNames
import TypestateBuilders.Proofs.ConstructorNames
import TypestateBuilders.Proofs.Unregistration
import TypestateBuilders.Proofs.JsonMembers
import TypestateBuilders.Proofs.NamedTables
import TypestateBuilders.Proofs.SettingsLayers
import TypestateBuilders.Proofs.Trimming
import TypestateBuilders.Proofs.FinalForm
import TypestateBuilders.Proofs.DocLines
import TypestateBuilders.Proofs.BracketRuns
import TypestateBuilders.Proofs.WordPattern
import TypestateBuilders.Proofs.ReservedNames
import TypestateBuilders.Proofs.Identifiers
import TypestateBuilders.Proofs.RenamedParameters
import TypestateBuilders.Proofs.NameMemory
