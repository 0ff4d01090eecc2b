import TypestateBuilders.Builder.Basic
import TypestateBuilders.Json.Reader

/-!
# Settings

The settings of a generation run. Each has a default, and their values are not checked for their
kind when they are given. The two policies are checked before a generator is made
(`Settings.policies`): a value must be the name of a policy, and a list or an object is not even
compared with one.

`Settings.warnings` looks for values that are allowed but suspicious. `SettingsError` lists
everything that can be wrong with settings and with the files that they are read from.
-/

set_option autoImplicit false
set_option relaxedAutoImplicit false

namespace TypestateBuilders

/-- What is wrong with settings. -/
inductive SettingsError
  /-- A policy has a value that names no policy. -/
  | unknownPolicy (setting : String) (value : Value) (known : List String)
  /-- A policy has a value that cannot be compared with names. -/
  | policyKind (kind : String)
  /-- There is no setting of this name. -/
  | unknownSetting (name : String)
  /-- The settings of one's own cannot be gone through. -/
  | customKind (kind : String)
  /-- The settings of one's own are no pairs. -/
  | customShape
  /-- The path of helper modules is neither a text nor empty. -/
  | helpersKind (kind : String)
  /-- The derives cannot be searched. -/
  | derivesKind (kind : String)
  /-- The path of the file, or a step of it, is too long. -/
  | fileNameTooLong (path : String)
  /-- There is no such file. -/
  | fileMissing (path : String)
  /-- The file is not one of JSON, by its name. -/
  | fileNotJson (path : String)
  /-- The content of the file is no JSON. -/
  | fileInvalid (path : String) (error : Json.ReadError)
  /-- The content of the file goes beyond the limits of the reader. -/
  | fileBeyondLimits (path : String) (error : Json.ReadError)
  /-- The file is a directory. -/
  | fileIsDirectory (path : String)
  /-- The file holds a value that is no object. -/
  | fileNotObject (path : String)
  /-- The bytes of the file are not UTF-8. -/
  | fileEncoding (path : String)

namespace SettingsError

/-- Names as a list in a message. -/
def listed (names : List String) : String :=
  (Value.ofTexts names).display

/-- The text of an error without what a reader or a file system says about its cause. -/
def headline : SettingsError → String
  | unknownPolicy setting value known =>
    "Unknown " ++ setting ++ " policy " ++ value.literal ++ ", expected one of " ++ listed known
  | policyKind kind => "unhashable type: '" ++ kind ++ "'"
  | unknownSetting name => "there is no setting '" ++ name ++ "'"
  | customKind kind => "'" ++ kind ++ "' object is not iterable"
  | customShape => "the settings of one's own must be pairs"
  | helpersKind kind => "'" ++ kind ++ "' object has no attribute 'endswith'"
  | derivesKind kind => "argument of type '" ++ kind ++ "' is not iterable"
  | fileNameTooLong path => "the name is too long: " ++ path
  | fileMissing path => "Configuration file not found: " ++ path
  | fileNotJson path => "Configuration file must be JSON: " ++ path
  | fileInvalid path _ => "Invalid JSON in configuration file " ++ path
  | fileBeyondLimits path error => "the file cannot be read: " ++ path ++ ": " ++ error.message
  | fileIsDirectory path => "Failed to load configuration file " ++ path
  | fileNotObject path => "Configuration file must contain a JSON object: " ++ path
  | fileEncoding path => "the file is not UTF-8: " ++ path

/-- The whole text of an error. -/
def message : SettingsError → String
  | fileInvalid path error => (fileInvalid path error).headline ++ ": " ++ error.message
  | fileIsDirectory path =>
    (fileIsDirectory path).headline ++ ": [Errno 21] Is a directory: " ++ Text.quoted path
  | error => error.headline

/-- Whether an error is one of configuration, as against a value of a kind that cannot be used. -/
def isConfiguration : SettingsError → Bool
  | unknownPolicy .. | fileMissing .. | fileNotJson .. | fileInvalid .. | fileIsDirectory ..
  | fileNotObject .. => true
  | _ => false

end SettingsError

/-- The settings of a generation run, of whatever kind. -/
structure Settings where
  /-- The file that the source is meant for. -/
  outputFile : Value := .null
  /-- The path under which helper modules are found. -/
  helpers : Value := .text "crate::"
  /-- The traits that every record type derives. -/
  derives : Value := .ofTexts ["Debug", "Default", "Clone", "Deserialize", "Serialize"]
  /-- Whether descriptions become doc comments. -/
  addComments : Value := .bool true
  /-- Whether constructors, setters and completions are written. -/
  emitImpls : Value := .bool true
  /-- The policy for declarations that collide. -/
  fieldCollision : Value := .text "drop"
  /-- The policy for operations without an identifier. -/
  unnamedOperations : Value := .text "indexed"
  /-- The type for dynamically typed values in answers. -/
  defaultAnyValue : Value := .text "serde_json::Value"
  /-- Further settings of one's own. -/
  custom : Value := .object []
  deriving Inhabited

namespace Settings

/-- The settings by name, in order. -/
def entries (settings : Settings) : List (String × Value) :=
  [("output_file", settings.outputFile), ("helper_module_prefix", settings.helpers),
    ("derives", settings.derives), ("add_comments", settings.addComments),
    ("emit_impls", settings.emitImpls), ("field_collision", settings.fieldCollision),
    ("unnamed_operations", settings.unnamedOperations),
    ("default_any_value", settings.defaultAnyValue), ("custom", settings.custom)]

/-- The settings with one of them given by name, if there is one of this name. -/
def set? (settings : Settings) (name : String) (value : Value) : Option Settings :=
  match name with
  | "output_file" => some { settings with outputFile := value }
  | "helper_module_prefix" => some { settings with helpers := value }
  | "derives" => some { settings with derives := value }
  | "add_comments" => some { settings with addComments := value }
  | "emit_impls" => some { settings with emitImpls := value }
  | "field_collision" => some { settings with fieldCollision := value }
  | "unnamed_operations" => some { settings with unnamedOperations := value }
  | "default_any_value" => some { settings with defaultAnyValue := value }
  | "custom" => some { settings with custom := value }
  | _ => none

/-- Whether there is a setting of this name. -/
def isKnown (name : String) : Bool :=
  (({} : Settings).set? name .null).isSome

/-- The default settings with those given by name. -/
def ofMembers (members : List (String × Value)) : Except SettingsError Settings :=
  members.foldlM (fun settings member ↦
    match settings.set? member.1 member.2 with
    | some next => .ok next
    | none => .error (.unknownSetting member.1)) {}

/-- The names of the policies for colliding declarations. -/
def collisionPolicies : List String :=
  ["drop", "error"]

/-- The names of the policies for operations without an identifier. -/
def unnamedPolicies : List String :=
  ["error", "indexed"]

/-- Whether a value is one of some names; a list or an object cannot be compared with them. -/
def isOneOf (known : List String) : Value → Except SettingsError Bool
  | .text name => .ok (known.contains name)
  | .list elements => .error (.policyKind (Value.list elements).kindName)
  | .object members => .error (.policyKind (Value.object members).kindName)
  | _ => .ok false

/-- The name of a policy that a setting must give. -/
def policyName (setting : String) (known : List String) (value : Value) :
    Except SettingsError String := do
  if ← isOneOf known value then pure value.display
  else throw (.unknownPolicy setting value known)

/-- The policies that the settings name. -/
def policies (settings : Settings) : Except SettingsError (CollisionPolicy × UnnamedPolicy) := do
  let collision ← policyName "field_collision" collisionPolicies settings.fieldCollision
  let unnamed ← policyName "unnamed_operations" unnamedPolicies settings.unnamedOperations
  pure (.ofText collision, .ofText unnamed)

/-! ### Suspicious values -/

/-- Whether a text is among values that can be searched: an element of a list, a part of a text, or
the name of a member. -/
def isAmong (text : String) : Value → Except SettingsError Bool
  | .list elements => .ok (elements.any fun
    | .text element => element == text
    | _ => false)
  | .text characters => .ok (Text.cutAt text.toList characters.toList).isSome
  | .object members => .ok (members.any fun member ↦ member.1 == text)
  | value => .error (.derivesKind value.kindName)

/-- Whether the path of helper modules looks wrong: it is not empty and does not end in `::`. -/
def helpersSuspicious : Value → Except SettingsError Bool
  | .text path => .ok (path ≠ "" && !"::".toList.isSuffixOf path.toList)
  | value => if value.isTrue then .error (.helpersKind value.kindName) else .ok false

/-- What is suspicious about the settings. -/
def warnings (settings : Settings) : Except SettingsError (List String) := do
  let collisionKnown ← isOneOf collisionPolicies settings.fieldCollision
  let unnamedKnown ← isOneOf unnamedPolicies settings.unnamedOperations
  let helpersWrong ← helpersSuspicious settings.helpers
  let deserializes ← isAmong "Deserialize" settings.derives
  let serializes ← isAmong "Serialize" settings.derives
  pure <|
    (if collisionKnown then []
      else ["Invalid field_collision policy: " ++ settings.fieldCollision.display]) ++
    (if unnamedKnown then []
      else ["Invalid unnamed_operations policy: " ++ settings.unnamedOperations.display]) ++
    (if helpersWrong then
      ["helper_module_prefix should end with '::': " ++ settings.helpers.display] else []) ++
    (if deserializes && serializes then []
      else ["derives should include Deserialize and Serialize"])

end Settings

end TypestateBuilders
