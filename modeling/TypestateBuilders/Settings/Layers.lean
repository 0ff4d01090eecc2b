import TypestateBuilders.Settings.Basic
import TypestateBuilders.Settings.Named
import TypestateBuilders.Files.Store
import TypestateBuilders.Log.Basic

/-!
# Layers of settings

Settings come in layers: the defaults of the target language, a file, and what the caller gives,
each over the one before (`Settings.load`). A name that is no setting goes to the settings of one's
own, `custom`, on top of what is there (`Settings.ofLayers`).
-/

set_option autoImplicit false
set_option relaxedAutoImplicit false

namespace TypestateBuilders.Settings

/-! ### Settings of one's own -/

/-- The name and the content of a member that an element of a list describes. A list or an object is
no name. -/
def pairOf (element : Value) : Except SettingsError (Value × Value) :=
  match element.elements? with
  | none => .error (.customKind element.kindName)
  | some [.list elements, _] => .error (.policyKind (Value.list elements).kindName)
  | some [.object members, _] => .error (.policyKind (Value.object members).kindName)
  | some [name, content] => .ok (name, content)
  | some _ => .error .customShape

/-- The members that a value describes: those of an object, or pairs in a list. -/
def membersOf (value : Value) : Except SettingsError Named :=
  match value with
  | .object members => .ok (.ofObject members)
  | value =>
    match value.elements? with
    | none => .error (.customKind value.kindName)
    | some elements => (elements.mapM pairOf).map Named.ofPairs

/-- The members that a caller gives by a value; a value that is false gives none. -/
def givenMembers (given : Value) : Except SettingsError Named :=
  if given.isTrue then membersOf given else .ok []

/-! ### Layers -/

/-- The defaults of a language that has any of its own. -/
def languageDefaults (language : String) : List (String × Value) :=
  if language = "rust" then
    [("helper_module_prefix", .text "crate::"), ("add_comments", .bool true),
      ("emit_impls", .bool true), ("field_collision", .text "drop"),
      ("unnamed_operations", .text "indexed"), ("default_any_value", .text "serde_json::Value")]
  else []

/-- The languages that have defaults of their own. -/
def languages : List String :=
  ["rust"]

/-- Whether a name is that of a setting, which only a text can be. -/
def isSetting : NameKey → Bool
  | .text name => isKnown name
  | _ => false

/-- Settings from members of whatever name: those that are settings, and `custom` with all others on
top of it. Without others, `custom` stays as it is. -/
def ofMixed (members : Named) : Except SettingsError Settings := do
  let (known, others) := members.partition fun member ↦ isSetting member.1
  if others.isEmpty then ofMembers (Named.entries known)
  else
    let own ← membersOf ((Named.content? (.text "custom") known).getD (.object []))
    ofMembers (Keyed.put "custom" (.object (own.putAll others).entries) (Named.entries known))

/-- The settings of a language with those of a file and those that the caller gives on top. -/
def ofLayers (language : String) (file : List (String × Value)) (given : Named) :
    Except SettingsError Settings := do
  let settings ← ofMixed (.putAll (.ofObject (Keyed.putAll (languageDefaults language) file)) given)
  let _ ← settings.policies
  pure settings

/-! ### Files -/

/-- The members of the object that a file holds. -/
def readFile (store : Files.Store) (path : Files.Path) :
    Except SettingsError (List (String × Value)) :=
  match store.find? path with
  | .nothing => .error (.fileMissing path.text)
  | .tooLong => .error (.fileNameTooLong path.text)
  | .found entry =>
    if !path.isJson then .error (.fileNotJson path.text)
    else
      match entry with
      | .directory => .error (.fileIsDirectory path.text)
      | .file content =>
        match Files.characters? content with
        | none => .error (.fileEncoding path.text)
        | some characters =>
          match Json.read characters with
          | .error error =>
            .error <| if error.problem.isLimit then .fileBeyondLimits path.text error
              else .fileInvalid path.text error
          | .ok (.object members) => .ok members
          | .ok _ => .error (.fileNotObject path.text)

/-- The members of the object that a file holds, with a report of its path. -/
def loadFile (store : Files.Store) (file : String) : Logged SettingsError (List (String × Value)) :=
  do
    let path := Files.Path.ofText file
    let members ← liftM (readFile store path)
    Logged.report [⟨.debug, "Loaded configuration from " ++ path.text⟩]
    pure members

/-- The settings of a language, with those of a file and those that the caller gives. An empty file
name counts as none. The file is read before what the caller gives is looked at. -/
def load (store : Files.Store) (language : String) (given : Value := .null)
    (file : Option String := none) : Logged SettingsError Settings := do
  let fromFile ← match file.filter (· ≠ "") with
    | some name => loadFile store name
    | none => pure []
  let fromCaller ← liftM (givenMembers given)
  ofLayers language fromFile fromCaller

end TypestateBuilders.Settings
