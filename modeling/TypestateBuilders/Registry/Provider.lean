import TypestateBuilders.Registry.Basic
import TypestateBuilders.Generator.Run
import TypestateBuilders.Settings.Layers

/-!
# Providers of generators

What a registry holds for a language: a `Provider`, which makes generators for a target from
settings. A provider may lack what is needed to make a generator; it can be registered, but making a
generator with it fails. Settings come as an object, as the name of a file, or ready made
(`SettingsSource`).

`Registry.create` makes the generator that a name leads to, and tells why it could not
(`CreationError`). The registry that a program starts with knows Rust (`Registry.initial`).
-/

set_option autoImplicit false
set_option relaxedAutoImplicit false

namespace TypestateBuilders

/-- What makes generators for a target. -/
structure Provider where
  /-- The name of the provider. -/
  name : String
  /-- Whether it is meant to make generators. -/
  isGenerator : Bool
  /-- The target of the generators; without one none can be made. -/
  target : Option Target
  /-- Where the provider is found, if it belongs to the library. -/
  home : Option String
  deriving DecidableEq, Repr

namespace Provider

/-- The provider for Rust. -/
def rust : Provider :=
  ⟨"RustGenerator", true, some .rust, some "typestate_codegen.languages.rust.generator"⟩

/-- A provider for Rust under another name of the language. -/
def shout : Provider :=
  ⟨"ShoutGenerator", true, some { Target.rust with language := "shout" }, none⟩

/-- A provider for outlines. -/
def plain : Provider :=
  ⟨"PlainGenerator", true, some ⟨"plain", ".txt", .outline⟩, none⟩

/-- A provider that lacks its target. -/
def incomplete : Provider :=
  ⟨"CodeGenerator", true, none, none⟩

/-- Something that is no provider of generators at all. -/
def foreign : Provider :=
  ⟨"NotAGenerator", false, none, none⟩

/-- All providers. -/
def all : List Provider :=
  [rust, shout, plain, incomplete, foreign]

/-- The provider with a name. -/
def ofName? (name : String) : Option Provider :=
  all.find? fun provider ↦ provider.name == name

end Provider

/-- Where the settings of a generator come from. -/
inductive SettingsSource
  /-- The members of an object. -/
  | members (given : List (String × Value))
  /-- The name of a file. -/
  | file (name : String)
  /-- Settings that are ready made. -/
  | ready (settings : Settings)
  /-- Something that settings do not come from. -/
  | other (kind : String)

/-- The source that a value describes: an object or nothing, or the name of a file. -/
def SettingsSource.ofValue : Value → SettingsSource
  | .null => .members []
  | .object given => .members given
  | .text name => .file name
  | value => .other value.kindName

/-- Why a generator is not made. -/
inductive CreationError
  /-- No language has the name. -/
  | registry (error : RegistryError)
  /-- The settings come from something that they do not come from. -/
  | settingsKind (kind : String)
  /-- The settings are wrong. -/
  | settings (language : String) (error : SettingsError)
  /-- The provider lacks its target. -/
  | incomplete (language : String)

namespace CreationError

/-- The text of an error, less what is said of a cause that is not of the library's own kinds. -/
def headline : CreationError → String
  | .registry error => error.message
  | .settingsKind kind => "Invalid config type: <class '" ++ kind ++ "'>"
  | .settings language error =>
    "Failed to create " ++ language ++ " generator" ++
      if error.isConfiguration then ": " ++ error.message else ""
  | .incomplete language => "Failed to create " ++ language ++ " generator"

end CreationError

/-- What is known about a language. -/
structure LanguageInfo where
  /-- The name of the language. -/
  name : String
  /-- The name of its provider. -/
  provider : String
  /-- The ending of the names of source files. -/
  fileExtension : String
  /-- Its aliases, in order. -/
  aliases : List String
  /-- Where the provider is found, if it belongs to the library. -/
  home : Option String
  deriving DecidableEq, Repr

namespace Registry

/-- The registry that a program starts with. -/
def initial : Registry Provider :=
  (({} : Registry Provider).register Provider.isGenerator "rust" .rust ["rs"] false).1

/-- The settings from a source, for the language with a primary name. -/
def settingsFrom (store : Files.Store) (primary : String) :
    SettingsSource → Logged CreationError Settings
  | .members given => (Settings.load store primary (.object given)).mapFailure (.settings primary)
  | .file name => (Settings.load store primary .null (some name)).mapFailure (.settings primary)
  | .ready settings => pure settings
  | .other kind => liftM (Except.error (.settingsKind kind) : Except CreationError Settings)

/-- The generator that a provider makes from settings. -/
def make (language : String) (provider : Provider) (settings : Settings) :
    Except CreationError Generator :=
  match provider.target with
  | none => .error (.incomplete language)
  | some target => (Generator.ofSettings target settings).mapError (.settings language)

/-- The provider and the generator that a name leads to. -/
def create (registry : Registry Provider) (store : Files.Store) (language : String)
    (source : SettingsSource) : Logged CreationError (Provider × Generator) := do
  let (primary, provider) ← liftM ((registry.resolve language).mapError CreationError.registry)
  let settings ← (settingsFrom store primary source).mapFailure fun
    | .settings _ error => .settings language error
    | error => error
  let generator ← liftM (make language provider settings)
  pure (provider, generator)

/-- What is known about the language that a name leads to, or nothing when its provider lacks its
target. -/
def info (registry : Registry Provider) (language : String) :
    Except RegistryError (Option LanguageInfo) := do
  let (primary, provider) ← registry.resolve language
  pure <| provider.target.map fun target ↦
    { name := target.language
      provider := provider.name
      fileExtension := target.fileExtension
      aliases := registry.aliasesOf primary
      home := provider.home }

end Registry

end TypestateBuilders
