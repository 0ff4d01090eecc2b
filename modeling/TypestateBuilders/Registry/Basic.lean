import TypestateBuilders.Keyed
import TypestateBuilders.Text.Lowercase
import TypestateBuilders.Text.Order
import TypestateBuilders.Text.Quoted

/-!
# Registries

A `Registry` finds providers by the name of a language, in whatever case. A language has one primary
name and any number of aliases. Registering fails when the provider is no generator, or when an
alias belongs to another language already; what was registered before the failing alias stays
(`Registry.register`). A language that is registered already is left alone unless it is to be
replaced. Unregistering takes a language away together with its aliases.

A name is looked up in two steps. It leads to a primary name, its own or that of an alias
(`Registry.primary?`), and under that name stands the provider (`Registry.resolve`). An alias that
led to a language without a provider would make the second step fail.
-/

set_option autoImplicit false
set_option relaxedAutoImplicit false

namespace TypestateBuilders

/-- Providers by the primary names of languages, and primary names by aliases. -/
structure Registry (κ : Type) where
  /-- The providers by primary name. -/
  providers : List (String × κ) := []
  /-- The primary names by alias. -/
  aliases : List (String × String) := []
  deriving DecidableEq, Repr

/-- Why a registry refuses, or fails to answer. -/
inductive RegistryError
  /-- The provider makes no generators. -/
  | notAGenerator
  /-- An alias is the primary name of a language. -/
  | aliasIsPrimary (name : String)
  /-- An alias belongs to another language. -/
  | aliasTaken (name primary : String)
  /-- No language has this name. -/
  | unknownLanguage (language : String) (available : List String)
  /-- A name leads to a primary name under which no provider stands. -/
  | noProvider (primary : String)
  deriving DecidableEq, Repr

/-- What is said of a refusal. -/
def RegistryError.message : RegistryError → String
  | .notAGenerator => "Generator class must inherit from CodeGenerator"
  | .aliasIsPrimary name => "Alias '" ++ name ++ "' conflicts with existing primary language"
  | .aliasTaken name primary => "Alias '" ++ name ++ "' already points to '" ++ primary ++ "'"
  | .unknownLanguage language available =>
    "No generator registered for language: " ++ language ++ ". Available: " ++
      ", ".intercalate available
  | .noProvider primary => Text.quoted primary

namespace Registry

variable {κ : Type}

/-- What keeps a name from being an alias of the language with a primary name: it is a primary name,
or it is an alias of another language. -/
def aliasConflict? (registry : Registry κ) (primary name : String) : Option RegistryError :=
  if (Keyed.get? (Text.lowercase name) registry.providers).isSome then some (.aliasIsPrimary name)
  else
    match Keyed.get? (Text.lowercase name) registry.aliases with
    | some other => if other = primary then none else some (.aliasTaken name other)
    | none => none

/-- One more alias for the language with a primary name. An alias that is the primary name itself is
passed over, and conflicts do not matter when aliases may be replaced. -/
def addAlias (registry : Registry κ) (primary : String) (replace : Bool) (name : String) :
    Except RegistryError (Registry κ) :=
  if Text.lowercase name = primary then .ok registry
  else
    match if replace then none else registry.aliasConflict? primary name with
    | some error => .error error
    | none =>
      .ok { registry with aliases := Keyed.put (Text.lowercase name) primary registry.aliases }

/-- Several aliases, up to the first that is refused. -/
def addAliases (registry : Registry κ) (primary : String) (replace : Bool) :
    List String → Registry κ × Except RegistryError Unit
  | [] => (registry, .ok ())
  | name :: rest =>
    match registry.addAlias primary replace name with
    | .ok next => next.addAliases primary replace rest
    | .error error => (registry, .error error)

/-- The registry with a provider under a primary name. -/
def withProvider (registry : Registry κ) (primary : String) (provider : κ) : Registry κ :=
  { registry with providers := Keyed.put primary provider registry.providers }

/-- The registry with a provider for a language, and whether it was accepted as a whole. -/
def register (registry : Registry κ) (isGenerator : κ → Bool) (language : String) (provider : κ)
    (aliases : List String) (replace : Bool) : Registry κ × Except RegistryError Unit :=
  if !isGenerator provider then (registry, .error .notAGenerator)
  else
    let key := Text.lowercase language
    if (Keyed.get? key registry.providers).isSome && !replace then (registry, .ok ())
    else (registry.withProvider key provider).addAliases key replace aliases

/-- The registry without a language and its aliases. -/
def unregister (registry : Registry κ) (language : String) : Registry κ where
  providers := Keyed.erase (Text.lowercase language) registry.providers
  aliases := registry.aliases.filter fun entry ↦ entry.2 ≠ Text.lowercase language

/-- The primary names of all languages, in order. -/
def languages (registry : Registry κ) : List String :=
  Text.inOrder (Keyed.keys registry.providers)

/-- The aliases of the language with a primary name, in order. -/
def aliasesOf (registry : Registry κ) (language : String) : List String :=
  let entries := registry.aliases.filter fun entry ↦ entry.2 = Text.lowercase language
  Text.inOrder (entries.map Prod.fst)

/-- The primary name that a name leads to, if any. -/
def primary? (registry : Registry κ) (language : String) : Option String :=
  let key := Text.lowercase language
  if (Keyed.get? key registry.providers).isSome then some key else Keyed.get? key registry.aliases

/-- Whether a name is known as a primary name or as an alias. -/
def isSupported (registry : Registry κ) (language : String) : Bool :=
  (registry.primary? language).isSome

/-- The primary name and the provider that a name leads to. -/
def resolve (registry : Registry κ) (language : String) : Except RegistryError (String × κ) :=
  match registry.primary? language with
  | none => .error (.unknownLanguage language registry.languages)
  | some primary =>
    match Keyed.get? primary registry.providers with
    | none => .error (.noProvider primary)
    | some provider => .ok (primary, provider)

/-- The provider that a name leads to. -/
def provider (registry : Registry κ) (language : String) : Except RegistryError κ :=
  (registry.resolve language).map Prod.snd

end Registry

end TypestateBuilders
