import TypestateBuilders.Generator.Basic
import TypestateBuilders.Settings.Layers

/-!
# Making a Rust generator

The ways to a generator for Rust that need no registry: from settings over the defaults
(`Generator.ofMembers`), and for source that will live in a module of another crate, where helper
modules are found through that crate and all policies are strict (`Generator.forLibrary`).
-/

set_option autoImplicit false
set_option relaxedAutoImplicit false

namespace TypestateBuilders.Generator

/-- The generator for Rust with some settings over the defaults. -/
def ofMembers (given : Settings.Named) : Except SettingsError Generator := do
  ofSettings .rust (← Settings.ofLayers Target.rust.language [] given)

/-- The settings for source that lives in a module of a crate. -/
def librarySettings (crateName : String) : List (String × Value) :=
  [("helper_module_prefix", .text (crateName ++ "::")), ("field_collision", .text "error"),
    ("unnamed_operations", .text "error")]

/-- The generator for source that lives in a module of a crate. -/
def forLibrary (crateName : String) : Except SettingsError Generator :=
  ofMembers (.ofObject (librarySettings crateName))

end TypestateBuilders.Generator
