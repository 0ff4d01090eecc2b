import TypestateBuilders.Value.Display

/-!
# Texts that may be missing

Where a model may hold a text, it may hold nothing, or a value of another kind. A `GivenText` tells
these cases apart. Of a value that is no text it keeps the kind, how the value is shown and whether
it is true, since nothing else is asked of it (`display_ofValue`, `isTrue_ofValue`).
-/

set_option autoImplicit false
set_option relaxedAutoImplicit false

namespace TypestateBuilders

/-- A text, nothing, or a value of another kind. -/
inductive GivenText
  | absent
  | text (characters : String)
  | other (kind shown : String) (truth : Bool)
  deriving DecidableEq, Repr

namespace GivenText

/-- What a value gives where a text may stand. -/
def ofValue : Value → GivenText
  | .null => absent
  | .text characters => text characters
  | value => other value.kindName value.display value.isTrue

/-- Whether there is something that is true, which empty texts are not. -/
def isTrue : GivenText → Bool
  | absent => false
  | text characters => !characters.isEmpty
  | other _ _ truth => truth

/-- How the text is shown, or what stands in its place. -/
def display : GivenText → String
  | absent => Value.null.display
  | text characters => characters
  | other _ shown _ => shown

/-- The name of the kind. -/
def kindName : GivenText → String
  | absent => Value.null.kindName
  | text characters => (Value.text characters).kindName
  | other kind _ _ => kind

@[simp] theorem display_ofValue (value : Value) : (ofValue value).display = value.display := by
  cases value <;> rfl

@[simp] theorem isTrue_ofValue (value : Value) : (ofValue value).isTrue = value.isTrue := by
  cases value <;> rfl

end GivenText

end TypestateBuilders
