import TypestateBuilders.Builder.Completion
import TypestateBuilders.Template.Catalogue

/-!
# Contexts of templates

What the templates of the Rust target are filled in with. Each declaration that is worked out
beforehand has a form as a `Value`, whose members carry the names that the templates refer to, and
`fill` puts such a context into a template.
-/

set_option autoImplicit false
set_option relaxedAutoImplicit false

namespace TypestateBuilders

/-- A field of an object's struct. -/
structure FieldDeclaration where
  /-- The identifier of the field. -/
  name : String
  /-- Its type. -/
  ty : String
  /-- The name on the wire, if the identifier differs from it. -/
  rename : Option String
  /-- Its doc comment. -/
  docLines : List String
  deriving DecidableEq, Repr

/-- A field with the names that templates use. -/
def FieldDeclaration.value (field : FieldDeclaration) : Value :=
  .object [("name", .text field.name), ("ty", .text field.ty),
    ("rename", .ofText? field.rename), ("doc_lines", .ofTexts field.docLines)]

/-- A slot with the names that templates use. -/
def Slot.value (slot : Slot) : Value :=
  .object [("name", .text slot.name), ("ty", .text slot.ty), ("init", .text slot.init)]

/-- Slots with the names that templates use. -/
def slotValues (slots : List Slot) : Value :=
  .list (slots.map Slot.value)

/-- A layout with the names that templates use. -/
def Layout.value (layout : Layout) : Value :=
  .object [("needs_container", .bool layout.needsContainer), ("outer", slotValues layout.outer),
    ("container", slotValues layout.container),
    ("container_generics", .text layout.containerGenerics), ("is_unit", .bool layout.isUnit),
    ("data_path", .text layout.dataPath)]

/-- A constructor with the names that templates use. -/
def Constructor.value (constructor : Constructor) : Value :=
  .object [("name", .text constructor.name), ("doc_lines", .ofTexts constructor.docLines),
    ("deprecated", constructor.deprecated), ("ty", .text constructor.ty),
    ("builder", .text constructor.builder), ("slots", slotValues constructor.slots)]

/-- A setter with the names that templates use. -/
def Setter.value (setter : Setter) : Value :=
  .object [("name", .text setter.name), ("doc_lines", .ofTexts setter.docLines),
    ("arg_ty", .text setter.argTy), ("ret", .text setter.ret), ("tail", .text setter.tail),
    ("statements", .ofTexts setter.statements)]

/-- A conversion with the names that templates use. -/
def Conversion.members (conversion : Conversion) : List (String × Value) :=
  [("impl_generics", .text conversion.implGenerics), ("builder_ty", .text conversion.builderTy),
    ("object_ty", .text conversion.objectTy), ("data_path", .text conversion.dataPath)]

/-- What sends a builder, with the names that templates use. -/
def Sendable.members (sendable : Sendable) : List (String × Value) :=
  [("prefix", .text sendable.helpers), ("builder_ty", .text sendable.builderTy),
    ("output", sendable.output), ("method", .text sendable.method),
    ("rel_path_expr", .text sendable.pathExpression)]

/-- The text of a template in a context. -/
def fill (name : Template.Name) (context : Template.Scope) : Except Failure String :=
  match Template.lines name.template context with
  | .ok lines => .ok (Template.textOfLines lines)
  | .error error => .error (.template name.text error.message)

end TypestateBuilders
