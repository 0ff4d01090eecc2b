import TypestateBuilders.Builder.Completion
import TypestateBuilders.Proofs.SnakeCase
import TypestateBuilders.Proofs.Unification

/-!
# Placeholders in paths

The template of a path is taken apart into text and placeholders (`PathPart`). The expression for
the path names the placeholder of each property that is sent in the path by the property's
identifier. It goes through the properties one after the other, and searches the whole template for
each of them (`Builder.renamePlaceholders`). One such search renames the placeholders of one name
and nothing else (`replaceAll_placeholder`), and no later search finds what an earlier one wrote: an
identifier is its own identifier, so a property with such a name would not be kept beside the
earlier one. So the placeholders are renamed as if all of them were at once
(`Builder.renamePlaceholders_eq`).

The names of the arguments are the identifiers of the properties. They are all different, and where
the placeholders have the names of the properties, each of them is given by an argument and each
argument is used (`Builder.placeholders_renamed_at_once`).
-/

set_option autoImplicit false
set_option relaxedAutoImplicit false

namespace TypestateBuilders

open Naming

/-! ### Templates -/

/-- Whether a text holds no brace. -/
def BraceFree (text : String) : Prop :=
  '\x7b' ∉ text.toList ∧ '\x7d' ∉ text.toList

instance (text : String) : Decidable (BraceFree text) :=
  inferInstanceAs (Decidable (_ ∧ _))

/-- Identifiers hold no brace. -/
theorem braceFree_fieldIdent (name : String) : BraceFree (fieldIdent name) := by
  constructor
  all_goals
    intro hbrace
    have hident := isIdentChar_of_mem_sanitize _ hbrace
    exact absurd hident (by decide)

/-- A part of the template of a path. -/
inductive PathPart
  /-- Text that stays as it is. -/
  | text (characters : String)
  /-- The place of a value with a name. -/
  | hole (name : String)
  deriving DecidableEq, Repr

namespace PathPart

/-- What a part holds beside the braces of a placeholder. -/
def inside : PathPart → String
  | text characters => characters
  | hole name => name

/-- How a part is written. -/
def chars : PathPart → List Char
  | text characters => characters.toList
  | hole name => Builder.placeholder name

/-- The name of a placeholder. -/
def name? : PathPart → Option String
  | text _ => none
  | hole name => some name

/-- The part with the name of a placeholder changed. -/
def rename (change : String → String) : PathPart → PathPart
  | text characters => text characters
  | hole name => hole (change name)

/-- The template that parts make up. -/
def template (parts : List PathPart) : String :=
  String.ofList (parts.flatMap chars)

/-- The names of the placeholders among some parts. -/
def names (parts : List PathPart) : List String :=
  parts.filterMap name?

theorem names_map_rename (change : String → String) (parts : List PathPart) :
    names (parts.map (rename change)) = (names parts).map change := by
  induction parts with
  | nil => rfl
  | cons part rest ih =>
    rw [names] at ih ⊢
    cases part with
    | text characters => exact ih
    | hole name => exact congrArg _ ih

theorem rename_congr {change change' : String → String} (h : ∀ name, change name = change' name) :
    rename change = rename change' := by
  funext part
  cases part with
  | text characters => rfl
  | hole name => exact congrArg hole (h name)

theorem rename_comp (change change' : String → String) :
    rename change ∘ rename change' = rename (change ∘ change') := by
  funext part
  cases part <;> rfl

/-- Changing names to names without braces keeps parts without braces. -/
theorem braceFree_rename {change : String → String}
    (hchange : ∀ name, BraceFree name → BraceFree (change name)) {part : PathPart}
    (h : BraceFree part.inside) : BraceFree (part.rename change).inside := by
  cases part with
  | text characters => exact h
  | hole name => exact hchange name h

end PathPart

open PathPart

/-! ### One search -/

/-- A placeholder ends at its first closing brace, so it opens a text with one placeholder only. -/
theorem eq_of_placeholder_starts {name other : String} (hname : BraceFree name)
    (hother : BraceFree other) {rest : List Char}
    (h : Builder.placeholder name <+: Builder.placeholder other ++ rest) : name = other := by
  obtain ⟨tail, htail⟩ := h
  have hinside : name.toList ++ '\x7d' :: tail = other.toList ++ '\x7d' :: rest := by
    simpa [Builder.placeholder] using htail
  have hread : ∀ (text : String) (behind : List Char), BraceFree text →
      (text.toList ++ '\x7d' :: behind).takeWhile (· ≠ '\x7d') = text.toList := by
    intro text behind htext
    have hopen : ∀ c ∈ text.toList, decide (c ≠ '\x7d') = true := by
      intro c hc
      rw [decide_eq_true_iff]
      rintro rfl
      exact htext.2 hc
    rw [List.takeWhile_append_of_pos hopen, List.takeWhile_cons_of_neg (by decide),
      List.append_nil]
  apply String.toList_inj.mp
  rw [← hread name tail hname, hinside, hread other rest hother]

/-- A search renames the placeholders of one name, and nothing else. -/
theorem replaceAll_placeholder {name : String} (hname : BraceFree name) (new : String)
    {parts : List PathPart} (h : ∀ part ∈ parts, BraceFree part.inside) :
    Text.replaceAll (Builder.placeholder name) (Builder.placeholder new) (parts.flatMap chars) =
      (parts.map (rename fun other ↦ if other = name then new else other)).flatMap chars := by
  induction parts with
  | nil => rw [List.flatMap_nil, Text.replaceAll, List.map_nil, List.flatMap_nil]
  | cons part rest ih =>
    obtain ⟨hpart, hrest⟩ := List.forall_mem_cons.mp h
    rw [List.flatMap_cons, List.map_cons, List.flatMap_cons, ← ih hrest]
    cases part with
    | text characters => exact Text.replaceAll_append_of_notMem hpart.1 _
    | hole other =>
      by_cases hsame : other = name
      · rw [rename, if_pos hsame, chars, chars, hsame]
        exact Text.replaceAll_pattern_append (List.cons_ne_nil _ _) _
      · -- The search does not start at this placeholder, and not inside it either.
        have hstart : ¬ Builder.placeholder name <+:
            Builder.placeholder other ++ rest.flatMap chars :=
          fun hprefix ↦ hsame (eq_of_placeholder_starts hname hpart hprefix).symm
        have hinside : '\x7b' ∉ other.toList ++ ['\x7d'] := by
          rw [List.mem_append, not_or]
          exact ⟨hpart.1, by decide⟩
        rw [rename, if_neg hsame, chars]
        refine (Text.replaceAll_cons_of_not_start hstart).trans (congrArg (List.cons '\x7b') ?_)
        exact Text.replaceAll_append_of_notMem hinside _

/-! ### All searches -/

namespace Builder

/-- Searching for the placeholders of properties one after the other renames each placeholder that
has the name of a property to its identifier, and leaves all others alone. -/
theorem renamePlaceholders_eq {properties : List Property}
    (hkeys : (properties.map Property.key).Nodup)
    (hnames : ∀ property ∈ properties, BraceFree property.name) {parts : List PathPart}
    (h : ∀ part ∈ parts, BraceFree part.inside) :
    renamePlaceholders (parts.flatMap chars) properties =
      (parts.map (rename fun name ↦
        if name ∈ properties.map Property.name then fieldIdent name else name)).flatMap chars := by
  induction properties generalizing parts with
  | nil =>
    have hsame : rename (fun name ↦
        if name ∈ ([] : List Property).map Property.name then fieldIdent name else name) = id := by
      funext part
      cases part <;> rfl
    rw [hsame, List.map_id]
    rfl
  | cons property rest ih =>
    obtain ⟨hnew, hkeys⟩ := List.nodup_cons.mp hkeys
    obtain ⟨hname, hnames⟩ := List.forall_mem_cons.mp hnames
    have hplain : ∀ part ∈ parts.map (rename fun other ↦
        if other = property.name then property.key else other), BraceFree part.inside := by
      intro part hpart
      obtain ⟨original, hmem, rfl⟩ := List.mem_map.mp hpart
      refine braceFree_rename (fun name hfree ↦ ?_) (h original hmem)
      split
      · exact braceFree_fieldIdent property.name
      · exact hfree
    -- What was written for this property is the name of no later one.
    have hwritten : property.key ∉ rest.map Property.name := by
      intro hmem
      obtain ⟨later, hlater, hsame⟩ := List.mem_map.mp hmem
      refine hnew (List.mem_map.mpr ⟨later, hlater, ?_⟩)
      rw [Property.key, hsame]
      exact fieldIdent_fieldIdent property.name
    have hstep : renamePlaceholders (parts.flatMap chars) (property :: rest) =
        renamePlaceholders ((parts.map (rename fun other ↦
          if other = property.name then property.key else other)).flatMap chars) rest := by
      rw [← replaceAll_placeholder hname property.key h]
      rfl
    rw [hstep, ih hkeys hnames hplain, List.map_map, rename_comp]
    refine congrArg (fun change ↦ (parts.map change).flatMap chars) (rename_congr fun name ↦ ?_)
    rw [Function.comp_apply]
    by_cases hsame : name = property.name
    · have hfirst : name ∈ (property :: rest).map Property.name := by
        rw [List.map_cons, hsame]
        exact List.mem_cons_self
      rw [if_pos hsame, if_neg hwritten, if_pos hfirst, hsame, Property.key]
    · have hlater : name ∈ rest.map Property.name ↔
          name ∈ (property :: rest).map Property.name := by
        rw [List.map_cons, List.mem_cons]
        exact (or_iff_right hsame).symm
      rw [if_neg hsame]
      exact if_congr hlater rfl rfl

/-! ### The expression for the path -/

variable {builder : Builder} {layout : Layout}

/-- The name that a placeholder has in the expression for the path. -/
def renamed (builder : Builder) (name : String) : String :=
  if name ∈ builder.pathProperties.map Property.name then fieldIdent name else name

/-- The arguments of the expression for the path. -/
def pathArguments (builder : Builder) (layout : Layout) : List String :=
  builder.pathProperties.map (pathArgumentOf layout)

/-- The name of an argument: what stands in front of its equality sign. -/
def argumentName (argument : String) : String :=
  String.ofList (argument.toList.takeWhile (· ≠ '='))

/-- The expression for a path whose template is filled in with arguments. -/
def filledIn (template : String) (arguments : List String) : String :=
  if arguments = [] then "\"" ++ template ++ "\".into()"
  else "format!(\"" ++ template ++ "\", " ++ ", ".intercalate arguments ++ ").into()"

/-- The argument of a property is named by the property's identifier. -/
theorem argumentName_pathArgumentOf (layout : Layout) (property : Property) :
    argumentName (pathArgumentOf layout property) = property.key := by
  have hident : ∀ c ∈ property.key.toList, decide (c ≠ '=') = true := by
    intro c hc
    rw [decide_eq_true_iff]
    rintro rfl
    exact absurd (isIdentChar_of_mem_sanitize _ hc) (by decide)
  have hbehind : ∀ text : String, ("=self." ++ text).toList.takeWhile (· ≠ '=') = [] := by
    intro text
    rw [String.toList_append]
    rfl
  rw [argumentName, pathArgumentOf]
  simp only [String.append_assoc]
  rw [String.toList_append, List.takeWhile_append_of_pos hident, hbehind, List.append_nil,
    String.ofList_toList]

theorem map_argumentName_pathArguments (builder : Builder) (layout : Layout) :
    (builder.pathArguments layout).map argumentName = builder.pathProperties.map Property.key := by
  rw [pathArguments, List.map_map]
  exact List.map_congr_left fun property _ ↦ argumentName_pathArgumentOf layout property

theorem nodup_keys_pathProperties (builder : Builder) :
    (builder.pathProperties.map Property.key).Nodup :=
  (List.filter_sublist.map Property.key).nodup builder.nodup_keys_properties

/-- The expression for the path is the template filled in, with its placeholders renamed one after
the other. -/
theorem pathExpression_eq_filledIn {template : String}
    (h : builder.pathTemplate = .text template) :
    builder.pathExpression layout = .ok (filledIn
      (String.ofList (renamePlaceholders template.toList builder.pathProperties))
      (builder.pathArguments layout)) := by
  rw [pathExpression, pathArguments, h]
  cases builder.pathProperties with
  | nil =>
    rw [List.map_nil, filledIn, if_pos rfl, renamePlaceholders, List.foldl_nil,
      String.ofList_toList]
    rfl
  | cons property rest =>
    rw [filledIn, if_neg (by rw [List.map_cons]; exact List.cons_ne_nil _ _)]
    rfl

/-- Placeholders are renamed at once and completely. In a path of text and placeholders without
further braces, the expression for the path has each placeholder with the name of a property that is
sent in the path renamed to the identifier of the property, and all others left alone. The arguments
have names of their own. If the placeholders have exactly the names of the properties that are sent
in the path, the renamed ones have exactly the names of the arguments. -/
theorem placeholders_renamed_at_once {parts : List PathPart}
    (htemplate : builder.pathTemplate = .text (template parts))
    (hparts : ∀ part ∈ parts, BraceFree part.inside)
    (hnames : ∀ property ∈ builder.pathProperties, BraceFree property.name) :
    builder.pathExpression layout = .ok (filledIn
        (template (parts.map (rename builder.renamed))) (builder.pathArguments layout)) ∧
      (∀ part ∈ parts.map (rename builder.renamed), BraceFree part.inside) ∧
      ((builder.pathArguments layout).map argumentName).Nodup ∧
      ((∀ name, name ∈ names parts ↔ name ∈ builder.pathProperties.map Property.name) →
        ∀ name, name ∈ names (parts.map (rename builder.renamed)) ↔
          name ∈ (builder.pathArguments layout).map argumentName) := by
  refine ⟨?_, ?_, ?_, ?_⟩
  · rw [pathExpression_eq_filledIn htemplate, template, String.toList_ofList,
      renamePlaceholders_eq builder.nodup_keys_pathProperties hnames hparts]
    rfl
  · intro part hpart
    obtain ⟨original, hmem, rfl⟩ := List.mem_map.mp hpart
    refine braceFree_rename (fun name hfree ↦ ?_) (hparts original hmem)
    rw [renamed]
    split
    · exact braceFree_fieldIdent name
    · exact hfree
  · rw [map_argumentName_pathArguments]
    exact builder.nodup_keys_pathProperties
  · intro hexact name
    rw [names_map_rename, map_argumentName_pathArguments, List.mem_map, List.mem_map]
    constructor
    · rintro ⟨original, hmem, rfl⟩
      have hnamed := (hexact original).mp hmem
      obtain ⟨property, hproperty, rfl⟩ := List.mem_map.mp hnamed
      exact ⟨property, hproperty, by rw [renamed, if_pos hnamed, Property.key]⟩
    · rintro ⟨property, hproperty, rfl⟩
      have hnamed : property.name ∈ builder.pathProperties.map Property.name :=
        List.mem_map_of_mem hproperty
      exact ⟨property.name, (hexact _).mpr hnamed, by rw [renamed, if_pos hnamed, Property.key]⟩

/-- A builder for a pet of an owner that is found by two parameters in the path, of which one has a
keyword as its name. -/
def ownedPetBuilder : Builder where
  object := "Pet"
  method := some .get
  relPath := .text "/owners/\x7bownerId\x7d/pets/\x7btype\x7d"
  sharedParams := [{ name := "type", tyPath := "String", required := true, location := .path }]
  ownParams := [{ name := "limit", tyPath := "i64" },
    { name := "ownerId", tyPath := "i64", required := true, location := .path }]

/-- The parts of its path. -/
def ownedPetParts : List PathPart :=
  [.text "/owners/", .hole "ownerId", .text "/pets/", .hole "type"]

/-- The arguments of its expression for the path. -/
def ownedPetArguments : List String :=
  ["type_=self.inner.param_type.as_ref().expect(\"missing parameter type?\")",
    "owner_id=self.inner.param_owner_id.as_ref().expect(\"missing parameter ownerId?\")"]

theorem ownedPetBuilder_generated :
    ownedPetBuilder.pathTemplate = .text (template ownedPetParts) ∧
      ownedPetBuilder.pathProperties.map Property.name = ["type", "ownerId"] ∧
      ownedPetParts.map (rename ownedPetBuilder.renamed) =
        [.text "/owners/", .hole "owner_id", .text "/pets/", .hole "type_"] ∧
      ownedPetBuilder.pathArguments ⟨true, [], [], ""⟩ = ownedPetArguments ∧
      ownedPetArguments.map argumentName = ["type_", "owner_id"] := by
  decide +kernel

theorem placeholders_renamed_at_once_ownedPet :
    ownedPetBuilder.pathTemplate = .text (template ownedPetParts) ∧
      (∀ part ∈ ownedPetParts, BraceFree part.inside) ∧
      (∀ property ∈ ownedPetBuilder.pathProperties, BraceFree property.name) ∧
      (∀ name, name ∈ names ownedPetParts ↔
        name ∈ ownedPetBuilder.pathProperties.map Property.name) ∧
      ownedPetBuilder.pathExpression ⟨true, [], [], ""⟩ = .ok (filledIn
        "/owners/\x7bowner_id\x7d/pets/\x7btype_\x7d" ownedPetArguments) ∧
      ∀ name, name ∈ ["owner_id", "type_"] ↔ name ∈ ["type_", "owner_id"] := by
  obtain ⟨htemplate, hproperties, hrenamed, harguments, hargumentNames⟩ := ownedPetBuilder_generated
  have hparts : ∀ part ∈ ownedPetParts, BraceFree part.inside := by decide
  have hnames : ∀ property ∈ ownedPetBuilder.pathProperties, BraceFree property.name := by
    have hlist : ∀ name ∈ ownedPetBuilder.pathProperties.map Property.name, BraceFree name := by
      rw [hproperties]
      decide
    exact fun property hproperty ↦ hlist property.name (List.mem_map_of_mem hproperty)
  have hexact : ∀ name, name ∈ names ownedPetParts ↔
      name ∈ ownedPetBuilder.pathProperties.map Property.name := by
    intro name
    rw [hproperties]
    show name ∈ ["ownerId", "type"] ↔ name ∈ ["type", "ownerId"]
    exact List.Perm.mem_iff (List.Perm.swap _ _ _)
  have hfilled : template [.text "/owners/", .hole "owner_id", .text "/pets/", .hole "type_"] =
      "/owners/\x7bowner_id\x7d/pets/\x7btype_\x7d" := by
    decide
  obtain ⟨hexpression, _, _, hbound⟩ := placeholders_renamed_at_once htemplate hparts hnames
  refine ⟨htemplate, hparts, hnames, hexact, ?_, ?_⟩
  · rw [hexpression, hrenamed, hfilled, harguments]
  · intro name
    have hname := hbound hexact name
    rw [hrenamed, harguments, hargumentNames] at hname
    exact hname

end Builder

end TypestateBuilders
