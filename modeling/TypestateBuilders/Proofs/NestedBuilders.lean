import TypestateBuilders.Proofs.FieldOwners
import TypestateBuilders.Proofs.MarkerModule

/-!
# Fields that take finished builders

Where the objects in a field must have fields of their own, the setter of the field takes finished
builders of these objects. The type that it names and the type that the child's builder has once it
is finished are formed on their own: the first one from the names of the child's required fields
(`Builder.nestedArguments`), the second one from the markers of the child's own builder. Both are
the arguments for some fields of the child (`finishedArguments`), for all of them and for the owners
of their identifiers (`nestedArguments_eq`, `typeArguments_objectBuilder`).

So the setter names one argument more for every required field of the child that is dropped, and the
types have the same arguments exactly if none is
(`Generator.takes_finished_builders_iff`).
-/

set_option autoImplicit false
set_option relaxedAutoImplicit false

namespace TypestateBuilders

open Naming Outcome Occurrence

/-- The arguments of a builder that is finished, for the fields of its object. -/
def finishedArguments (helpers : String) (needsAny : Bool) (fields : List ObjectField) :
    List String :=
  ((fields.filter ObjectField.isRequired).map fun field ↦
    genericsPath helpers ++ existsName (markerIdent field.name)) ++
  if needsAny then [anyParameter] else []

/-- The names of the fields that an object must have. -/
def ApiObject.requiredNames (object : ApiObject) : List String :=
  (object.fields.filter ObjectField.isRequired).map ObjectField.name

theorem Property.isRequired_ofField (field : ObjectField) :
    (ofField true field).kind.isRequired = field.isRequired := by
  unfold ofField
  cases field.isRequired <;> rfl

namespace Generator

open Builder

/-- The setter of a field names the arguments for all fields of the child. -/
theorem nestedArguments_eq (parent : Builder) {field : ObjectField} {child : ApiObject}
    (hchildren : field.knownChildren = some child.requiredNames)
    (hany : field.needsAny = child.needsAny) :
    parent.nestedArguments field =
      finishedArguments parent.helpers child.needsAny child.fields := by
  have hrequired : field.childRequired = child.requiredNames := by
    rw [ObjectField.childRequired, hchildren, Option.getD_some]
  rw [nestedArguments, childArguments, hrequired, hany, ApiObject.requiredNames, List.map_map]
  refine congrArg _ ?_
  cases child.needsAny <;> rfl

/-- The finished builder of an object has the arguments for the owners of identifiers. -/
theorem typeArguments_objectBuilder (generator : Generator) (child : ApiObject) :
    (generator.objectBuilder child).typeArguments .changeAll none =
      finishedArguments generator.helpers child.needsAny (owners child.fields) := by
  have hparameters : (generator.objectBuilder child).parameters = [] := rfl
  have hrequired : (fun property : Property ↦ property.kind.isRequired) ∘ Property.ofField true =
      ObjectField.isRequired := funext Property.isRequired_ofField
  have hproperties : (generator.objectBuilder child).properties =
      (owners child.fields).map (Property.ofField true) := properties_of_no_parameters hparameters
  have hargument : ∀ field : ObjectField, (generator.objectBuilder child).markerArgument .changeAll
      ((generator.objectBuilder child).marker field.name) =
        genericsPath generator.helpers ++ existsName (markerIdent field.name) := by
    intro field
    rw [markerArgument, Marker.present, param_marker]
    rfl
  rw [typeArguments, argumentsFor, markers, requiredProperties, hproperties, List.filter_map,
    hrequired, List.map_map, List.map_map]
  exact congrArg (· ++ _) (List.map_congr_left fun field _ ↦ hargument field)

/-- The required fields of an object are those that own their identifiers and those that are
dropped. -/
theorem countP_isRequired (generator : Generator) (child : ApiObject) :
    child.fields.countP ObjectField.isRequired =
      (owners child.fields).countP ObjectField.isRequired +
        (generator.objectBuilder child).collisions.countP fun pair ↦ pair.2.kind.isRequired := by
  have hparameters : (generator.objectBuilder child).parameters = [] := rfl
  have hrequired : (fun property : Property ↦ property.kind.isRequired) ∘ Property.ofField true =
      ObjectField.isRequired := funext Property.isRequired_ofField
  have hdeclarations : (generator.objectBuilder child).declarations =
      child.fields.map (Property.ofField true) := declarations_of_no_parameters hparameters
  have hfirsts : firsts Property.key (generator.objectBuilder child).declarations =
      (owners child.fields).map (Property.ofField true) := by
    rw [hdeclarations, firsts_map]
    rfl
  have hfollowers : (followers Property.key (generator.objectBuilder child).declarations).map
      Prod.snd = (generator.objectBuilder child).collisions.map Prod.snd := by
    rw [← collisions_of_no_parameters hparameters, List.map_map]
    rfl
  have hperm := perm_firsts_followers Property.key (generator.objectBuilder child).declarations
  have hcount := hperm.countP_eq fun property ↦ property.kind.isRequired
  rw [hfollowers, hfirsts, List.countP_append, List.countP_map, List.countP_map, hrequired,
    hdeclarations, List.countP_map, hrequired] at hcount
  exact hcount.symm

theorem length_finishedArguments (helpers : String) (needsAny : Bool) (fields : List ObjectField) :
    (finishedArguments helpers needsAny fields).length =
      fields.countP ObjectField.isRequired + if needsAny then 1 else 0 := by
  rw [finishedArguments, List.length_append, List.length_map, List.countP_eq_length_filter]
  cases needsAny <;> rfl

theorem finishedArguments_sublist (helpers : String) (needsAny : Bool) {fields : List ObjectField}
    {others : List ObjectField} (h : fields.Sublist others) :
    (finishedArguments helpers needsAny fields).Sublist
      (finishedArguments helpers needsAny others) :=
  ((h.filter _).map _).append_right _

/-- The setter of a field whose objects must have fields of their own takes finished builders. -/
theorem exists_fieldSetter {parent : Builder} {field : ObjectField} {leaf : String}
    (hleaf : leafType field.tyPath = .ok leaf) (hobject : isSimpleType leaf = false)
    (hsome : field.childRequired ≠ []) (data : String) :
    takesBuilders field = .ok true ∧ ∃ body, parent.fieldSetter data field = .ok body := by
  obtain ⟨shape, hshape, _⟩ := map_eq_ok.mp ((leafType_eq _).symm.trans hleaf)
  have htakes : takesBuilders field = .ok true := by
    rw [takesBuilders, if_neg (by simpa using hsome), hleaf, Except.map, hobject]
    rfl
  refine ⟨htakes, ?_⟩
  simp [fieldSetter, fieldArgument, htakes, childBuilderType_eq, convertValue_eq, hshape,
    Except.map, bind, Except.bind, pure, Except.pure]

/-- A field that holds objects with required fields takes finished builders of them, and the builder
of these objects can be finished if the children of all its fields are known. The type that the
setter of the field names has the arguments of the finished builder among its own, in order, and one
more for every required field of the child that is dropped. So the two types have the same
arguments, in number and order, exactly if no required field is dropped for another one with its
identifier. -/
theorem takes_finished_builders_iff {generator : Generator}
    (hdrop : generator.collisionPolicy = .drop) {child : ApiObject} {parent : Builder}
    (hhelpers : parent.helpers = generator.helpers) {field : ObjectField} {leaf : String}
    (hleaf : leafType field.tyPath = .ok leaf) (hobject : isSimpleType leaf = false)
    (hchildren : field.knownChildren = some child.requiredNames)
    (hsome : child.requiredNames ≠ []) (hany : field.needsAny = child.needsAny) :
    (∀ data, ∃ shape body, TypeShape.ofText field.tyPath = .ok shape ∧
      parent.fieldSetter data field = .ok body ∧
        body.argTy = finishedType shape (parent.nestedArguments field)) ∧
    ((∀ field ∈ child.fields, field.hasKnownChildren = true) → ∀ layout, ∃ conversion,
      (generator.objectBuilder child).conversion layout = .ok conversion ∧
        conversion.builderTy = (generator.objectBuilder child).name ++
          bracketed ((generator.objectBuilder child).typeArguments .changeAll none)) ∧
    ((generator.objectBuilder child).typeArguments .changeAll none).Sublist
      (parent.nestedArguments field) ∧
    (parent.nestedArguments field).length =
      ((generator.objectBuilder child).typeArguments .changeAll none).length +
        (generator.objectBuilder child).collisions.countP (fun pair ↦ pair.2.kind.isRequired) ∧
    (parent.nestedArguments field = (generator.objectBuilder child).typeArguments .changeAll none ↔
      ∀ pair ∈ (generator.objectBuilder child).collisions, pair.2.kind.isRequired = false) := by
  have hrequired : field.childRequired = child.requiredNames := by
    rw [ObjectField.childRequired, hchildren, Option.getD_some]
  have hnested := nestedArguments_eq parent hchildren hany
  have hfinished := typeArguments_objectBuilder generator child
  have hsublist : ((generator.objectBuilder child).typeArguments .changeAll none).Sublist
      (parent.nestedArguments field) := by
    rw [hnested, hfinished, hhelpers]
    exact finishedArguments_sublist _ _ (firsts_sublist ObjectField.ident child.fields)
  have hlength : (parent.nestedArguments field).length =
      ((generator.objectBuilder child).typeArguments .changeAll none).length +
        (generator.objectBuilder child).collisions.countP (fun pair ↦ pair.2.kind.isRequired) := by
    rw [hnested, hfinished, length_finishedArguments, length_finishedArguments,
      countP_isRequired generator child]
    omega
  refine ⟨fun data ↦ ?_, fun hknown layout ↦ ?_, hsublist, hlength, ?_⟩
  · obtain ⟨htakes, body, hbody⟩ := exists_fieldSetter hleaf hobject (hrequired ▸ hsome) data
    obtain ⟨shape, hshape, hargTy⟩ := argTy_fieldSetter htakes hbody
    exact ⟨shape, body, hshape, hbody, hargTy⟩
  · exact ⟨_, accepted_of_drop hdrop hknown _, rfl⟩
  · constructor
    · intro hsame pair hpair
      have hnone : (generator.objectBuilder child).collisions.countP
          (fun pair ↦ pair.2.kind.isRequired) = 0 := by
        rw [hsame] at hlength
        omega
      simpa using List.countP_eq_zero.mp hnone pair hpair
    · intro hkept
      refine (hsublist.eq_of_length ?_).symm
      rw [hlength, List.countP_eq_zero.mpr fun pair hpair ↦ by simp [hkept pair hpair],
        Nat.add_zero]

/-- A pet that must have a name and may have a tag. -/
def namedPet : ApiObject where
  name := "Pet"
  fields := [{ name := "name", tyPath := "String", isRequired := true },
    { name := "tag", tyPath := "String" }]

theorem takes_finished_builders_iff_namedPet :
    standard.collisionPolicy = .drop ∧
      (standard.objectBuilder petOwner).helpers = standard.helpers ∧
      leafType ownedPets.tyPath = .ok "crate::pet::Pet" ∧ isSimpleType "crate::pet::Pet" = false ∧
      ownedPets.knownChildren = some namedPet.requiredNames ∧ namedPet.requiredNames ≠ [] ∧
      ownedPets.needsAny = namedPet.needsAny ∧
      (standard.objectBuilder petOwner).nestedArguments ownedPets =
        (standard.objectBuilder namedPet).typeArguments .changeAll none ∧
      ∃ body, (standard.objectBuilder petOwner).fieldSetter "self." ownedPets = .ok body ∧
        body.argTy = "Vec<crate::pet::PetBuilder<crate::generics::NameExists>>" := by
  have hdrop : standard.collisionPolicy = .drop := rfl
  have hhelpers : (standard.objectBuilder petOwner).helpers = standard.helpers := rfl
  have hleaf : leafType ownedPets.tyPath = .ok "crate::pet::Pet" := by decide +kernel
  have hobject : isSimpleType "crate::pet::Pet" = false := by decide +kernel
  have hchildren : ownedPets.knownChildren = some namedPet.requiredNames := rfl
  have hsome : namedPet.requiredNames ≠ [] := by decide
  have hany : ownedPets.needsAny = namedPet.needsAny := rfl
  obtain ⟨htakes, _, _, _, hsame⟩ :=
    takes_finished_builders_iff hdrop hhelpers hleaf hobject hchildren hsome hany
  obtain ⟨_, body, _, hbody, _⟩ := htakes "self."
  have hargTy : ((standard.objectBuilder petOwner).fieldSetter "self." ownedPets).map
      SetterBody.argTy = .ok "Vec<crate::pet::PetBuilder<crate::generics::NameExists>>" := by
    decide +kernel
  rw [hbody] at hargTy
  exact ⟨hdrop, hhelpers, hleaf, hobject, hchildren, hsome, hany, hsame.mpr (by decide +kernel),
    body, hbody, Except.ok.inj hargTy⟩

/-- A pet with two required fields of one identifier. -/
def renumberedPet : ApiObject where
  name := "Pet"
  fields := [{ name := "petId", tyPath := "i64", isRequired := true },
    { name := "pet_id", tyPath := "i64", isRequired := true }]

/-- A field for such a pet. -/
def renumberedField : ObjectField where
  name := "pet"
  tyPath := "crate::pet::Pet"
  knownChildren := some ["petId", "pet_id"]

/-- An owner of such a pet. -/
def renumberedOwner : ApiObject where
  name := "Owner"
  fields := [renumberedField]

/-- The setter of a field can ask for builders with more arguments than the child's builder has. -/
theorem exists_field_without_builders :
    standard.collisionPolicy = .drop ∧ leafType renumberedField.tyPath = .ok "crate::pet::Pet" ∧
      isSimpleType "crate::pet::Pet" = false ∧
      renumberedField.knownChildren = some renumberedPet.requiredNames ∧
      renumberedPet.requiredNames ≠ [] ∧ renumberedField.needsAny = renumberedPet.needsAny ∧
      (standard.objectBuilder renumberedOwner).nestedArguments renumberedField =
        ["crate::generics::PetIdExists", "crate::generics::PetIdExists"] ∧
      (standard.objectBuilder renumberedPet).typeArguments .changeAll none =
        ["crate::generics::PetIdExists"] :=
  ⟨rfl, by decide +kernel, by decide +kernel, rfl, by decide, rfl, by decide +kernel,
    by decide +kernel⟩

end Generator

end TypestateBuilders
