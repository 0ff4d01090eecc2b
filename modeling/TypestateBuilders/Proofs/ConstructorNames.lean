import TypestateBuilders.Generator.Declaration
import TypestateBuilders.Proofs.StructNames

/-!
# Names of constructors

All constructors of an object are functions of one implementation. An operation with an identifier
names its constructor itself (`Endpoint.namedIdent`). Any other one is named after the method, with
the number of the path behind it if several paths have operations and the number is above zero
(`ApiObject.unnamedIdent`), and the object's own constructor is called `builder`.

Names after methods never repeat, since digits and underscores keep the number apart and the number
gives away the path. So names repeat only where identifiers of operations do, or where such an
identifier is `builder` or a name after a method (`Generator.nodup_constructorNames_iff`). Numbers
keep operations apart only as long as none of them has an identifier. An operation at the first path
has no number, so its method can be the identifier of another operation
(`Generator.exists_repeated_constructorName`).
-/

set_option autoImplicit false
set_option relaxedAutoImplicit false

namespace TypestateBuilders

open Naming Outcome

/-! ### Names after methods -/

/-- The identifiers of the methods. -/
theorem map_fieldIdent_methods :
    HttpMethod.all.map (fun method ↦ fieldIdent method.name) =
      ["get", "put", "post", "delete", "options", "head", "patch"] := by
  decide +kernel

theorem HttpMethod.mem_all (method : HttpMethod) : method ∈ all := by
  cases method <;> decide

theorem fieldIdent_method_mem (method : HttpMethod) :
    fieldIdent method.name ∈ ["get", "put", "post", "delete", "options", "head", "patch"] :=
  map_fieldIdent_methods ▸ List.mem_map_of_mem method.mem_all

theorem fieldIdent_method_injective :
    Function.Injective fun method : HttpMethod ↦ fieldIdent method.name := by
  intro first second h
  have hnodup : (HttpMethod.all.map fun method ↦ fieldIdent method.name).Nodup := by
    rw [map_fieldIdent_methods]
    decide
  exact List.inj_on_of_nodup_map hnodup first.mem_all second.mem_all h

/-- Whether a character can belong to the number behind a name. -/
def isNumberChar (c : Char) : Bool :=
  c.isDigit || c == '_'

/-- The number of a path behind a name: it is left out if one path has all the operations, or if it
is zero. -/
def numberEnding (severalPaths : Bool) (number : ℕ) : String :=
  if severalPaths && decide (0 < number) then "_" ++ toString number else ""

/-- A constructor that is named after its method has this ending. -/
theorem numberEnding_eq (severalPaths : Bool) (number : ℕ) :
    (if severalPaths && (Value.int number).isPositive then "_" ++ (Value.int number).display
      else "") = numberEnding severalPaths number := by
  rw [isPositive_number, display_number, numberEnding]

theorem isNumberChar_of_mem_numberEnding {severalPaths : Bool} {number : ℕ} {c : Char}
    (h : c ∈ (numberEnding severalPaths number).toList) : isNumberChar c = true := by
  unfold numberEnding at h
  unfold isNumberChar
  split_ifs at h
  · rw [String.toList_append, Nat.toString_eq_repr, Nat.toList_repr] at h
    rcases List.mem_append.mp h with hline | hdigit
    · rw [List.mem_singleton.mp hline]
      rfl
    · rw [Nat.isDigit_of_mem_toDigits (by decide) (by decide) hdigit]
      rfl
  · cases h

/-- Where several paths have operations, the ending gives away the number. -/
theorem numberEnding_true_injective : Function.Injective (numberEnding true) := by
  have hsucc : ∀ number, numberEnding true (number + 1) = "_" ++ numberText (number + 1) :=
    fun _ ↦ rfl
  have hne : ∀ number, numberEnding true 0 ≠ numberEnding true (number + 1) := by
    intro number h
    have hempty := congrArg String.toList (h.trans (hsucc number))
    rw [String.toList_append] at hempty
    cases hempty
  intro first second h
  rcases first with _ | first <;> rcases second with _ | second
  · rfl
  · exact absurd h (hne second)
  · exact absurd h.symm (hne first)
  · rw [hsucc, hsucc, String.append_right_inj] at h
    exact numberText_injective h

/-- A method is told apart from the number behind it. -/
theorem fieldIdent_method_append_eq_iff {first second : HttpMethod} {severalPaths : Bool}
    {number number' : ℕ} :
    fieldIdent first.name ++ numberEnding severalPaths number =
        fieldIdent second.name ++ numberEnding severalPaths number' ↔
      first = second ∧ numberEnding severalPaths number = numberEnding severalPaths number' := by
  have hends : ∀ method : HttpMethod, EndsOutside isNumberChar (fieldIdent method.name) := by
    intro method
    have hall : ∀ ident ∈ ["get", "put", "post", "delete", "options", "head", "patch"],
        EndsOutside isNumberChar ident := by
      decide
    exact hall _ (fieldIdent_method_mem method)
  rw [append_eq_append_iff_of_endsOutside (hends first) (hends second)
    (fun _ ↦ isNumberChar_of_mem_numberEnding) fun _ ↦ isNumberChar_of_mem_numberEnding]
  exact and_congr_left fun _ ↦ fieldIdent_method_injective.eq_iff

/-- No method gives the name of an object's own constructor. -/
theorem fieldIdent_method_append_ne (method : HttpMethod) (severalPaths : Bool) (number : ℕ) :
    fieldIdent method.name ++ numberEnding severalPaths number ≠ defaultConstructorName := by
  intro h
  have hall : ∀ ident ∈ ["get", "put", "post", "delete", "options", "head", "patch"],
      ¬ ident.toList <+: defaultConstructorName.toList := by
    decide
  refine hall _ (fieldIdent_method_mem method) ?_
  rw [← h, String.toList_append]
  exact List.prefix_append ..

/-! ### Names of the constructors of operations -/

namespace Endpoint

/-- Whether the operation at an endpoint has an identifier. -/
def isNamed (endpoint : Endpoint) : Bool :=
  endpoint.operation.id.isTrue

/-- The name that the identifier of an operation gives to its constructor. -/
def namedIdent (endpoint : Endpoint) : String :=
  fieldIdent endpoint.operation.id.display

/-- Whether the identifier of an operation is a text, if it has one. -/
def HasTextId (endpoint : Endpoint) : Prop :=
  endpoint.isNamed = true → ∃ id, endpoint.operation.id = .text id

theorem hasTextId_of_eq {endpoint : Endpoint} {id : String}
    (h : endpoint.operation.id = .absent ∨ endpoint.operation.id = .text id) :
    endpoint.HasTextId := by
  intro hnamed
  rcases h with habsent | htext
  · rw [isNamed, habsent] at hnamed
    cases hnamed
  · exact ⟨id, htext⟩

end Endpoint

namespace ApiObject

/-- The name that the method of an operation gives to its constructor, with the number of the path
if it is needed. -/
def unnamedIdent (object : ApiObject) (endpoint : Endpoint) : String :=
  fieldIdent endpoint.method.name ++
    numberEnding (Generator.severalPaths object) (object.rank endpoint.path)

/-- The name of the constructor for the operation at an endpoint. -/
def constructorIdent (object : ApiObject) (endpoint : Endpoint) : String :=
  if endpoint.isNamed then endpoint.namedIdent else object.unnamedIdent endpoint

/-- The operations of an object that have an identifier. -/
def namedEndpoints (object : ApiObject) : List Endpoint :=
  object.endpoints.filter Endpoint.isNamed

/-- The operations of an object that have no identifier. -/
def unnamedEndpoints (object : ApiObject) : List Endpoint :=
  object.endpoints.filter fun endpoint ↦ !endpoint.isNamed

variable {object : ApiObject}

/-- Unless several paths have operations, all operations are found under one path. -/
theorem path_eq_of_not_severalPaths (h : Generator.severalPaths object = false)
    {first second : Endpoint} (hfirst : first ∈ object.endpoints)
    (hsecond : second ∈ object.endpoints) : first.path = second.path := by
  have hused : ∀ endpoint ∈ object.endpoints, ∃ path ∈ object.paths.filter
      fun path ↦ path.2.operations ≠ [], endpoint.path = path.1 := by
    intro endpoint hendpoint
    obtain ⟨path, hpath, hat⟩ := List.mem_flatMap.mp hendpoint
    refine ⟨path, List.mem_filter.mpr ⟨hpath, decide_eq_true ?_⟩, Endpoint.path_of_mem_atPath hat⟩
    rintro hnone
    rw [hnone] at hat
    exact absurd hat List.not_mem_nil
  have hfew : ¬ 2 ≤ (object.paths.filter fun path ↦ path.2.operations ≠ []).length := by
    rw [← Generator.severalPaths_iff, h]
    exact Bool.false_ne_true
  obtain ⟨path, hpath, hat⟩ := hused first hfirst
  obtain ⟨other, hother, hat'⟩ := hused second hsecond
  generalize (object.paths.filter fun path ↦ path.2.operations ≠ []) = used at *
  rcases used with _ | ⟨only, _ | ⟨next, rest⟩⟩
  · exact absurd hpath List.not_mem_nil
  · rw [hat, hat', List.mem_singleton.mp hpath, List.mem_singleton.mp hother]
  · exact absurd (Nat.le_add_left 2 rest.length) hfew

/-- Names after methods tell operations apart. -/
theorem eq_of_unnamedIdent (h : object.HasKeys) {first second : Endpoint}
    (hfirst : first ∈ object.endpoints) (hsecond : second ∈ object.endpoints)
    (hident : object.unnamedIdent first = object.unnamedIdent second) : first = second := by
  obtain ⟨hmethod, hending⟩ := fieldIdent_method_append_eq_iff.mp hident
  refine eq_of_same_key h hfirst hsecond ?_ hmethod
  cases hseveral : Generator.severalPaths object with
  | false => exact path_eq_of_not_severalPaths hseveral hfirst hsecond
  | true =>
    rw [hseveral] at hending
    exact path_eq_of_rank_eq h hfirst hsecond (numberEnding_true_injective hending)

theorem map_constructorIdent_namedEndpoints (object : ApiObject) :
    object.namedEndpoints.map object.constructorIdent =
      object.namedEndpoints.map Endpoint.namedIdent :=
  List.map_congr_left fun _ hendpoint ↦ if_pos (List.mem_filter.mp hendpoint).2

theorem map_constructorIdent_unnamedEndpoints (object : ApiObject) :
    object.unnamedEndpoints.map object.constructorIdent =
      object.unnamedEndpoints.map object.unnamedIdent :=
  List.map_congr_left fun _ hendpoint ↦ if_neg (by simpa using (List.mem_filter.mp hendpoint).2)

/-- The constructors are those of operations with an identifier and those of operations without. -/
theorem perm_map_constructorIdent (object : ApiObject) :
    (object.orderedEndpoints.map object.constructorIdent).Perm
      (object.namedEndpoints.map Endpoint.namedIdent ++
        object.unnamedEndpoints.map object.unnamedIdent) := by
  rw [← object.map_constructorIdent_namedEndpoints, ← object.map_constructorIdent_unnamedEndpoints,
    ← List.map_append]
  exact (object.perm_orderedEndpoints.trans
    (List.filter_append_perm Endpoint.isNamed object.endpoints).symm).map _

/-- When the names of constructors repeat: where identifiers do, or where one of them is the name of
the object's own constructor or a name after a method. -/
theorem nodup_cons_map_constructorIdent (h : object.HasKeys) :
    (defaultConstructorName :: object.orderedEndpoints.map object.constructorIdent).Nodup ↔
      (object.namedEndpoints.map Endpoint.namedIdent).Nodup ∧
      (∀ named ∈ object.namedEndpoints, named.namedIdent ≠ defaultConstructorName) ∧
      ∀ named ∈ object.namedEndpoints, ∀ unnamed ∈ object.unnamedEndpoints,
        named.namedIdent ≠ object.unnamedIdent unnamed := by
  have hunnamed : (object.unnamedEndpoints.map object.unnamedIdent).Nodup :=
    ((nodup_endpoints h).filter _).map_on fun first hfirst second hsecond ↦
      eq_of_unnamedIdent h (List.mem_of_mem_filter hfirst) (List.mem_of_mem_filter hsecond)
  have hdefault : defaultConstructorName ∉ object.unnamedEndpoints.map object.unnamedIdent := by
    intro hmem
    obtain ⟨endpoint, _, hident⟩ := List.mem_map.mp hmem
    exact fieldIdent_method_append_ne _ _ _ hident
  have hperm := object.perm_map_constructorIdent
  rw [List.nodup_cons, hperm.mem_iff, hperm.nodup_iff, List.mem_append, List.nodup_append]
  constructor
  · rintro ⟨hnew, hnamed, _, happart⟩
    refine ⟨hnamed, fun named hmem hident ↦ ?_, fun named hmem unnamed hother ↦ ?_⟩
    · exact hnew (Or.inl (List.mem_map.mpr ⟨named, hmem, hident⟩))
    · exact happart _ (List.mem_map_of_mem hmem) _ (List.mem_map_of_mem hother)
  · rintro ⟨hnamed, hnew, happart⟩
    refine ⟨?_, hnamed, hunnamed, ?_⟩
    · rintro (hmem | hmem)
      · obtain ⟨named, hnamedMem, hident⟩ := List.mem_map.mp hmem
        exact hnew named hnamedMem hident
      · exact hdefault hmem
    · exact List.forall_mem_map.mpr fun named hmem ↦ List.forall_mem_map.mpr (happart named hmem)

end ApiObject

/-! ### The constructors of an object -/

/-- A constructor has the name of its builder, or the default one. -/
theorem Builder.name_of_constructor_eq_ok {builder : Builder} {layout : Layout} {addComments : Bool}
    {constructor : Constructor} (h : builder.constructor layout addComments = .ok constructor) :
    builder.constructorName.map (·.getD defaultConstructorName) = .ok constructor.name := by
  obtain ⟨_, _, h⟩ := bind_eq_ok.mp h
  obtain ⟨name, hname, h⟩ := bind_eq_ok.mp h
  obtain ⟨docLines, _, h⟩ := bind_eq_ok.mp h
  rw [← Except.ok.inj h, hname]
  rfl

namespace Generator

variable {generator : Generator} {object : ApiObject}

/-- The names of the functions that create the builders of an object. -/
def constructorNames (generator : Generator) (object : ApiObject) : Except Failure (List String) :=
  (generator.builders object).mapM fun builder ↦
    builder.constructorName.map (·.getD defaultConstructorName)

/-- The constructors that are written for an object have these names. -/
theorem constructorNames_of_constructors {laidOut : List (Builder × Layout)}
    {constructors : List Constructor} (hbuilders : laidOut.map Prod.fst = generator.builders object)
    (h : laidOut.mapM (fun (builder, layout) ↦
      builder.constructor layout generator.addComments) = .ok constructors) :
    generator.constructorNames object = .ok (constructors.map Constructor.name) := by
  unfold constructorNames
  rw [← hbuilders, mapM_eq_ok, List.forall₂_map_left_iff, List.forall₂_map_right_iff]
  exact (mapM_eq_ok.mp h).imp fun _ _ ↦ Builder.name_of_constructor_eq_ok

theorem methodName_endpointBuilder (generator : Generator) (object : ApiObject)
    (endpoint : Endpoint) :
    (generator.endpointBuilder object endpoint).methodName endpoint.method =
      object.unnamedIdent endpoint :=
  congrArg (fieldIdent endpoint.method.name ++ ·) (numberEnding_eq ..)

/-- The constructor of an operation is named after its identifier or its method. -/
theorem constructorName_endpointBuilder (hpolicy : generator.unnamedPolicy = .indexed)
    {endpoint : Endpoint} (hid : endpoint.HasTextId) :
    (generator.endpointBuilder object endpoint).constructorName =
      .ok (some (object.constructorIdent endpoint)) := by
  have hname : (generator.endpointBuilder object endpoint).constructorName =
      if endpoint.isNamed then
        (endpoint.operation.id.require .operationId).map fun id ↦ some (fieldIdent id)
      else if severalPaths object && generator.unnamedPolicy = .refuse then
        .error (.unnamedOperation endpoint.method.verb endpoint.path object.name)
      else
        .ok (some ((generator.endpointBuilder object endpoint).methodName endpoint.method)) := rfl
  rw [hname, hpolicy, methodName_endpointBuilder, ApiObject.constructorIdent]
  cases hnamed : endpoint.isNamed with
  | true =>
    obtain ⟨id, htext⟩ := hid hnamed
    rw [if_pos rfl, if_pos rfl, Endpoint.namedIdent, htext]
    rfl
  | false =>
    cases severalPaths object <;> rfl

theorem constructorNames_eq (hpolicy : generator.unnamedPolicy = .indexed) (hkeys : object.HasKeys)
    (hids : ∀ endpoint ∈ object.endpoints, endpoint.HasTextId) :
    generator.constructorNames object =
      .ok (defaultConstructorName :: object.orderedEndpoints.map object.constructorIdent) := by
  unfold constructorNames
  rw [builders_eq generator hkeys, mapM_eq_ok]
  refine List.Forall₂.cons rfl ?_
  rw [List.forall₂_map_left_iff, List.forall₂_map_right_iff, List.forall₂_same]
  intro endpoint hendpoint
  have hid := hids endpoint (object.perm_orderedEndpoints.mem_iff.mp hendpoint)
  rw [constructorName_endpointBuilder hpolicy hid]
  rfl

/-- When the constructors of an object have names of their own, where operations without an
identifier are numbered. All constructors have a name then. No two of the names are the same exactly
if the identifiers of operations give different names, none of them `builder` and none of them the
name that the method gives to an operation without an identifier. The functions that are written for
the object have these names. -/
theorem nodup_constructorNames_iff (generator : Generator) {object : ApiObject}
    (hpolicy : generator.unnamedPolicy = .indexed) (hkeys : object.HasKeys)
    (hids : ∀ endpoint ∈ object.endpoints, endpoint.HasTextId) :
    ∃ names, generator.constructorNames object = .ok names ∧
      (names.Nodup ↔ (object.namedEndpoints.map Endpoint.namedIdent).Nodup ∧
        (∀ named ∈ object.namedEndpoints, named.namedIdent ≠ defaultConstructorName) ∧
        ∀ named ∈ object.namedEndpoints, ∀ unnamed ∈ object.unnamedEndpoints,
          named.namedIdent ≠ object.unnamedIdent unnamed) ∧
      ∀ (laidOut : List (Builder × Layout)) (constructors : List Constructor),
        laidOut.map Prod.fst = generator.builders object →
        laidOut.mapM (fun (builder, layout) ↦ builder.constructor layout generator.addComments) =
          .ok constructors →
        constructors.map Constructor.name = names := by
  have hnames := constructorNames_eq hpolicy hkeys hids
  refine ⟨_, hnames, ApiObject.nodup_cons_map_constructorIdent hkeys,
    fun laidOut constructors hbuilders hconstructors ↦ ?_⟩
  have hwritten := constructorNames_of_constructors hbuilders hconstructors
  exact Except.ok.inj (hwritten.symm.trans hnames)

/-- A pet that is listed and registered at one path, and found at another one. Of these operations,
the first has an identifier. -/
def listedPet : ApiObject where
  name := "Pet"
  fields := [{ name := "name", tyPath := "String", isRequired := true }]
  paths :=
    [("/pets", { operations := [(.post, { bodyRequired := true }),
        (.get, { id := .text "listPets", listable := true })] }),
      ("/pets/latest", { operations := [(.get, {})] })]

theorem nodup_constructorNames_iff_listedPet :
    standard.unnamedPolicy = .indexed ∧ listedPet.HasKeys ∧
      (∀ endpoint ∈ listedPet.endpoints, endpoint.HasTextId) ∧
      listedPet.namedEndpoints.map Endpoint.namedIdent = ["list_pets"] ∧
      listedPet.unnamedEndpoints.map listedPet.unnamedIdent = ["post", "get_1"] ∧
      ∃ names, standard.constructorNames listedPet = .ok names ∧ names.Nodup := by
  have hkeys : listedPet.HasKeys := ⟨by decide, by decide⟩
  have hgiven : ∀ endpoint ∈ listedPet.endpoints,
      endpoint.operation.id = .absent ∨ endpoint.operation.id = .text "listPets" := by
    decide
  have hids : ∀ endpoint ∈ listedPet.endpoints, endpoint.HasTextId :=
    fun endpoint hendpoint ↦ Endpoint.hasTextId_of_eq (hgiven endpoint hendpoint)
  have hnamed : listedPet.namedEndpoints.map Endpoint.namedIdent = ["list_pets"] := by
    decide +kernel
  have hunnamed : listedPet.unnamedEndpoints.map listedPet.unnamedIdent = ["post", "get_1"] := by
    decide +kernel
  obtain ⟨names, hnames, hnodup, _⟩ := nodup_constructorNames_iff standard rfl hkeys hids
  refine ⟨rfl, hkeys, hids, hnamed, hunnamed, names, hnames, hnodup.mpr ⟨?_, ?_, ?_⟩⟩
  · rw [hnamed]
    exact List.nodup_singleton _
  · decide +kernel
  · decide +kernel

/-- A pet that is found at two paths, once under an identifier. -/
def latestPet : ApiObject where
  name := "Pet"
  fields := [{ name := "name", tyPath := "String" }]
  paths :=
    [("/pets", { operations := [(.get, {})] }),
      ("/pets/latest", { operations := [(.get, { id := .text "get" })] })]

/-- Two constructors of an object can have one name, though identifiers of operations give names of
their own: one is named after its method, and the other has this method as its identifier. -/
theorem exists_repeated_constructorName :
    latestPet.namedEndpoints.map Endpoint.namedIdent = ["get"] ∧
      standard.constructorNames latestPet = .ok ["builder", "get", "get"] ∧
      ¬ ∀ (generator : Generator) (object : ApiObject) (names : List String),
        generator.unnamedPolicy = .indexed → object.HasKeys →
        (∀ endpoint ∈ object.endpoints, endpoint.HasTextId) →
        (object.namedEndpoints.map Endpoint.namedIdent).Nodup →
        (∀ named ∈ object.namedEndpoints, named.namedIdent ≠ defaultConstructorName) →
        generator.constructorNames object = .ok names → names.Nodup := by
  have hkeys : latestPet.HasKeys := ⟨by decide, by decide⟩
  have hgiven : ∀ endpoint ∈ latestPet.endpoints,
      endpoint.operation.id = .absent ∨ endpoint.operation.id = .text "get" := by
    decide
  have hids : ∀ endpoint ∈ latestPet.endpoints, endpoint.HasTextId :=
    fun endpoint hendpoint ↦ Endpoint.hasTextId_of_eq (hgiven endpoint hendpoint)
  have hnamed : latestPet.namedEndpoints.map Endpoint.namedIdent = ["get"] := by decide +kernel
  have hordered : latestPet.orderedEndpoints = latestPet.endpoints := by
    have hpaths : latestPet.sortedPaths = latestPet.paths :=
      List.mergeSort_of_pairwise (by decide +kernel)
    have hmethods : ∀ path ∈ latestPet.paths, path.2.operations.Pairwise
        fun first second ↦ decide (first.1.rank ≤ second.1.rank) = true := by
      decide
    rw [ApiObject.orderedEndpoints, ApiObject.endpoints, hpaths]
    refine List.flatMap_congr fun path hpath ↦ ?_
    rw [PathOperations.sorted, List.mergeSort_of_pairwise (hmethods path hpath)]
  have hidents : latestPet.endpoints.map latestPet.constructorIdent = ["get", "get"] := by
    decide +kernel
  have hnames : standard.constructorNames latestPet = .ok ["builder", "get", "get"] := by
    rw [constructorNames_eq rfl hkeys hids, hordered, hidents]
    rfl
  refine ⟨hnamed, hnames, fun hall ↦ ?_⟩
  have hnodup := hall standard latestPet _ rfl hkeys hids (hnamed ▸ List.nodup_singleton _)
    (by decide +kernel) hnames
  exact absurd hnodup (by decide)

end Generator

end TypestateBuilders
