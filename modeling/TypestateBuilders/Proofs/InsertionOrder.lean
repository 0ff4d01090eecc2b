import Mathlib.Data.List.Perm.Basic
import TypestateBuilders.Generator.Run
import TypestateBuilders.Proofs.Builders
import TypestateBuilders.Proofs.KeyOrder

/-!
# Insertion order does not matter

The paths of an object, and the methods at a path, come in tables with keys of their own
(`ApiObject.HasKeys`), in any order. What is generated depends on the entries of these tables alone,
not on their order (`Generator.insertion_order_irrelevant`).

An entry is an operation with the path and the method that it is found under (`Endpoint`). The
builders of an object are its own and one for each endpoint, in the strict order of paths and then
of methods, and each of them carries the rank of its path (`Generator.builders_eq`). Rearranging the
tables rearranges the endpoints (`ApiObject.Rearranged.perm_endpoints`), and there is only one way
to put them into strict order.
-/

set_option autoImplicit false
set_option relaxedAutoImplicit false

namespace TypestateBuilders

open Outcome

/-- Methods have the ranks of their places among all methods. -/
theorem HttpMethod.idxOf_all (method : HttpMethod) : all.idxOf method = method.rank := by
  cases method <;> rfl

theorem HttpMethod.rank_injective : Function.Injective HttpMethod.rank := by
  intro first second h
  cases first <;> cases second <;> first | rfl | exact absurd h (by decide)

/-! ### Endpoints -/

/-- An operation as it is found in the tables of an object. -/
structure Endpoint where
  /-- The path. -/
  path : String
  /-- The parameters of all operations at the path. -/
  shared : List Parameter
  /-- The method. -/
  method : HttpMethod
  /-- The operation under the path and the method. -/
  operation : Operation

namespace Endpoint

/-- Whether an endpoint comes before another one: at an earlier path, or at the same path under a
method that is declared earlier. -/
def Precedes (first second : Endpoint) : Prop :=
  Text.Before first.path second.path ∨ first.path = second.path ∧
    HttpMethod.all.idxOf first.method < HttpMethod.all.idxOf second.method

theorem Precedes.asymm {first second : Endpoint} (h : first.Precedes second) :
    ¬ second.Precedes first := by
  rintro (hpath | ⟨hpath, hmethod⟩)
  · rcases h with hbefore | ⟨hsame, _⟩
    · exact KeyOrder.before_asymm hbefore hpath
    · exact KeyOrder.before_irrefl _ (hsame ▸ hpath)
  · rcases h with hbefore | ⟨_, hbefore⟩
    · exact KeyOrder.before_irrefl _ (hpath ▸ hbefore)
    · exact lt_asymm hbefore hmethod

/-- The endpoints at a path, for some of its operations. -/
def atPath (path : String × PathOperations) (operations : List (HttpMethod × Operation)) :
    List Endpoint :=
  operations.map fun entry ↦ ⟨path.1, path.2.params, entry.1, entry.2⟩

theorem path_of_mem_atPath {path : String × PathOperations}
    {operations : List (HttpMethod × Operation)} {endpoint : Endpoint}
    (h : endpoint ∈ atPath path operations) : endpoint.path = path.1 := by
  obtain ⟨_, _, rfl⟩ := List.mem_map.mp h
  rfl

end Endpoint

namespace ApiObject

/-- No path occurs twice among the paths of an object, and no method among those of a path. -/
structure HasKeys (object : ApiObject) : Prop where
  paths : (Keyed.keys object.paths).Nodup
  methods : ∀ path ∈ object.paths, (Keyed.keys path.2.operations).Nodup

/-- The operations that address an object. -/
def endpoints (object : ApiObject) : List Endpoint :=
  object.paths.flatMap fun path ↦ Endpoint.atPath path path.2.operations

/-- The operations that address an object, in the order of their builders. -/
def orderedEndpoints (object : ApiObject) : List Endpoint :=
  object.sortedPaths.flatMap fun path ↦ Endpoint.atPath path path.2.sorted

/-- The number of paths of an object in front of a path. -/
def rank (object : ApiObject) (path : String) : Nat :=
  (Keyed.keys object.paths).countP fun other ↦ decide (Text.Before other path)

theorem perm_orderedEndpoints (object : ApiObject) :
    object.orderedEndpoints.Perm object.endpoints :=
  (List.mergeSort_perm object.paths _).flatMap fun path _ ↦
    (List.mergeSort_perm path.2.operations _).map _

variable {object : ApiObject}

theorem pairwise_sortedPaths (h : object.HasKeys) : object.sortedPaths.Pairwise
    fun first second ↦ KeyOrder.textKey first.1 < KeyOrder.textKey second.1 := by
  have hkeys := h.paths.map KeyOrder.textKey_injective
  rw [Keyed.keys, List.map_map] at hkeys
  exact KeyOrder.pairwise_lt_mergeSort (KeyOrder.compares_notAfter Prod.fst) hkeys

/-- The endpoints at a path are in the order of their methods. -/
theorem pairwise_atPath {path : String × PathOperations}
    (h : (Keyed.keys path.2.operations).Nodup) :
    (Endpoint.atPath path path.2.sorted).Pairwise Endpoint.Precedes := by
  have hranks : (path.2.operations.map fun entry ↦ entry.1.rank).Nodup := by
    have hmap := h.map HttpMethod.rank_injective
    rwa [Keyed.keys, List.map_map] at hmap
  have hcompares : KeyOrder.Compares (fun first second : HttpMethod × Operation ↦
      decide (first.1.rank ≤ second.1.rank)) fun entry ↦ entry.1.rank :=
    fun _ _ ↦ decide_eq_true_iff
  refine List.pairwise_map.mpr ((KeyOrder.pairwise_lt_mergeSort hcompares hranks).imp ?_)
  intro first second hrank
  refine Or.inr ⟨rfl, ?_⟩
  rwa [HttpMethod.idxOf_all, HttpMethod.idxOf_all]

/-- The endpoints of an object are strictly ordered. -/
theorem pairwise_orderedEndpoints (h : object.HasKeys) :
    object.orderedEndpoints.Pairwise Endpoint.Precedes := by
  refine List.pairwise_flatMap.mpr ⟨fun path hpath ↦ ?_, ?_⟩
  · exact pairwise_atPath (h.methods path (List.mem_mergeSort.mp hpath))
  · refine (pairwise_sortedPaths h).imp fun hbefore first hfirst second hsecond ↦ Or.inl ?_
    rw [Endpoint.path_of_mem_atPath hfirst, Endpoint.path_of_mem_atPath hsecond]
    exact KeyOrder.before_iff.mpr hbefore

/-- The places of the sorted paths are their ranks. -/
theorem zipIdx_sortedPaths (h : object.HasKeys) :
    object.sortedPaths.zipIdx = object.sortedPaths.map fun path ↦ (path, object.rank path.1) := by
  rw [KeyOrder.zipIdx_eq_map_rank (pairwise_sortedPaths h)]
  refine List.map_congr_left fun path _ ↦ ?_
  rw [sortedPaths, (List.mergeSort_perm object.paths _).countP_eq, rank, Keyed.keys,
    List.countP_map]
  simp only [KeyOrder.before_iff]
  rfl

end ApiObject

/-! ### Rearrangements -/

theorem perm_flatMap_of_forall₂ {α β γ : Type} {make : α → List γ} {make' : β → List γ}
    {list : List α} {others : List β}
    (h : List.Forall₂ (fun item other ↦ (make item).Perm (make' other)) list others) :
    (list.flatMap make).Perm (others.flatMap make') := by
  refine List.Perm.flatten_congr ?_
  rw [List.forall₂_map_left_iff, List.forall₂_map_right_iff]
  exact h

namespace ApiObject

/-- Whether two paths are the same up to the order of the methods at them. -/
def SamePath (path other : String × PathOperations) : Prop :=
  ∃ operations, path.2.operations.Perm operations ∧
    other = (path.1, { path.2 with operations := operations })

/-- Whether an object is another one with its paths, and the methods at each of them, in another
order. -/
def Rearranged (object other : ApiObject) : Prop :=
  ∃ middle paths, object.paths.Perm middle ∧ List.Forall₂ SamePath middle paths ∧
    other = { object with paths := paths }

/-- What an object is apart from the operations that address it. -/
def withoutPaths (object : ApiObject) : ApiObject :=
  { object with paths := [] }

namespace Rearranged

variable {object other : ApiObject}

theorem withoutPaths_eq (h : object.Rearranged other) :
    object.withoutPaths = other.withoutPaths := by
  obtain ⟨_, _, _, _, rfl⟩ := h
  rfl

theorem perm_keys (h : object.Rearranged other) :
    (Keyed.keys object.paths).Perm (Keyed.keys other.paths) := by
  obtain ⟨middle, paths, hperm, hsame, rfl⟩ := h
  have hkeys : Keyed.keys middle = Keyed.keys paths := by
    refine map_eq_of_forall₂ (hsame.imp ?_)
    rintro path _ ⟨_, _, rfl⟩
    rfl
  exact hkeys ▸ hperm.map Prod.fst

/-- A rearranged object has the same endpoints in another order. -/
theorem perm_endpoints (h : object.Rearranged other) : object.endpoints.Perm other.endpoints := by
  obtain ⟨middle, paths, hperm, hsame, rfl⟩ := h
  refine (hperm.flatMap_right _).trans (perm_flatMap_of_forall₂ (hsame.imp ?_))
  rintro path _ ⟨operations, hoperations, rfl⟩
  exact hoperations.map _

theorem rank_eq (h : object.Rearranged other) : object.rank = other.rank :=
  funext fun _ ↦ h.perm_keys.countP_eq _

theorem severalPaths_eq (h : object.Rearranged other) :
    Generator.severalPaths object = Generator.severalPaths other := by
  obtain ⟨middle, paths, hperm, hsame, rfl⟩ := h
  have hused : (middle.map fun path ↦ !path.2.operations.isEmpty) =
      paths.map fun path ↦ !path.2.operations.isEmpty := by
    refine map_eq_of_forall₂ (hsame.imp ?_)
    rintro path _ ⟨operations, hoperations, rfl⟩
    rw [hoperations.isEmpty_eq]
  have hcount := congrArg (List.countP id) hused
  rw [List.countP_map, List.countP_map] at hcount
  rw [Generator.severalPaths, Generator.severalPaths, hperm.countP_eq]
  exact congrArg (decide <| 1 < ·) hcount

theorem hasKeys (h : object.Rearranged other) (hkeys : object.HasKeys) : other.HasKeys := by
  refine ⟨h.perm_keys.nodup_iff.mp hkeys.paths, ?_⟩
  obtain ⟨middle, paths, hperm, hsame, rfl⟩ := h
  intro path hpath
  obtain ⟨former, hformer, operations, hoperations, rfl⟩ := exists_left_of_mem hsame hpath
  exact (hoperations.map Prod.fst).nodup_iff.mp (hkeys.methods former (hperm.mem_iff.mpr hformer))

/-- There is one strict order of the endpoints, whatever the order of the tables is. -/
theorem orderedEndpoints_eq (h : object.Rearranged other) (hkeys : object.HasKeys) :
    object.orderedEndpoints = other.orderedEndpoints := by
  have hperm : object.orderedEndpoints.Perm other.orderedEndpoints :=
    object.perm_orderedEndpoints.trans (h.perm_endpoints.trans other.perm_orderedEndpoints.symm)
  refine hperm.eq_of_pairwise (fun first second _ _ hbefore hafter ↦ ?_)
    (pairwise_orderedEndpoints hkeys) (pairwise_orderedEndpoints (h.hasKeys hkeys))
  exact absurd hafter hbefore.asymm

end Rearranged

end ApiObject

namespace Generator

/-- The builder of the operation at an endpoint. -/
def endpointBuilder (generator : Generator) (object : ApiObject) (endpoint : Endpoint) : Builder :=
  generator.operationBuilder object (object.rank endpoint.path) endpoint.path endpoint.shared
    endpoint.method endpoint.operation

/-- The builders of an object are its own and those of its endpoints, in order. -/
theorem builders_eq (generator : Generator) {object : ApiObject} (h : object.HasKeys) :
    generator.builders object =
      generator.objectBuilder object ::
        object.orderedEndpoints.map (generator.endpointBuilder object) := by
  rw [builders, ApiObject.zipIdx_sortedPaths h, List.flatMap_map, ApiObject.orderedEndpoints,
    List.map_flatMap]
  refine congrArg _ (List.flatMap_congr fun path _ ↦ ?_)
  rw [pathBuilders, Endpoint.atPath, List.map_map]
  rfl

section

variable {generator : Generator} {object other : ApiObject}

/-- A rearranged object has the same builders. -/
theorem builders_rearranged (generator : Generator) (h : object.Rearranged other)
    (hkeys : object.HasKeys) : generator.builders other = generator.builders object := by
  have hbuilder : generator.endpointBuilder object = generator.endpointBuilder other := by
    funext endpoint
    have hseveral := h.severalPaths_eq
    have hrank := h.rank_eq
    obtain ⟨_, _, _, _, rfl⟩ := h
    rw [endpointBuilder, endpointBuilder, operationBuilder, operationBuilder, hseveral, hrank]
    rfl
  have hobject : generator.objectBuilder object = generator.objectBuilder other := by
    obtain ⟨_, _, _, _, rfl⟩ := h
    rfl
  rw [builders_eq generator hkeys, builders_eq generator (h.hasKeys hkeys), hobject, hbuilder,
    h.orderedEndpoints_eq hkeys]

theorem renderWhole_rearranged (h : object.Rearranged other) (hkeys : object.HasKeys) :
    generator.renderWhole other = generator.renderWhole object := by
  have hbuilders := builders_rearranged generator h hkeys
  obtain ⟨_, _, _, _, rfl⟩ := h
  rw [renderWhole, renderWhole, hbuilders]
  rfl

theorem objectMarkerNames_rearranged (h : object.Rearranged other) (hkeys : object.HasKeys) :
    generator.objectMarkerNames other = generator.objectMarkerNames object := by
  have hbuilders := builders_rearranged generator h hkeys
  obtain ⟨_, _, _, _, rfl⟩ := h
  rw [objectMarkerNames, objectMarkerNames, hbuilders]
  rfl

theorem checkObject_rearranged (h : object.Rearranged other) (hkeys : object.HasKeys) :
    generator.checkObject other = generator.checkObject object := by
  have hbuilders := builders_rearranged generator h hkeys
  obtain ⟨_, _, _, _, rfl⟩ := h
  rw [checkObject, checkObject, hbuilders]
  rfl

end

/-! ### Runs -/

/-- The names that are doubtful do not depend on operations. -/
theorem checkNames_eq (objects : List ApiObject) :
    checkNames objects = checkNames (objects.map ApiObject.withoutPaths) := by
  have hnames : (objects.map ApiObject.withoutPaths).map ApiObject.name =
      objects.map ApiObject.name := by
    rw [List.map_map]
    rfl
  rw [checkNames, checkNames, hnames, List.filter_map, List.map_map]
  rfl

/-- The operations of a run are counted by endpoints. -/
theorem operationCount_eq (objects : List ApiObject) :
    operationCount objects = (objects.flatMap ApiObject.endpoints).length := by
  simp only [operationCount, ApiObject.endpoints, Endpoint.atPath, List.length_flatMap,
    List.length_map]

section

variable {objects others : List ApiObject}

/-- What is read of objects apart from their paths is the same for their rearrangements. -/
theorem map_eq_of_withoutPaths {α : Type} {read : ApiObject → α}
    (hread : ∀ object, read object = read object.withoutPaths)
    (h : List.Forall₂ ApiObject.Rearranged objects others) : objects.map read = others.map read :=
  map_eq_of_forall₂ (h.imp fun object other hother ↦ by
    rw [hread object, hother.withoutPaths_eq, ← hread other])

/-- Objects and their rearrangements, with keys of their own. -/
theorem forall₂_hasKeys (h : List.Forall₂ ApiObject.Rearranged objects others)
    (hkeys : ∀ object ∈ objects, object.HasKeys) :
    List.Forall₂ (fun object other ↦ object.HasKeys ∧ object.Rearranged other) objects others :=
  (List.forall₂_and_left _ _).mpr ⟨hkeys, h⟩

variable (generator : Generator)

theorem generate_rearranged (h : List.Forall₂ ApiObject.Rearranged objects others)
    (hkeys : ∀ object ∈ objects, object.HasKeys) :
    generator.generate others = generator.generate objects := by
  have hboth := forall₂_hasKeys h hkeys
  have hsources : objects.mapM generator.renderWhole = others.mapM generator.renderWhole :=
    mapM_congr (hboth.imp fun _ _ ⟨hkeys, h⟩ ↦ (renderWhole_rearranged h hkeys).symm)
  have hmarkers : objects.mapM generator.objectMarkerNames =
      others.mapM generator.objectMarkerNames :=
    mapM_congr (hboth.imp fun _ _ ⟨hkeys, h⟩ ↦ (objectMarkerNames_rearranged h hkeys).symm)
  have hnames : objects.map ApiObject.name = others.map ApiObject.name :=
    map_eq_of_withoutPaths (fun _ ↦ rfl) h
  unfold generate generateBuilders markerNames
  rw [hsources, hmarkers, hnames]

theorem check_rearranged (h : List.Forall₂ ApiObject.Rearranged objects others)
    (hkeys : ∀ object ∈ objects, object.HasKeys) :
    generator.check others = generator.check objects := by
  have hfound : objects.mapM generator.checkObject = others.mapM generator.checkObject :=
    mapM_congr ((forall₂_hasKeys h hkeys).imp fun _ _ ⟨hkeys, h⟩ ↦
      (checkObject_rearranged h hkeys).symm)
  have hrest : objects.map ApiObject.withoutPaths = others.map ApiObject.withoutPaths :=
    map_eq_of_withoutPaths (fun _ ↦ rfl) h
  unfold check
  rw [hfound, checkNames_eq objects, hrest, ← checkNames_eq]

theorem metadata_rearranged (h : List.Forall₂ ApiObject.Rearranged objects others) :
    generator.metadata others = generator.metadata objects := by
  have hcount : operationCount others = operationCount objects := by
    rw [operationCount_eq, operationCount_eq]
    exact (perm_flatMap_of_forall₂
      (h.imp fun _ _ ↦ ApiObject.Rearranged.perm_endpoints)).length_eq.symm
  have hneeds : objects.map ApiObject.needsAny = others.map ApiObject.needsAny :=
    map_eq_of_withoutPaths (fun _ ↦ rfl) h
  have hany : others.any ApiObject.needsAny = objects.any ApiObject.needsAny := by
    have hall := congrArg (List.any · id) hneeds
    rw [List.any_map, List.any_map] at hall
    exact hall.symm
  rw [metadata, metadata, hcount, hany, h.length_eq]

/-- The builders with a method are those of operations. -/
theorem length_operationBuilders (hkeys : ∀ object ∈ objects, object.HasKeys) :
    ((objects.flatMap generator.builders).filter fun builder ↦ builder.method.isSome).length =
      operationCount objects := by
  have hobject : ∀ object ∈ objects,
      ((generator.builders object).filter fun builder ↦ builder.method.isSome).length =
        object.endpoints.length := by
    intro object hobject
    have hall : ∀ builder ∈ object.orderedEndpoints.map (generator.endpointBuilder object),
        builder.method.isSome = true := by
      intro builder hbuilder
      obtain ⟨endpoint, _, rfl⟩ := List.mem_map.mp hbuilder
      rfl
    rw [builders_eq generator (hkeys object hobject), List.filter_cons_of_neg Bool.false_ne_true,
      List.filter_eq_self.mpr hall, List.length_map, object.perm_orderedEndpoints.length_eq]
  rw [operationCount_eq, List.filter_flatMap, List.length_flatMap, List.length_flatMap,
    List.map_congr_left hobject]

end

/-- The order of the paths of an object, and of the methods at a path, changes nothing: neither the
builders of the object, nor the source of a run, what is doubtful about it, the facts about it, or
how it ends and what it reports. The builders of an object are its own and one for each operation
that addresses it, in the strict order of paths and then of methods, each with the rank of its path
among all paths of the object. There are as many builders of operations as the run counts. -/
theorem insertion_order_irrelevant (generator : Generator) {objects others : List ApiObject}
    (hkeys : ∀ object ∈ objects, object.HasKeys)
    (h : List.Forall₂ ApiObject.Rearranged objects others) :
    List.Forall₂ (fun object other ↦ generator.builders other = generator.builders object) objects
      others ∧
    generator.generate others = generator.generate objects ∧
    generator.check others = generator.check objects ∧
    generator.metadata others = generator.metadata objects ∧
    generator.run others = generator.run objects ∧
    (∀ object ∈ objects, ∃ ordered : List Endpoint,
      ordered.Perm object.endpoints ∧ ordered.Pairwise Endpoint.Precedes ∧
        generator.builders object =
          generator.objectBuilder object :: ordered.map (generator.endpointBuilder object)) ∧
    ((objects.flatMap generator.builders).filter fun builder ↦ builder.method.isSome).length =
      (generator.metadata objects).operationCount := by
  have hgenerate := generate_rearranged generator h hkeys
  have hcheck := check_rearranged generator h hkeys
  have hmetadata := metadata_rearranged generator h
  refine ⟨(forall₂_hasKeys h hkeys).imp fun _ _ ⟨hkeys, h⟩ ↦ builders_rearranged generator h hkeys,
    hgenerate, hcheck, hmetadata, ?_, fun object hobject ↦ ?_,
    length_operationBuilders generator hkeys⟩
  · rw [run, run, produce, produce, hgenerate, hcheck, hmetadata]
  · exact ⟨object.orderedEndpoints, object.perm_orderedEndpoints,
      ApiObject.pairwise_orderedEndpoints (hkeys object hobject),
      builders_eq generator (hkeys object hobject)⟩

/-- A pet that is listed and registered at one path, and listed at another one. -/
def addressedPet : ApiObject where
  name := "Pet"
  fields := [{ name := "name", tyPath := "String", isRequired := true }]
  paths :=
    [("/pets", { operations := [(.post, { bodyRequired := true }), (.get, { listable := true })] }),
      ("/litters", { operations := [(.get, {})] })]

/-- The same pet with its tables in another order. -/
def rearrangedPet : ApiObject :=
  { addressedPet with
    paths :=
      [("/litters", { operations := [(.get, {})] }),
        ("/pets",
          { operations := [(.get, { listable := true }), (.post, { bodyRequired := true })] })] }

theorem insertion_order_irrelevant_rearrangedPet :
    (∀ object ∈ [addressedPet], object.HasKeys) ∧
      List.Forall₂ ApiObject.Rearranged [addressedPet] [rearrangedPet] ∧
      standard.builders rearrangedPet = standard.builders addressedPet ∧
      standard.run [rearrangedPet] = standard.run [addressedPet] ∧
      ((standard.builders addressedPet).filter fun builder ↦ builder.method.isSome).length = 3 := by
  have hkeys : ∀ object ∈ [addressedPet], object.HasKeys :=
    List.forall_mem_singleton.mpr ⟨by decide, by decide⟩
  have hrearranged : addressedPet.Rearranged rearrangedPet :=
    ⟨_, _, List.Perm.swap ..,
      .cons ⟨_, List.Perm.refl _, rfl⟩ (.cons ⟨_, List.Perm.swap .., rfl⟩ .nil), rfl⟩
  have hobjects := List.Forall₂.cons hrearranged List.Forall₂.nil
  obtain ⟨hbuilders, _, _, _, hrun, _, hcount⟩ :=
    insertion_order_irrelevant standard hkeys hobjects
  rw [List.flatMap_singleton] at hcount
  exact ⟨hkeys, hobjects, (List.forall₂_cons.mp hbuilders).1, hrun, hcount⟩

end Generator

end TypestateBuilders
