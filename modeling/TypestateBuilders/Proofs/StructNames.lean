import TypestateBuilders.Proofs.BuilderStruct
import TypestateBuilders.Proofs.InsertionOrder
import TypestateBuilders.Proofs.Reinterpretation

/-!
# Names of structs

A builder struct is named after its object, the method, the word `Builder` and the number of the
path (`structName`). The digits of the number stay apart from the letters in front of them, so a
name gives away its number, and its method if the object is known. No name of a builder struct is
that of a container, since no word ends in both `Builder` and `Container`. The number of a path
gives away the path. So the structs of one object have names of their own
(`Generator.struct_names_unique`).

Two objects can share the name of a struct. This happens exactly if one is named like a struct of
the other, or like the other with a method behind it that has an operation at the first path of the
other (`Generator.disjoint_structNames_iff`, `Generator.exists_shared_structName`).
-/

set_option autoImplicit false
set_option relaxedAutoImplicit false

namespace TypestateBuilders

open Template

/-! ### Texts that are told apart by their ends -/

/-- Whether a text has no character of some kind at its end. -/
def EndsOutside (p : Char → Bool) (text : String) : Prop :=
  text.toList.getLast?.any p = false

instance (p : Char → Bool) (text : String) : Decidable (EndsOutside p text) :=
  inferInstanceAs (Decidable (text.toList.getLast?.any p = false))

/-- What stands in front of an ending does not matter to it. -/
theorem EndsOutside.append {p : Char → Bool} {ending : String} (h : EndsOutside p ending)
    (hending : ending.toList ≠ []) (text : String) : EndsOutside p (text ++ ending) := by
  unfold EndsOutside
  rwa [String.toList_append, List.getLast?_append_of_ne_nil _ hending]

/-- Characters of some kind are not at the end of a text that does not end in one. -/
theorem EndsOutside.eq_nil_of_append {p : Char → Bool} {text : String} (h : EndsOutside p text)
    {front between : List Char} (hsplit : text.toList = front ++ between)
    (hbetween : ∀ c ∈ between, p c = true) : between = [] := by
  rcases List.eq_nil_or_concat' between with rfl | ⟨initial, last, rfl⟩
  · rfl
  · have hkind : p last = true := hbetween last (by simp)
    unfold EndsOutside at h
    rw [hsplit, ← List.append_assoc, List.getLast?_concat, Option.any_some, hkind] at h
    cases h

/-- Texts that do not end in a character of some kind, with characters of this kind behind them, are
the same only part by part. -/
theorem append_eq_append_iff_of_endsOutside {p : Char → Bool} {first second ending other : String}
    (hfirst : EndsOutside p first) (hsecond : EndsOutside p second)
    (hending : ∀ c ∈ ending.toList, p c = true) (hother : ∀ c ∈ other.toList, p c = true) :
    first ++ ending = second ++ other ↔ first = second ∧ ending = other := by
  constructor
  · intro h
    have hlists := congrArg String.toList h
    rw [String.toList_append, String.toList_append] at hlists
    -- what one ending has in front of the other one is the end of a text
    rcases List.append_eq_append_iff.mp hlists with
      ⟨between, hsplit, hrest⟩ | ⟨between, hsplit, hrest⟩
    · obtain rfl := hsecond.eq_nil_of_append hsplit fun c hc ↦
        hending c (hrest ▸ List.mem_append_left _ hc)
      rw [List.append_nil] at hsplit
      exact ⟨(String.toList_inj.mp hsplit).symm, String.toList_inj.mp hrest⟩
    · obtain rfl := hfirst.eq_nil_of_append hsplit fun c hc ↦
        hother c (hrest ▸ List.mem_append_left _ hc)
      rw [List.append_nil] at hsplit
      exact ⟨String.toList_inj.mp hsplit, (String.toList_inj.mp hrest).symm⟩
  · rintro ⟨rfl, rfl⟩
    rfl

/-- A number as it stands behind a name: zero is left out. -/
def numberText (number : ℕ) : String :=
  if 0 < number then toString number else ""

theorem isDigit_of_mem_numberText {number : ℕ} {c : Char} (h : c ∈ (numberText number).toList) :
    c.isDigit = true := by
  unfold numberText at h
  split_ifs at h
  · rw [Nat.toString_eq_repr, Nat.toList_repr] at h
    exact Nat.isDigit_of_mem_toDigits (by decide) (by decide) h
  · cases h

theorem numberText_injective : Function.Injective numberText := by
  intro first second h
  unfold numberText at h
  simp only [Nat.toString_eq_repr] at h
  split_ifs at h with hfirst hsecond hsecond
  · have hdigits : Nat.toDigits 10 first = Nat.toDigits 10 second := by
      rw [← Nat.toList_repr, ← Nat.toList_repr, h]
    rw [← Nat.ofDigitChars_ten_toDigits (n := first), hdigits, Nat.ofDigitChars_ten_toDigits]
  · exact absurd h Nat.repr_ne_empty
  · exact absurd h.symm Nat.repr_ne_empty
  · omega

theorem isPositive_number (number : ℕ) : (Value.int number).isPositive = decide (0 < number) :=
  decide_eq_decide.mpr Int.natCast_pos

theorem display_number (number : ℕ) : (Value.int number).display = toString number := by
  rw [Value.display, Value.literal]
  · rfl
  · exact fun _ h ↦ Value.noConfusion h

/-- The number of a path stands behind a name. -/
theorem numberText_eq (number : ℕ) :
    (if (Value.int number).isPositive then (Value.int number).display else "") =
      numberText number := by
  rw [isPositive_number, display_number, numberText]
  simp only [decide_eq_true_iff]

/-! ### The name of a builder struct -/

/-- What the method adds to the name of a builder struct. -/
def methodText (method : Option HttpMethod) : String :=
  (method.map HttpMethod.name).getD ""

/-- The name of a builder struct: the object, the method if there is one, and the number of the path
if it is above zero. -/
def structName (object : String) (method : Option HttpMethod) (number : ℕ) : String :=
  object ++ methodText method ++ "Builder" ++ numberText number

/-- The name of a method does not end in that of another one. -/
theorem HttpMethod.eq_of_suffix {first second : HttpMethod}
    (h : first.name.toList <:+ second.name.toList) : first = second := by
  cases first <;> cases second <;> first | rfl | exact absurd h (by decide)

theorem HttpMethod.name_ne_empty (method : HttpMethod) : method.name ≠ "" := by
  cases method <;> decide

theorem methodText_injective : Function.Injective methodText := by
  intro first second h
  rcases first with _ | first <;> rcases second with _ | second
  · rfl
  · exact absurd h.symm second.name_ne_empty
  · exact absurd h first.name_ne_empty
  · have hsuffix : first.name.toList <:+ second.name.toList :=
      ⟨[], congrArg String.toList h⟩
    rw [HttpMethod.eq_of_suffix hsuffix]

theorem endsOutside_builder (text : String) : EndsOutside Char.isDigit (text ++ "Builder") :=
  EndsOutside.append (by decide) (by decide) text

theorem endsOutside_container (text : String) : EndsOutside Char.isDigit (text ++ "Container") :=
  EndsOutside.append (by decide) (by decide) text

/-- A name of a builder struct gives away its number. -/
theorem structName_eq_iff {object other : String} {method method' : Option HttpMethod}
    {number number' : ℕ} :
    structName object method number = structName other method' number' ↔
      object ++ methodText method = other ++ methodText method' ∧ number = number' := by
  unfold structName
  rw [append_eq_append_iff_of_endsOutside (endsOutside_builder _) (endsOutside_builder _)
    (fun _ ↦ isDigit_of_mem_numberText) (fun _ ↦ isDigit_of_mem_numberText),
    String.append_left_inj, numberText_injective.eq_iff]

/-- Builder structs of different objects share a name only if one of the objects is named like the
other with the method behind it. -/
theorem append_methodText_eq_iff {object other : String} {method method' : Option HttpMethod}
    (h : object ≠ other) :
    object ++ methodText method = other ++ methodText method' ↔
      (method = none ∧ ∃ name, method' = some name ∧ object = other ++ name.name) ∨
        (method' = none ∧ ∃ name, method = some name ∧ other = object ++ name.name) := by
  have hnone : methodText none = "" := rfl
  have hsome : ∀ name : HttpMethod, methodText (some name) = name.name := fun _ ↦ rfl
  rcases method with _ | method <;> rcases method' with _ | method'
  · simp [hnone, h]
  · simp [hnone, hsome]
  · simp [hnone, hsome, eq_comm]
  · have hne : object ++ method.name ≠ other ++ method'.name := by
      intro hsame
      have hfirst : method.name.toList <:+ (object ++ method.name).toList :=
        ⟨object.toList, String.toList_append.symm⟩
      have hsecond : method'.name.toList <:+ (object ++ method.name).toList :=
        ⟨other.toList, by rw [hsame, String.toList_append]⟩
      have hmethod : method = method' := by
        rcases List.suffix_or_suffix_of_suffix hfirst hsecond with hsuffix | hsuffix
        · exact HttpMethod.eq_of_suffix hsuffix
        · exact (HttpMethod.eq_of_suffix hsuffix).symm
      rw [hmethod] at hsame
      exact h ((String.append_left_inj _).mp hsame)
    simp [hsome, hne]

/-- No name of a builder struct is that of a container. -/
theorem structName_ne_container {object : String} {method : Option HttpMethod} {number : ℕ}
    (other : String) : structName object method number ≠ other ++ "Container" := by
  intro h
  have hparts : object ++ methodText method ++ "Builder" ++ numberText number =
      other ++ "Container" ++ numberText 0 := h.trans String.append_empty.symm
  obtain ⟨hsame, _⟩ := (append_eq_append_iff_of_endsOutside (endsOutside_builder _)
    (endsOutside_container other) (fun _ ↦ isDigit_of_mem_numberText)
    fun _ ↦ isDigit_of_mem_numberText).mp hparts
  have hbuilder : "Builder".toList <:+ (other ++ "Container").toList :=
    ⟨(object ++ methodText method).toList, by rw [← hsame, ← String.toList_append]⟩
  have hends : "Container".toList <:+ (other ++ "Container").toList :=
    ⟨other.toList, String.toList_append.symm⟩
  exact absurd (List.suffix_of_suffix_length_le hbuilder hends (by decide)) (by decide)

/-- An object is not named like one of its builder structs, or like its container. -/
theorem ne_structName_append (object : String) (method : Option HttpMethod) (number : ℕ)
    (ending : String) : object ≠ structName object method number ++ ending := by
  intro h
  have hlength := congrArg String.length h
  have hbuilder : "Builder".length = 7 := rfl
  unfold structName at hlength
  simp only [String.length_append, hbuilder] at hlength
  omega

/-! ### Endpoints -/

namespace ApiObject

variable {object : ApiObject}

/-- A path is found among the sorted ones at the place of its rank. -/
theorem getElem?_rank (h : object.HasKeys) {path : String × PathOperations}
    (hpath : path ∈ object.paths) : object.sortedPaths[object.rank path.1]? = some path := by
  have hmem : (path, object.rank path.1) ∈ object.sortedPaths.zipIdx := by
    rw [zipIdx_sortedPaths h]
    exact List.mem_map_of_mem (List.mem_mergeSort.mpr hpath)
  exact List.mem_zipIdx_iff_getElem?.mp hmem

theorem exists_path_of_mem_endpoints {endpoint : Endpoint} (h : endpoint ∈ object.endpoints) :
    ∃ path ∈ object.paths, endpoint.path = path.1 := by
  obtain ⟨path, hpath, hendpoint⟩ := List.mem_flatMap.mp h
  exact ⟨path, hpath, Endpoint.path_of_mem_atPath hendpoint⟩

/-- The ranks of paths tell them apart. -/
theorem path_eq_of_rank_eq (h : object.HasKeys) {first second : Endpoint}
    (hfirst : first ∈ object.endpoints) (hsecond : second ∈ object.endpoints)
    (hrank : object.rank first.path = object.rank second.path) : first.path = second.path := by
  obtain ⟨path, hpath, hat⟩ := exists_path_of_mem_endpoints hfirst
  obtain ⟨other, hother, hat'⟩ := exists_path_of_mem_endpoints hsecond
  have hplace := getElem?_rank h hpath
  rw [← hat, hrank, hat', getElem?_rank h hother] at hplace
  rw [hat, hat', Option.some.inj hplace]

theorem nodup_map_key (h : object.HasKeys) :
    (object.orderedEndpoints.map fun endpoint ↦ (endpoint.path, endpoint.method)).Nodup := by
  refine List.pairwise_map.mpr ((pairwise_orderedEndpoints h).imp ?_)
  intro before after hprecedes hsame
  obtain ⟨hpath, hmethod⟩ := Prod.mk.inj hsame
  rcases hprecedes with hlt | ⟨_, hlt⟩
  · exact KeyOrder.before_irrefl _ (hpath ▸ hlt)
  · exact absurd hlt (hmethod ▸ lt_irrefl _)

/-- The path and the method of an endpoint tell it apart from the others. -/
theorem eq_of_same_key (h : object.HasKeys) {first second : Endpoint}
    (hfirst : first ∈ object.endpoints) (hsecond : second ∈ object.endpoints)
    (hpath : first.path = second.path) (hmethod : first.method = second.method) :
    first = second := by
  have hperm := object.perm_orderedEndpoints
  exact List.inj_on_of_nodup_map (nodup_map_key h) (hperm.mem_iff.mpr hfirst)
    (hperm.mem_iff.mpr hsecond) (Prod.ext hpath hmethod)

theorem nodup_endpoints (h : object.HasKeys) : object.endpoints.Nodup :=
  object.perm_orderedEndpoints.nodup_iff.mp ((nodup_map_key h).of_map _)

end ApiObject

/-! ### The structs of one object -/

/-- Whether an object has an operation with a method at the path with a number. -/
def ApiObject.HasOperationAt (object : ApiObject) (number : ℕ) (method : HttpMethod) : Prop :=
  ∃ path operation, object.sortedPaths[number]? = some path ∧
    (method, operation) ∈ path.2.operations

namespace Generator

variable {generator : Generator} {object : ApiObject} {builder : Builder}

theorem name_objectBuilder (generator : Generator) (object : ApiObject) :
    (generator.objectBuilder object).name = structName object.name none 0 := rfl

theorem name_operationBuilder (generator : Generator) (object : ApiObject) (index : ℕ)
    (relPath : String) (shared : List Parameter) (method : HttpMethod) (operation : Operation) :
    (generator.operationBuilder object index relPath shared method operation).name =
      structName object.name (some method) index :=
  congrArg (object.name ++ method.name ++ "Builder" ++ ·) (numberText_eq index)

theorem name_endpointBuilder (generator : Generator) (object : ApiObject) (endpoint : Endpoint) :
    (generator.endpointBuilder object endpoint).name =
      structName object.name (some endpoint.method) (object.rank endpoint.path) :=
  generator.name_operationBuilder ..

/-- The name of a builder struct has no method and no number, or it has the method of an operation
and the number of its path. -/
theorem exists_structName (h : builder ∈ generator.builders object) :
    ∃ method number, builder.name = structName object.name method number ∧
      (method = none → number = 0) ∧
        ∀ name, method = some name → object.HasOperationAt number name := by
  rcases mem_builders_iff.mp h with
    rfl | ⟨index, path, _, method, operation, hoperation, hpath, rfl⟩
  · refine ⟨none, 0, generator.name_objectBuilder object, fun _ ↦ rfl, fun _ hnone ↦ ?_⟩
    cases hnone
  · refine ⟨some method, index, generator.name_operationBuilder .., fun hnone ↦ ?_, ?_⟩
    · cases hnone
    · rintro _ ⟨⟩
      exact ⟨path, operation, hpath, hoperation⟩

theorem name_ne_containerName {other : Builder} (h : builder ∈ generator.builders object) :
    builder.name ≠ other.containerName := by
  obtain ⟨method, number, hname, _⟩ := exists_structName h
  rw [hname, Builder.containerName]
  exact structName_ne_container _

/-- An object is not named like one of its builder structs, or like a container of them. -/
theorem ne_name_append (h : builder ∈ generator.builders object) (ending : String) :
    object.name ≠ builder.name ++ ending := by
  obtain ⟨method, number, hname, _⟩ := exists_structName h
  rw [hname]
  exact ne_structName_append object.name method number ending

/-- The name of an object's own builder struct has no method in it. -/
theorem name_objectBuilder_ne (generator : Generator) (object : ApiObject) (endpoint : Endpoint) :
    (generator.objectBuilder object).name ≠ (generator.endpointBuilder object endpoint).name := by
  rw [name_objectBuilder, name_endpointBuilder, Ne, structName_eq_iff, String.append_right_inj,
    methodText_injective.eq_iff]
  rintro ⟨hnone, _⟩
  cases hnone

/-- The names of builder structs tell endpoints apart. -/
theorem eq_of_name_endpointBuilder (h : object.HasKeys) {first second : Endpoint}
    (hfirst : first ∈ object.endpoints) (hsecond : second ∈ object.endpoints)
    (hname : (generator.endpointBuilder object first).name =
      (generator.endpointBuilder object second).name) : first = second := by
  rw [name_endpointBuilder, name_endpointBuilder, structName_eq_iff, String.append_right_inj,
    methodText_injective.eq_iff, Option.some_inj] at hname
  exact ApiObject.eq_of_same_key h hfirst hsecond
    (ApiObject.path_eq_of_rank_eq h hfirst hsecond hname.2) hname.1

theorem nodup_map_name (generator : Generator) (h : object.HasKeys) :
    ((generator.builders object).map Builder.name).Nodup := by
  rw [builders_eq generator h, List.map_cons, List.map_map, List.nodup_cons]
  constructor
  · intro hmem
    obtain ⟨endpoint, _, hname⟩ := List.mem_map.mp hmem
    exact generator.name_objectBuilder_ne object endpoint hname.symm
  · refine (object.perm_orderedEndpoints.map _).nodup_iff.mpr ?_
    exact (ApiObject.nodup_endpoints h).map_on fun first hfirst second hsecond hname ↦
      eq_of_name_endpointBuilder h hfirst hsecond hname

/-- The names of an object, of its builder structs and of their containers do not repeat. -/
theorem nodup_cons_map_name (generator : Generator) (h : object.HasKeys) :
    (object.name :: ((generator.builders object).map Builder.name ++
      (generator.builders object).map Builder.containerName)).Nodup := by
  have hnames := generator.nodup_map_name h
  have hcontainers : ((generator.builders object).map Builder.containerName).Nodup := by
    have hinjective : Function.Injective fun name : String ↦ name ++ "Container" :=
      fun _ _ hsame ↦ (String.append_left_inj _).mp hsame
    have hmap := hnames.map hinjective
    rwa [List.map_map] at hmap
  refine List.nodup_cons.mpr ⟨?_, hnames.append hcontainers ?_⟩
  · rw [List.mem_append, List.mem_map, List.mem_map]
    rintro (⟨builder, hbuilder, hname⟩ | ⟨builder, hbuilder, hname⟩)
    · exact ne_name_append hbuilder "" (hname.symm.trans String.append_empty.symm)
    · exact ne_name_append hbuilder "Container" hname.symm
  · intro name hname hcontainer
    obtain ⟨builder, hbuilder, rfl⟩ := List.mem_map.mp hname
    obtain ⟨other, _, hsame⟩ := List.mem_map.mp hcontainer
    exact name_ne_containerName hbuilder hsame.symm

/-- The structs of an object have names of their own: the object, its builders, and their
containers, whether they are needed or not. The builders are the object's own and one for each
operation that addresses it, and those of operations share a name only if they are those of one
operation, found under one path and one method. -/
theorem struct_names_unique (generator : Generator) {object : ApiObject} (h : object.HasKeys) :
    (object.name :: ((generator.builders object).map Builder.name ++
      (generator.builders object).map Builder.containerName)).Nodup ∧
    (∃ ordered : List Endpoint, ordered.Perm object.endpoints ∧
      generator.builders object =
        generator.objectBuilder object :: ordered.map (generator.endpointBuilder object)) ∧
    ∀ first ∈ object.endpoints,
      (generator.objectBuilder object).name ≠ (generator.endpointBuilder object first).name ∧
      ∀ second ∈ object.endpoints, (generator.endpointBuilder object first).name =
        (generator.endpointBuilder object second).name → first = second := by
  refine ⟨generator.nodup_cons_map_name h,
    ⟨object.orderedEndpoints, object.perm_orderedEndpoints, builders_eq generator h⟩, ?_⟩
  intro first hfirst
  refine ⟨generator.name_objectBuilder_ne object first, ?_⟩
  intro second hsecond hname
  exact eq_of_name_endpointBuilder h hfirst hsecond hname

theorem struct_names_unique_addressedPet :
    addressedPet.HasKeys ∧
      ("Pet" :: ((standard.builders addressedPet).map Builder.name ++
        (standard.builders addressedPet).map Builder.containerName)).Nodup ∧
      (standard.endpointBuilder addressedPet ⟨"/litters", [], .get, {}⟩).name = "PetGetBuilder" ∧
      (standard.endpointBuilder addressedPet ⟨"/pets", [], .get, { listable := true }⟩).name =
        "PetGetBuilder1" := by
  have hkeys : addressedPet.HasKeys := ⟨by decide, by decide⟩
  obtain ⟨hnames, _, _⟩ := struct_names_unique standard hkeys
  exact ⟨hkeys, hnames, by decide +kernel, by decide +kernel⟩

end Generator

/-! ### The structs of two objects -/

/-- The names of the structs of a builder: its own, and that of the container if it needs one. -/
def Builder.structNames (builder : Builder) : List String :=
  builder.name :: if builder.needsContainer then [builder.containerName] else []

/-- The structs that are written for a builder have these names. -/
theorem Builder.map_name_structDeclarations {builder : Builder} {layout : Layout}
    (h : builder.layout = .ok layout) (headline : String) :
    (builder.structDeclarations headline layout).map StructDeclaration.name =
      builder.structNames := by
  unfold structDeclarations structNames
  rw [(layout_eq_layoutOf h).1, layoutOf]
  cases builder.needsContainer <;> rfl

/-- Whether an object is named like another one with a method behind it, under which there is an
operation at the first path of the other object. -/
def ApiObject.IsNamedAfterOperation (object other : ApiObject) : Prop :=
  ∃ method, object.name = other.name ++ method.name ∧ other.HasOperationAt 0 method

namespace Generator

/-- The names of the structs of the builders of an object. -/
def builderStructNames (generator : Generator) (object : ApiObject) : List String :=
  (generator.builders object).flatMap Builder.structNames

/-- The names of the structs of an object: its own, and those of its builders. -/
def structNames (generator : Generator) (object : ApiObject) : List String :=
  object.name :: generator.builderStructNames object

variable {generator : Generator} {first second : ApiObject}

theorem mem_builderStructNames_iff {object : ApiObject} {name : String} :
    name ∈ generator.builderStructNames object ↔
      ∃ builder ∈ generator.builders object, name = builder.name ∨
        builder.needsContainer = true ∧ name = builder.containerName := by
  unfold builderStructNames Builder.structNames
  simp

/-- The names of the builder structs of an object open with its name. -/
theorem prefix_of_mem_builderStructNames {object : ApiObject} {name : String}
    (h : name ∈ generator.builderStructNames object) : object.name.toList <+: name.toList := by
  obtain ⟨builder, hbuilder, hname⟩ := mem_builderStructNames_iff.mp h
  obtain ⟨method, number, hbuilderName, _⟩ := exists_structName hbuilder
  have hopen : object.name.toList <+: builder.name.toList := by
    rw [hbuilderName, structName]
    simp only [String.toList_append, List.append_assoc, List.prefix_append]
  rcases hname with rfl | ⟨_, rfl⟩
  · exact hopen
  · rw [Builder.containerName, String.toList_append]
    exact hopen.trans (List.prefix_append ..)

/-- An operation at the first path of an object has a builder struct without a number. -/
theorem structName_mem_builderStructNames {object : ApiObject} {method : HttpMethod}
    (h : object.HasOperationAt 0 method) :
    structName object.name (some method) 0 ∈ generator.builderStructNames object := by
  obtain ⟨path, operation, hpath, hoperation⟩ := h
  have hmem : path ∈ object.paths :=
    List.mem_mergeSort.mp (List.mem_iff_getElem?.mpr ⟨0, hpath⟩)
  refine mem_builderStructNames_iff.mpr ⟨_, mem_builders_iff.mpr
    (Or.inr ⟨0, path, hmem, method, operation, hoperation, hpath, rfl⟩), Or.inl ?_⟩
  exact (generator.name_operationBuilder ..).symm

/-- An object that is named after an operation of another one has a builder struct of its own with
the name of that operation's. -/
theorem exists_shared_of_isNamedAfterOperation (h : first.IsNamedAfterOperation second) :
    ∃ name ∈ generator.builderStructNames first, name ∈ generator.builderStructNames second := by
  obtain ⟨method, hname, hoperation⟩ := h
  have hsame : structName first.name none 0 = structName second.name (some method) 0 :=
    structName_eq_iff.mpr ⟨hname ▸ String.append_empty, rfl⟩
  have hown : structName first.name none 0 ∈ generator.builderStructNames first :=
    mem_builderStructNames_iff.mpr ⟨_, generator.objectBuilder_mem_builders first, Or.inl rfl⟩
  exact ⟨_, hown, hsame ▸ structName_mem_builderStructNames hoperation⟩

/-- If builder structs of objects with different names share a name, then one of the objects is
named after an operation of the other. -/
theorem isNamedAfterOperation_of_name_eq (hne : first.name ≠ second.name) {builder other : Builder}
    (hbuilder : builder ∈ generator.builders first) (hother : other ∈ generator.builders second)
    (h : builder.name = other.name) :
    first.IsNamedAfterOperation second ∨ second.IsNamedAfterOperation first := by
  obtain ⟨method, number, hname, hzero, hoperation⟩ := exists_structName hbuilder
  obtain ⟨method', number', hname', hzero', hoperation'⟩ := exists_structName hother
  rw [hname, hname', structName_eq_iff] at h
  obtain ⟨htexts, rfl⟩ := h
  rcases (append_methodText_eq_iff hne).mp htexts with
    ⟨hnone, verb, hsome, hnamed⟩ | ⟨hnone, verb, hsome, hnamed⟩
  · exact Or.inl ⟨verb, hnamed, hzero hnone ▸ hoperation' verb hsome⟩
  · exact Or.inr ⟨verb, hnamed, hzero' hnone ▸ hoperation verb hsome⟩

/-- A name that builders of two objects with different names share is that of a builder struct, or
of the container behind it, so one of the objects is named after an operation of the other. -/
theorem isNamedAfterOperation_of_mem (hne : first.name ≠ second.name) {name : String}
    (hfirst : name ∈ generator.builderStructNames first)
    (hsecond : name ∈ generator.builderStructNames second) :
    first.IsNamedAfterOperation second ∨ second.IsNamedAfterOperation first := by
  obtain ⟨builder, hbuilder, hname⟩ := mem_builderStructNames_iff.mp hfirst
  obtain ⟨other, hother, hname'⟩ := mem_builderStructNames_iff.mp hsecond
  rcases hname with rfl | ⟨_, rfl⟩ <;> rcases hname' with hsame | ⟨_, hsame⟩
  · exact isNamedAfterOperation_of_name_eq hne hbuilder hother hsame
  · exact absurd hsame (name_ne_containerName hbuilder)
  · exact absurd hsame.symm (name_ne_containerName hother)
  · exact isNamedAfterOperation_of_name_eq hne hbuilder hother
      ((String.append_left_inj _).mp hsame)

/-- The structs of two objects stay apart unless an object is named like a struct of the builders of
the other one, or after an operation of the other one. -/
theorem disjoint_structNames_of_ne (hne : first.name ≠ second.name) :
    (generator.structNames first).Disjoint (generator.structNames second) ↔
      first.name ∉ generator.builderStructNames second ∧
      second.name ∉ generator.builderStructNames first ∧
      ¬ first.IsNamedAfterOperation second ∧ ¬ second.IsNamedAfterOperation first := by
  constructor
  · intro hdisjoint
    have hbuilders : ∀ name ∈ generator.builderStructNames first,
        name ∉ generator.builderStructNames second :=
      fun _ hfirst hsecond ↦
        hdisjoint (List.mem_cons_of_mem _ hfirst) (List.mem_cons_of_mem _ hsecond)
    refine ⟨fun hmem ↦ ?_, fun hmem ↦ ?_, fun hnamed ↦ ?_, fun hnamed ↦ ?_⟩
    · exact hdisjoint (List.mem_cons_self ..) (List.mem_cons_of_mem _ hmem)
    · exact hdisjoint (List.mem_cons_of_mem _ hmem) (List.mem_cons_self ..)
    · obtain ⟨name, hfirst, hsecond⟩ := exists_shared_of_isNamedAfterOperation hnamed
      exact hbuilders name hfirst hsecond
    · obtain ⟨name, hsecond, hfirst⟩ := exists_shared_of_isNamedAfterOperation hnamed
      exact hbuilders name hfirst hsecond
  · rintro ⟨hfirst, hsecond, hnamed, hnamed'⟩ name hname hname'
    rcases List.mem_cons.mp hname with rfl | hname <;>
      rcases List.mem_cons.mp hname' with hsame | hname'
    · exact hne hsame
    · exact hfirst hname'
    · exact hsecond (hsame ▸ hname)
    · exact (isNamedAfterOperation_of_mem hne hname hname').elim hnamed hnamed'

/-- When the structs of two objects with different names stay apart: the object, its builders, and
the containers that they need. They do unless an object is named like a struct of the builders of
the other one, or like the other one with a method behind it that has an operation at the first path
of the other one. These are the names under which the structs of an object and of a builder are
declared, wherever they are written. -/
theorem disjoint_structNames_iff (generator : Generator) {first second : ApiObject}
    (h : first.name ≠ second.name) :
    ((generator.structNames first).Disjoint (generator.structNames second) ↔
      first.name ∉ generator.builderStructNames second ∧
      second.name ∉ generator.builderStructNames first ∧
      ¬ first.IsNamedAfterOperation second ∧ ¬ second.IsNamedAfterOperation first) ∧
    ∀ object : ApiObject,
      (∀ text, (generator.renderObject object).outcome = .ok text →
        ∃ docLines derives declarations, text = textOfLines (structLines docLines derives
          (object.name ++ Builder.anyGeneric object.needsAny) declarations)) ∧
      ∀ builder ∈ generator.builders object, ∀ text, (renderBuilder builder).outcome = .ok text →
        ∃ declarations, declarations.map StructDeclaration.name = builder.structNames ∧
          text = StructDeclaration.source declarations := by
  refine ⟨disjoint_structNames_of_ne h, fun object ↦ ⟨fun text htext ↦ ?_,
    fun builder _ text htext ↦ ?_⟩⟩
  · obtain ⟨docLines, declarations, derives, _, _, _, htext⟩ := renderObject_eq_ok.mp htext
    exact ⟨docLines, derives, declarations, htext⟩
  · obtain ⟨constructorName, layout, _, hlayout, htext⟩ := renderBuilder_eq_ok.mp htext
    exact ⟨_, Builder.map_name_structDeclarations hlayout _, htext⟩

/-- The owner of a pet. -/
def ownerObject : ApiObject where
  name := "Owner"
  fields := [{ name := "name", tyPath := "String", isRequired := true }]

theorem disjoint_structNames_iff_owner :
    addressedPet.name ≠ ownerObject.name ∧
      (standard.structNames addressedPet).Disjoint (standard.structNames ownerObject) := by
  have hne : addressedPet.name ≠ ownerObject.name := by decide
  have hpet : ¬ addressedPet.IsNamedAfterOperation ownerObject := by
    rintro ⟨method, hname, _⟩
    cases method <;> exact absurd hname (by decide)
  have howner : ¬ ownerObject.IsNamedAfterOperation addressedPet := by
    rintro ⟨method, hname, _⟩
    cases method <;> exact absurd hname (by decide)
  refine ⟨hne, (disjoint_structNames_iff standard hne).1.mpr ⟨fun hmem ↦ ?_, fun hmem ↦ ?_, hpet,
    howner⟩⟩
  · exact absurd (prefix_of_mem_builderStructNames hmem) (by decide)
  · exact absurd (prefix_of_mem_builderStructNames hmem) (by decide)

/-- A pet. -/
def plainPet : ApiObject where
  name := "Pet"
  fields := [{ name := "name", tyPath := "String" }]

/-- Someone who builds things for pets. -/
def petBuilder : ApiObject where
  name := "PetBuilder"
  fields := [{ name := "name", tyPath := "String" }]

/-- An object can be named like a builder struct of another one, and both structs are written. -/
theorem exists_shared_structName :
    plainPet.name ≠ petBuilder.name ∧
      (renderBuilder (standard.objectBuilder plainPet)).outcome =
        .ok (textOfLines ["/// Builder for [`Pet`](./struct.Pet.html) object.",
          "#[derive(Debug, Clone)]", "pub struct PetBuilder \x7b", "    body: self::Pet,",
          "\x7d"]) ∧
      (standard.renderObject petBuilder).outcome =
        .ok (textOfLines ["#[derive(Debug, Default, Clone, Deserialize, Serialize)]",
          "pub struct PetBuilder \x7b", "    pub name: Option<String>,", "\x7d"]) ∧
      ¬ ∀ (generator : Generator) (first second : ApiObject), first.name ≠ second.name →
        (generator.structNames first).Disjoint (generator.structNames second) := by
  have hne : plainPet.name ≠ petBuilder.name := by decide
  refine ⟨hne, by decide +kernel, by decide +kernel, fun hall ↦ ?_⟩
  have hbuilder : petBuilder.name ∈ standard.structNames plainPet :=
    List.mem_cons_of_mem _ (mem_builderStructNames_iff.mpr
      ⟨_, objectBuilder_mem_builders standard plainPet, Or.inl (by decide)⟩)
  exact hall standard plainPet petBuilder hne hbuilder (List.mem_cons_self ..)

end Generator

end TypestateBuilders
