import TypestateBuilders.Generator.Source
import TypestateBuilders.Proofs.Outcome

/-!
# The builders of an object

An object has a builder of its own and one for each operation that addresses it, under the number
that its path has in sorted order (`Generator.mem_builders_iff`). All of them are builders for the
fields of the object.
-/

set_option autoImplicit false
set_option relaxedAutoImplicit false

namespace TypestateBuilders.Generator

open Outcome

variable {generator : Generator} {object : ApiObject} {builder : Builder}

/-- The builders of an object are its own and those of the operations that address it. -/
theorem mem_builders_iff :
    builder ∈ generator.builders object ↔
      builder = generator.objectBuilder object ∨
        ∃ index, ∃ path ∈ object.paths, ∃ method operation,
          (method, operation) ∈ path.2.operations ∧ object.sortedPaths[index]? = some path ∧
            builder = generator.operationBuilder object index path.1 path.2.params method
              operation := by
  unfold builders
  rw [List.mem_cons, List.mem_flatMap]
  refine or_congr_right ⟨?_, ?_⟩
  · rintro ⟨⟨path, index⟩, hnumbered, hbuilder⟩
    obtain ⟨⟨method, operation⟩, hsorted, rfl⟩ := List.mem_map.mp hbuilder
    exact ⟨index, path, List.mem_mergeSort.mp (List.fst_mem_of_mem_zipIdx hnumbered), method,
      operation, List.mem_mergeSort.mp hsorted, List.mem_zipIdx_iff_getElem?.mp hnumbered, rfl⟩
  · rintro ⟨index, path, _, method, operation, hoperation, hindex, rfl⟩
    exact ⟨(path, index), List.mem_zipIdx_iff_getElem?.mpr hindex, List.mem_map.mpr
      ⟨(method, operation), List.mem_mergeSort.mpr hoperation, rfl⟩⟩

theorem objectBuilder_mem_builders (generator : Generator) (object : ApiObject) :
    generator.objectBuilder object ∈ generator.builders object :=
  List.mem_cons_self ..

/-- Every operation at some path of an object has a builder. -/
theorem exists_operationBuilder (generator : Generator) {path : String × PathOperations}
    (hpath : path ∈ object.paths)
    {entry : HttpMethod × Operation} (hentry : entry ∈ path.2.operations) :
    ∃ index, generator.operationBuilder object index path.1 path.2.params entry.1 entry.2 ∈
      generator.builders object := by
  obtain ⟨index, hindex⟩ := List.mem_iff_getElem?.mp (List.mem_mergeSort.mpr hpath)
  exact ⟨index, mem_builders_iff.mpr
    (Or.inr ⟨index, path, hpath, entry.1, entry.2, hentry, hindex, rfl⟩)⟩

/-- The operations at the only path of an object have their builders under the first number. -/
theorem operationBuilder_mem_builders (generator : Generator) {path : String × PathOperations}
    (hpath : object.paths = [path]) {entry : HttpMethod × Operation}
    (hentry : entry ∈ path.2.operations) :
    generator.operationBuilder object 0 path.1 path.2.params entry.1 entry.2 ∈
      generator.builders object := by
  have hindex : object.sortedPaths[0]? = some path := by
    rw [ApiObject.sortedPaths, hpath, List.mergeSort_singleton]
    rfl
  exact mem_builders_iff.mpr (Or.inr ⟨0, path, hpath ▸ List.mem_singleton_self path, entry.1,
    entry.2, hentry, hindex, rfl⟩)

/-- An object that no operation addresses has one builder. -/
theorem builders_of_no_paths (h : object.paths = []) :
    generator.builders object = [generator.objectBuilder object] := by
  rw [builders, ApiObject.sortedPaths, h, List.mergeSort_nil]
  rfl

theorem fields_of_mem_builders (h : builder ∈ generator.builders object) :
    builder.fields = object.fields := by
  rcases mem_builders_iff.mp h with rfl | ⟨_, _, _, _, _, _, _, rfl⟩ <;> rfl

theorem collisionPolicy_of_mem_builders (h : builder ∈ generator.builders object) :
    builder.collisionPolicy = generator.collisionPolicy := by
  rcases mem_builders_iff.mp h with rfl | ⟨_, _, _, _, _, _, _, rfl⟩ <;> rfl

/-- The method of an operation has to name its constructor if the operation has no identifier. -/
theorem isSome_namingMethod?_operationBuilder (index : Nat) (relPath : String)
    (shared : List Parameter) (method : HttpMethod) (operation : Operation) :
    (generator.operationBuilder object index relPath shared method operation).namingMethod?.isSome =
      !operation.id.isTrue := by
  show (if operation.id.isTrue = true then none else some method).isSome = _
  cases operation.id.isTrue <;> rfl

/-- Several paths have operations if there are two among those that have some. -/
theorem severalPaths_iff :
    severalPaths object = true ↔
      2 ≤ (object.paths.filter fun path ↦ path.2.operations ≠ []).length := by
  have hnonempty : (fun path : String × PathOperations ↦ decide (path.2.operations ≠ [])) =
      fun path ↦ !path.2.operations.isEmpty := by
    funext path
    cases path.2.operations <;> rfl
  rw [severalPaths, hnonempty, List.countP_eq_length_filter, decide_eq_true_iff]
  exact Iff.rfl

/-- An object without markers is generated on its own if its source can be written. -/
theorem exists_generate_singleton (hstyle : generator.target.style = .builders)
    (hsource : (generator.renderWhole object).outcome.isOk = true)
    (hmarkers : (generator.objectMarkerNames object).outcome = .ok []) :
    ∃ code, (generator.generate [object]).outcome = .ok code := by
  have hnames : (generator.markerNames [object]).outcome = .ok [] := by
    simp only [markerNames, Logged.outcome_bind, List.mapM_cons, List.mapM_nil, hmarkers]
    show Except.ok (Text.distinctInOrder []) = _
    rw [Text.distinctInOrder, List.eraseDups_nil, Text.inOrder, List.mergeSort_nil]
  unfold generate
  rw [hstyle]
  simp only [generateBuilders, Logged.outcome_bind, List.mapM_cons, List.mapM_nil, hnames]
  obtain ⟨source, hcode⟩ := exists_of_isOk hsource
  rw [hcode]
  exact ⟨_, rfl⟩

/-- The generator of Rust source with the settings that hold when nothing is said. -/
def standard : Generator where
  target := .rust
  settings := {}
  collisionPolicy := .drop
  unnamedPolicy := .indexed

end TypestateBuilders.Generator
