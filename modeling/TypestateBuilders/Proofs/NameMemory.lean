import TypestateBuilders.Naming.Identifier

/-!
# The memory of a sanitizer

A sanitizer that answers many requests remembers what it has answered. The memory is keyed by the
whole request, so after a run it holds the requests of the run, each with the answer that is
computed for it, and nothing else (`Sanitizer.IsMemoryOf`, `Sanitizer.isMemoryOf_memoryAfter`). An
answer that is given again is therefore the one that would have been computed, and no run of
requests, in whatever order and however often they are repeated, shows that there is a memory
(`Sanitizer.memory_transparent`).

Generated code has one sanitizer for the identifiers of fields and functions and for those of
markers. What it answers in a run of both is `fieldIdent` and `markerIdent`
(`sanitizeAll_rustSanitizer`).
-/

set_option autoImplicit false
set_option relaxedAutoImplicit false

namespace TypestateBuilders.Naming

namespace Sanitizer

/-- The memory after a run of requests. -/
def memoryAfter (sanitizer : Sanitizer) (cache : NameCache) (requests : List NameRequest) :
    NameCache :=
  requests.foldl (fun cache request ↦ (sanitizer.sanitizeCached cache request).2) cache

/-- A memory that holds the answers to certain requests, and no others. -/
def IsMemoryOf (sanitizer : Sanitizer) (asked : List NameRequest) (cache : NameCache) : Prop :=
  ∀ request, cache.lookup request =
    if request ∈ asked then some (sanitizer.answer request) else none

variable {sanitizer : Sanitizer} {asked : List NameRequest} {cache : NameCache}

theorem isMemoryOf_nil (sanitizer : Sanitizer) : sanitizer.IsMemoryOf [] [] :=
  fun _ ↦ rfl

/-- A request that was answered before leaves the memory as it is. -/
theorem sanitizeCached_of_mem (h : sanitizer.IsMemoryOf asked cache) {request : NameRequest}
    (hasked : request ∈ asked) :
    sanitizer.sanitizeCached cache request = (sanitizer.answer request, cache) := by
  rw [sanitizeCached, h request, if_pos hasked]

/-- A new request is remembered with its answer. -/
theorem sanitizeCached_of_notMem (h : sanitizer.IsMemoryOf asked cache) {request : NameRequest}
    (hnew : request ∉ asked) :
    sanitizer.sanitizeCached cache request =
      (sanitizer.answer request, (request, sanitizer.answer request) :: cache) := by
  rw [sanitizeCached, h request, if_neg hnew]

/-- Whatever is remembered, a request gets the answer that is computed for it. -/
theorem fst_sanitizeCached (h : sanitizer.IsMemoryOf asked cache) (request : NameRequest) :
    (sanitizer.sanitizeCached cache request).1 = sanitizer.answer request := by
  by_cases hasked : request ∈ asked
  · rw [sanitizeCached_of_mem h hasked]
  · rw [sanitizeCached_of_notMem h hasked]

/-- One more request is one more that is remembered. -/
theorem isMemoryOf_sanitizeCached (h : sanitizer.IsMemoryOf asked cache) (request : NameRequest) :
    sanitizer.IsMemoryOf (asked ++ [request]) (sanitizer.sanitizeCached cache request).2 := by
  intro other
  simp only [List.mem_append, List.mem_singleton]
  by_cases hasked : request ∈ asked
  · have hsame : other ∈ asked ∨ other = request ↔ other ∈ asked :=
      or_iff_left_of_imp fun heq ↦ heq ▸ hasked
    rw [sanitizeCached_of_mem h hasked, h other]
    simp only [hsame]
  · rw [sanitizeCached_of_notMem h hasked, List.lookup_cons]
    by_cases heq : other = request
    · rw [heq, beq_self_eq_true, if_pos (Or.inr rfl)]
    · rw [beq_false_of_ne heq, h other]
      simp only [heq, or_false]

/-- After a run the memory holds what was remembered before it and the requests of the run. -/
theorem isMemoryOf_memoryAfter (h : sanitizer.IsMemoryOf asked cache)
    (requests : List NameRequest) :
    sanitizer.IsMemoryOf (asked ++ requests) (sanitizer.memoryAfter cache requests) := by
  induction requests generalizing asked cache with
  | nil =>
    rw [List.append_nil]
    exact h
  | cons request requests ih =>
    rw [List.append_cons]
    exact ih (isMemoryOf_sanitizeCached h request)

/-- A run of requests is answered as without a memory. -/
theorem sanitizeAll_eq_map_answer (h : sanitizer.IsMemoryOf asked cache)
    (requests : List NameRequest) :
    sanitizer.sanitizeAll cache requests = requests.map sanitizer.answer := by
  induction requests generalizing asked cache with
  | nil => rfl
  | cons request requests ih =>
    rw [sanitizeAll, fst_sanitizeCached h, ih (isMemoryOf_sanitizeCached h request), List.map_cons]

/-- The memory of a sanitizer is not noticed. Each request of a run gets the answer of a sanitizer
that was asked nothing before, and the memory that the run leaves holds these answers alone. -/
theorem memory_transparent (sanitizer : Sanitizer) (requests : List NameRequest) :
    sanitizer.sanitizeAll [] requests =
        requests.map (fun request ↦ (sanitizer.sanitizeCached [] request).1) ∧
      ∀ request, (sanitizer.memoryAfter [] requests).lookup request =
        if request ∈ requests then some (sanitizer.sanitizeCached [] request).1 else none := by
  have hfresh : ∀ request, (sanitizer.sanitizeCached [] request).1 = sanitizer.answer request :=
    fst_sanitizeCached (isMemoryOf_nil sanitizer)
  constructor
  · rw [sanitizeAll_eq_map_answer (isMemoryOf_nil sanitizer)]
    exact List.map_congr_left fun request _ ↦ (hfresh request).symm
  · intro request
    rw [hfresh]
    exact isMemoryOf_memoryAfter (isMemoryOf_nil sanitizer) requests request

example :
    (⟨["type"], []⟩ : Sanitizer).sanitizeAll [] [{ name := "type" }, { name := "Type" },
      { name := "type", letterCase := .pascal }, { name := "type", suffix := "Of" },
      { name := "type" }] = ["type_", "type_", "Type", "typeOf", "type_"] := by
  decide

end Sanitizer

/-! ### Identifiers of generated code -/

/-- An identifier that generated code needs for a property. -/
inductive IdentNeed
  /-- The identifier of a field or function. -/
  | field (name : String)
  /-- The name of the markers. -/
  | marker (name : String)
  deriving DecidableEq, Repr

namespace IdentNeed

/-- What the sanitizer is asked for. -/
def request : IdentNeed → NameRequest
  | .field name => { name, letterCase := .snake, suffix := keywordSuffix }
  | .marker name => { name, letterCase := .pascal, suffix := keywordSuffix }

/-- The identifier itself. -/
def ident : IdentNeed → String
  | .field name => fieldIdent name
  | .marker name => markerIdent name

theorem answer_request (need : IdentNeed) : rustSanitizer.answer need.request = need.ident := by
  cases need with
  | field name => rfl
  | marker name => rfl

end IdentNeed

/-- One sanitizer gives the identifiers of fields and those of markers, in whatever order they are
asked for. -/
theorem sanitizeAll_rustSanitizer (needs : List IdentNeed) :
    rustSanitizer.sanitizeAll [] (needs.map IdentNeed.request) = needs.map IdentNeed.ident := by
  rw [Sanitizer.sanitizeAll_eq_map_answer (Sanitizer.isMemoryOf_nil rustSanitizer), List.map_map]
  exact List.map_congr_left fun need _ ↦ need.answer_request

end TypestateBuilders.Naming
