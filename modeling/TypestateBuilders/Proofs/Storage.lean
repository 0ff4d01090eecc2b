import TypestateBuilders.Proofs.Assignments
import TypestateBuilders.Proofs.Builders
import TypestateBuilders.Proofs.FieldOwners
import TypestateBuilders.Proofs.Reinterpretation

/-!
# Layout, setters and path agree on storage

The layout of a builder, its setters and the expression for its path name the slots of parameters
and of the body on their own. Here it is shown that they name the same ones. A slot is declared
(`Layout.Declares`) when it stands once among the slots of the data, under a name that no other slot
has, and nowhere else. Each parameter has its slot declared, with the type that its setter stores
(`Builder.declares_valueSlot`), and so has the body (`Builder.declares_bodySlot`).

`Generator.storage_agrees` puts this together: setters and path use declared slots alone, a setter
writes a field of the body only if the struct of the object has it, and every slot of a parameter is
assigned by exactly one setter.
-/

set_option autoImplicit false
set_option relaxedAutoImplicit false

namespace TypestateBuilders

open Naming Outcome

/-! ### Lists with one element of a kind -/

theorem flatMap_of_only {α β : Type} {list : List α} {slots : α → List β} {item : α}
    (hnodup : list.Nodup) (hitem : item ∈ list)
    (hothers : ∀ other ∈ list, other ≠ item → slots other = []) :
    list.flatMap slots = slots item := by
  obtain ⟨before, after, rfl⟩ := List.append_of_mem hitem
  rw [List.nodup_middle, List.nodup_cons, List.mem_append, not_or] at hnodup
  have hempty : ∀ part : List α, (∀ other ∈ part, other ∈ before ++ item :: after) →
      item ∉ part → part.flatMap slots = [] := by
    intro part hpart hfresh
    refine List.flatMap_eq_nil_iff.mpr fun other hother ↦ hothers other (hpart other hother) ?_
    rintro rfl
    exact hfresh hother
  rw [List.flatMap_append, List.flatMap_cons,
    hempty before (fun _ hmem ↦ List.mem_append_left _ hmem) hnodup.1.1,
    hempty after (fun _ hmem ↦ List.mem_append_right _ (List.mem_cons_of_mem _ hmem)) hnodup.1.2,
    List.nil_append, List.append_nil]

theorem filter_eq_singleton {α : Type} [DecidableEq α] {list : List α} {holds : α → Bool} {item : α}
    (hnodup : list.Nodup) (hitem : item ∈ list)
    (h : ∀ other ∈ list, holds other = true ↔ other = item) : list.filter holds = [item] := by
  have hsame : list.filter holds = list.filter (· == item) :=
    List.filter_congr fun other hother ↦ by
      rw [Bool.eq_iff_iff, h other hother, beq_iff_eq]
  rw [hsame, List.filter_beq, List.count_eq_one_of_mem hnodup hitem]
  rfl

/-! ### Declared slots -/

namespace Layout

/-- The slots that hold the data: those of the container, if there is one, and otherwise those of
the builder struct. -/
def data (layout : Layout) : List Slot :=
  if layout.needsContainer then layout.container else layout.outer

/-- The slots of the other struct. -/
def others (layout : Layout) : List Slot :=
  if layout.needsContainer then layout.outer else layout.container

/-- A slot that stands once among the slots of the data, and of which no other slot has the name. -/
structure Declares (layout : Layout) (slot : Slot) : Prop where
  once : layout.data.filter (fun other ↦ other.name = slot.name) = [slot]
  nowhereElse : ∀ other ∈ layout.others, other.name ≠ slot.name

end Layout

namespace Builder

variable {builder : Builder} {layout : Layout}

/-- The slots of a property among those of the data: where its value is kept, and its marker unless
a container keeps the data apart. -/
def dataSlots (builder : Builder) (property : Property) : List Slot :=
  builder.storedSlots property ++
    if builder.needsContainer then [] else builder.markerSlots property

/-- The slot of a parameter has the type that the parameter is kept in. -/
theorem storedSlots_of_parameter {property : Property}
    (h : builder.valueSlots property = .ok (builder.storedSlots property))
    (hkind : property.kind.isParameter = true) :
    ∃ ty, paramType builder.helpers property.ty property.delimiting property.needsFile = .ok ty ∧
      builder.storedSlots property = [⟨property.valueSlot, "Option<" ++ ty ++ ">", "None"⟩] := by
  rw [valueSlots, if_pos hkind] at h
  obtain ⟨ty, hty, hslots⟩ := map_eq_ok.mp h
  exact ⟨ty, hty, hslots.symm⟩

theorem storedSlots_of_field {property : Property} (hkind : ¬ property.kind.isParameter = true) :
    builder.storedSlots property = [] := by
  rw [storedSlots, valueSlots, if_neg hkind]
  rfl

theorem name_of_mem_storedSlots {property : Property} {slot : Slot}
    (h : slot ∈ builder.storedSlots property) :
    property.kind.isParameter = true ∧ slot.name = property.valueSlot := by
  by_cases hkind : property.kind.isParameter = true
  · refine ⟨hkind, ?_⟩
    rw [storedSlots, valueSlots, if_pos hkind] at h
    cases hty : paramType builder.helpers property.ty property.delimiting property.needsFile with
    | ok ty =>
      rw [hty] at h
      rw [List.mem_singleton.mp h]
    | error fault =>
      rw [hty] at h
      exact absurd h List.not_mem_nil
  · rw [storedSlots_of_field hkind] at h
    exact absurd h List.not_mem_nil

/-! ### Names of slots -/

theorem head?_valueSlot (property : Property) : property.valueSlot.toList.head? = some 'p' := by
  rw [Property.valueSlot, String.toList_append]
  rfl

theorem head?_of_mem_markerSlots {property : Property} {slot : Slot}
    (h : slot ∈ builder.markerSlots property) : slot.name.toList.head? = some '_' := by
  rw [markerSlots] at h
  split at h
  · rw [List.mem_singleton.mp h, Property.markerSlot, String.toList_append]
    split <;> rfl
  · exact absurd h List.not_mem_nil

theorem head?_of_mem_anySlots {slot : Slot} (h : slot ∈ builder.anySlots) :
    slot.name.toList.head? = some '_' := by
  rw [anySlots] at h
  split at h
  · rw [List.mem_singleton.mp h]
    rfl
  · exact absurd h List.not_mem_nil

theorem head?_innerSlot : builder.innerSlot.name.toList.head? = some 'i' := by
  show "inner".toList.head? = some 'i'
  decide

theorem name_of_mem_bodySlots {slot : Slot} (h : slot ∈ builder.bodySlots) :
    slot.name = "body" := by
  rw [bodySlots] at h
  split at h
  · rw [List.mem_singleton.mp h]
  · exact absurd h List.not_mem_nil

/-- Parameters whose slots share a name are one property. -/
theorem eq_of_valueSlot_eq {property other : Property} (hproperty : property ∈ builder.properties)
    (hother : other ∈ builder.properties) (h : property.valueSlot = other.valueSlot) :
    property = other := by
  have hident : snakeIdent property.name = snakeIdent other.name :=
    (String.append_right_inj "param_").mp h
  have hkey : property.key = other.key := by
    unfold Property.key fieldIdent Sanitizer.sanitize
    exact congrArg (rustSanitizer.avoidTaken keywordSuffix) hident
  exact eq_of_key_eq hproperty hother hkey

/-! ### The parts of a layout -/

/-- The slots of the data are those of the body, those of the properties, in order, and without a
container that for dynamically typed values. -/
theorem data_layoutOf (builder : Builder) :
    (builder.layoutOf (builder.properties.map fun property ↦
        (property, builder.storedSlots property))).data =
      builder.bodySlots ++ builder.properties.flatMap builder.dataSlots ++
        if builder.needsContainer then [] else builder.anySlots := by
  unfold Layout.data layoutOf dataSlots
  cases builder.needsContainer with
  | true => simp [List.flatMap_map]
  | false => simp [List.flatMap_map]

theorem head?_of_mem_others {stored : List (Property × List Slot)} {slot : Slot}
    (h : slot ∈ (builder.layoutOf stored).others) :
    slot.name.toList.head? = some 'i' ∨ slot.name.toList.head? = some '_' := by
  rw [Layout.others, layoutOf] at h
  cases hcontainer : builder.needsContainer with
  | true =>
    rw [hcontainer] at h
    rcases List.mem_append.mp h with hmarker | hany
    · rcases List.mem_cons.mp hmarker with rfl | hmarker
      · exact Or.inl head?_innerSlot
      · obtain ⟨entry, _, hslot⟩ := List.mem_flatMap.mp hmarker
        exact Or.inr (head?_of_mem_markerSlots hslot)
    · exact Or.inr (head?_of_mem_anySlots hany)
  | false =>
    rw [hcontainer] at h
    exact absurd h List.not_mem_nil

/-- A name that markers do not have: that of the slot of a parameter or of the body. -/
def NamesData (name : String) : Prop :=
  name.toList.head? = some 'p' ∨ name.toList.head? = some 'b'

theorem not_namesData_of_head {name : String} {c : Char} (h : name.toList.head? = some c)
    (hp : c ≠ 'p') (hb : c ≠ 'b') : ¬ NamesData name := by
  rw [NamesData, h, Option.some.injEq, Option.some.injEq, not_or]
  exact ⟨hp, hb⟩

theorem namesData_valueSlot (property : Property) : NamesData property.valueSlot :=
  Or.inl (head?_valueSlot property)

theorem namesData_body : NamesData "body" :=
  Or.inr (by decide)

/-- Slots of markers do not have the names of slots with data. -/
theorem filter_of_not_namesData {slots : List Slot} {name : String} (hname : NamesData name)
    (h : ∀ slot ∈ slots, ¬ NamesData slot.name) :
    slots.filter (fun slot ↦ slot.name = name) = [] := by
  refine List.filter_eq_nil_iff.mpr fun slot hslot ↦ ?_
  rw [decide_eq_true_iff]
  rintro rfl
  exact h slot hslot hname

theorem not_namesData_of_mem_markerSlots {property : Property} {slot : Slot}
    (h : slot ∈ builder.markerSlots property) : ¬ NamesData slot.name :=
  not_namesData_of_head (head?_of_mem_markerSlots h) (by decide) (by decide)

theorem not_namesData_of_mem_anySlots {slot : Slot} (h : slot ∈ builder.anySlots) :
    ¬ NamesData slot.name :=
  not_namesData_of_head (head?_of_mem_anySlots h) (by decide) (by decide)

theorem not_namesData_of_mem_others {stored : List (Property × List Slot)} {slot : Slot}
    (h : slot ∈ (builder.layoutOf stored).others) : ¬ NamesData slot.name := by
  rcases head?_of_mem_others h with hhead | hhead
  · exact not_namesData_of_head hhead (by decide) (by decide)
  · exact not_namesData_of_head hhead (by decide) (by decide)

/-- What has a name among the slots of the data is the body or keeps a property. -/
theorem filter_data (h : builder.layout = .ok layout) {name : String} (hname : NamesData name) :
    layout.data.filter (fun slot ↦ slot.name = name) =
      builder.bodySlots.filter (fun slot ↦ slot.name = name) ++
        builder.properties.flatMap fun property ↦
          (builder.storedSlots property).filter fun slot ↦ slot.name = name := by
  have hany : (if builder.needsContainer then [] else builder.anySlots).filter
      (fun slot ↦ slot.name = name) = [] := by
    refine filter_of_not_namesData hname fun slot hslot ↦ ?_
    split at hslot
    · exact absurd hslot List.not_mem_nil
    · exact not_namesData_of_mem_anySlots hslot
  have hdata : ∀ property, (builder.dataSlots property).filter (fun slot ↦ slot.name = name) =
      (builder.storedSlots property).filter fun slot ↦ slot.name = name := by
    intro property
    rw [dataSlots, List.filter_append]
    refine (congrArg _ (filter_of_not_namesData hname fun slot hslot ↦ ?_)).trans
      (List.append_nil _)
    split at hslot
    · exact absurd hslot List.not_mem_nil
    · exact not_namesData_of_mem_markerSlots hslot
  rw [(layout_eq_layoutOf h).1, data_layoutOf, List.filter_append, List.filter_append, hany,
    List.append_nil, List.filter_flatMap, List.flatMap_congr fun property _ ↦ hdata property]

theorem nowhereElse_of_namesData (h : builder.layout = .ok layout) {name : String}
    (hname : NamesData name) : ∀ other ∈ layout.others, other.name ≠ name := by
  rw [(layout_eq_layoutOf h).1]
  rintro other hother rfl
  exact not_namesData_of_mem_others hother hname

/-- The slot of a parameter is declared, with the type that the parameter is kept in. -/
theorem declares_valueSlot (h : builder.layout = .ok layout) {property : Property}
    (hproperty : property ∈ builder.properties) (hkind : property.kind.isParameter = true) :
    ∃ ty, paramType builder.helpers property.ty property.delimiting property.needsFile = .ok ty ∧
      layout.Declares ⟨property.valueSlot, "Option<" ++ ty ++ ">", "None"⟩ := by
  obtain ⟨ty, hty, hstored⟩ :=
    storedSlots_of_parameter ((layout_eq_layoutOf h).2 property hproperty) hkind
  have hbody : builder.bodySlots.filter (fun slot ↦ slot.name = property.valueSlot) = [] := by
    refine List.filter_eq_nil_iff.mpr fun slot hslot hname ↦ ?_
    have hhead := head?_valueSlot property
    rw [← of_decide_eq_true hname, name_of_mem_bodySlots hslot] at hhead
    exact absurd hhead (by decide)
  have hothers : ∀ other ∈ builder.properties, other ≠ property →
      (builder.storedSlots other).filter (fun slot ↦ slot.name = property.valueSlot) = [] := by
    intro other hother hne
    refine List.filter_eq_nil_iff.mpr fun slot hslot hname ↦ hne ?_
    have hslotName := (name_of_mem_storedSlots hslot).2
    rw [of_decide_eq_true hname] at hslotName
    exact eq_of_valueSlot_eq hother hproperty hslotName.symm
  refine ⟨ty, hty, ?_, nowhereElse_of_namesData h (namesData_valueSlot property)⟩
  rw [filter_data h (namesData_valueSlot property), hbody, List.nil_append,
    flatMap_of_only (List.Nodup.of_map Property.key builder.nodup_keys_properties) hproperty
      hothers, hstored]
  exact List.filter_cons_of_pos (decide_eq_true rfl)

/-- The slot of the body is declared where there is a body. -/
theorem declares_bodySlot (h : builder.layout = .ok layout) (hbody : builder.bodyRequired = true) :
    layout.Declares ⟨"body", "self::" ++ builder.object ++ anyGeneric builder.needsAny,
      defaultInit⟩ := by
  have hstored : ∀ property ∈ builder.properties,
      (builder.storedSlots property).filter (fun slot ↦ slot.name = "body") = [] := by
    intro property _
    refine List.filter_eq_nil_iff.mpr fun slot hslot hname ↦ ?_
    have hhead := head?_valueSlot property
    rw [← (name_of_mem_storedSlots hslot).2, of_decide_eq_true hname] at hhead
    exact absurd hhead (by decide)
  refine ⟨?_, nowhereElse_of_namesData h namesData_body⟩
  rw [filter_data h namesData_body, List.flatMap_eq_nil_iff.mpr hstored, List.append_nil, bodySlots,
    if_pos hbody]
  exact List.filter_cons_of_pos (decide_eq_true rfl)

/-! ### Setters -/

/-- How the setter of a parameter takes values of the type that the parameter is kept in: a file by
its path, an array that is sent in a format as it is, and anything else by conversion. -/
def Takes (property : Property) (ty argTy : String) : Prop :=
  (property.needsFile = true ∧ ty = pathBuf ∧ argTy = pathArgument) ∨
    (property.needsFile = false ∧ ty ≠ property.ty ∧ argTy = ty) ∨
    (property.needsFile = false ∧ ty = property.ty ∧ argTy = intoArgument ty)

theorem takes_of_setterBody? {property : Property} {data ty : String} {body : SetterBody}
    (hkind : property.kind.isParameter = true)
    (hty : paramType builder.helpers property.ty property.delimiting property.needsFile = .ok ty)
    (h : builder.setterBody? data property = .ok (some body)) : Takes property ty body.argTy := by
  rw [setterBody?, if_pos hkind] at h
  obtain ⟨_, hbody, hsome⟩ := map_eq_ok.mp h
  obtain rfl := Option.some.inj hsome
  rw [paramType] at hty
  rcases parameterSetter_eq_ok hbody with
    ⟨hfile, rfl⟩ | ⟨hfile, taken, htaken, hother, rfl⟩ | ⟨hkeeps, ⟨_, _, rfl⟩ | ⟨_, rfl⟩⟩
  · rw [if_pos hfile] at hty
    exact Or.inl ⟨hfile, (Except.ok.inj hty).symm, rfl⟩
  · rw [hfile, if_neg Bool.false_ne_true, htaken] at hty
    obtain rfl := Except.ok.inj hty
    exact Or.inr (Or.inl ⟨hfile, hother, rfl⟩)
  all_goals
    obtain ⟨hfile, hsame⟩ := keepsType_iff.mp hkeeps
    rw [hfile, if_neg Bool.false_ne_true, hsame] at hty
    obtain rfl := Except.ok.inj hty
    exact Or.inr (Or.inr ⟨hfile, rfl, rfl⟩)

/-- What a setter writes into the body is a field of the object, and there is a body. -/
theorem mem_fields_of_writtenField? {property : Property} {data : String} {body : SetterBody}
    {field : ObjectField} (h : builder.setterBody? data property = .ok (some body))
    (hfield : builder.writtenField? property = some field) :
    builder.bodyRequired = true ∧ field ∈ builder.fields := by
  rw [writtenField?] at hfield
  by_cases hkind : property.kind.isParameter = true
  · rw [if_pos hkind] at hfield
    split at hfield
    · rw [mergedField?] at hfield
      split at hfield
      · rename_i hboth
        exact ⟨(Bool.and_eq_true_iff.mp hboth).2, List.mem_of_find?_eq_some hfield⟩
      · cases hfield
    · cases hfield
  · rw [if_neg hkind] at hfield
    rw [setterBody?, if_neg hkind] at h
    split at h
    · rename_i hbody
      exact ⟨hbody, List.mem_of_find?_eq_some hfield⟩
    · cases h

theorem mem_placesOf_iff {property : Property} {place : String} :
    place ∈ builder.placesOf layout property ↔
      (property.kind.isParameter = true ∧ place = layout.dataPath ++ property.valueSlot) ∨
        ∃ field, builder.writtenField? property = some field ∧
          place = layout.dataPath ++ bodyPlace field.name := by
  rw [placesOf, List.mem_append]
  refine or_congr ?_ ?_
  · by_cases hkind : property.kind.isParameter = true <;> simp [hkind]
  · cases builder.writtenField? property <;> simp

/-- The places of the body are none of those that keep parameters. -/
theorem bodyPlace_ne_valueSlot (name : String) (property : Property) :
    bodyPlace name ≠ property.valueSlot := by
  intro hsame
  have hhead := head?_valueSlot property
  rw [← hsame, bodyPlace, String.toList_append] at hhead
  exact absurd (Option.some.inj hhead : 'b' = 'p') (by decide)

/-- The slot of a parameter is assigned by the setter of the parameter alone. -/
theorem eq_of_valueSlot_mem_placesOf {property other : Property}
    (hproperty : property ∈ builder.properties) (hother : other ∈ builder.properties)
    (h : layout.dataPath ++ property.valueSlot ∈ builder.placesOf layout other) :
    other = property := by
  rcases mem_placesOf_iff.mp h with ⟨_, hsame⟩ | ⟨field, _, hsame⟩
  · exact eq_of_valueSlot_eq hother hproperty ((String.append_right_inj _).mp hsame).symm
  · have hslot := (String.append_right_inj _).mp hsame
    exact absurd hslot.symm (bodyPlace_ne_valueSlot field.name property)

/-- A slot that is named like those of parameters is the slot of one. -/
theorem exists_property_of_slot (h : builder.layout = .ok layout) {slot : Slot}
    (hslot : slot ∈ layout.outer ++ layout.container)
    (hname : "param_".toList <+: slot.name.toList) :
    ∃ property ∈ builder.properties, property.kind.isParameter = true ∧
      slot.name = property.valueSlot := by
  have hhead : slot.name.toList.head? = some 'p' := by
    obtain ⟨rest, hrest⟩ := hname
    rw [← hrest]
    rfl
  have hdata : NamesData slot.name := Or.inl hhead
  have hmem : slot ∈ layout.data := by
    have hparts : slot ∈ layout.data ∨ slot ∈ layout.others := by
      rw [Layout.data, Layout.others]
      split
      · exact (List.mem_append.mp hslot).symm
      · exact List.mem_append.mp hslot
    refine hparts.resolve_right fun hother ↦ ?_
    exact nowhereElse_of_namesData h hdata slot hother rfl
  have hfilter := filter_data h hdata
  have hfound : slot ∈ layout.data.filter fun other ↦ other.name = slot.name :=
    List.mem_filter.mpr ⟨hmem, decide_eq_true rfl⟩
  rw [hfilter] at hfound
  rcases List.mem_append.mp hfound with hbody | hvalue
  · rw [name_of_mem_bodySlots (List.mem_of_mem_filter hbody)] at hhead
    exact absurd hhead (by decide)
  · obtain ⟨property, hproperty, hstored⟩ := List.mem_flatMap.mp hvalue
    obtain ⟨hkind, hsame⟩ := name_of_mem_storedSlots (List.mem_of_mem_filter hstored)
    exact ⟨property, hproperty, hkind, hsame⟩

/-- A parameter is kept well: its slot is declared, one setter assigns it, and this setter takes
values of the type that the slot has. -/
def Stores (layout : Layout) (setters : List Setter) (property : Property) : Prop :=
  ∃ ty setter, layout.Declares ⟨property.valueSlot, "Option<" ++ ty ++ ">", "None"⟩ ∧
    setters.filter (fun other ↦ layout.dataPath ++ property.valueSlot ∈ other.assigned) = [setter] ∧
    Takes property ty setter.argTy

/-- Every parameter is kept well. -/
theorem stores_of_parameter (hlayout : builder.layout = .ok layout) {addComments : Bool}
    {setters : List Setter} (h : builder.setters layout addComments = .ok setters)
    {property : Property} (hproperty : property ∈ builder.properties)
    (hkind : property.kind.isParameter = true) : Stores layout setters property := by
  obtain ⟨ty, hty, hdeclared⟩ := declares_valueSlot hlayout hproperty hkind
  obtain ⟨setter, hsetter, hname⟩ :=
    exists_setter_named h hproperty (setterBody?_ne_none_of_parameter hkind)
  obtain ⟨hassigned, body, hbody, hargument⟩ := assigned_of_name h hsetter hproperty hname
  refine ⟨ty, setter, hdeclared, ?_, hargument ▸ takes_of_setterBody? hkind hty hbody⟩
  refine filter_eq_singleton (List.Nodup.of_map Setter.name (nodup_names_setters h)) hsetter
    fun other hother ↦ ?_
  rw [decide_eq_true_iff]
  constructor
  · intro hplace
    obtain ⟨owner, howner, hkey, hplaces, _⟩ := assigned_of_mem_setters h hother
    rw [hplaces] at hplace
    obtain rfl : owner = property := eq_of_valueSlot_mem_placesOf hproperty howner hplace
    exact List.inj_on_of_nodup_map (nodup_names_setters h) hother hsetter (hkey.trans hname.symm)
  · rintro rfl
    rw [hassigned]
    exact mem_placesOf_iff.mpr (Or.inl ⟨hkind, rfl⟩)

/-! ### The path -/

/-- What is sent in the path is a parameter. -/
theorem isParameter_of_mem_pathProperties {property : Property}
    (h : property ∈ builder.pathProperties) :
    property ∈ builder.properties ∧ property.kind.isParameter = true := by
  obtain ⟨hproperty, hlocation⟩ := List.mem_filter.mp h
  refine ⟨hproperty, ?_⟩
  rcases origin_of_mem_properties hproperty with ⟨parameter, _, horigin⟩ | ⟨field, _, horigin⟩
  · rw [← Property.kind_unmarked, horigin, Property.ofParameter]
    split <;> rfl
  · have hnone := congrArg Property.location horigin
    rw [Property.unmarked, of_decide_eq_true hlocation] at hnone
    cases hnone

/-- The expression for the path is a text, or fills one in with the slots of parameters. -/
theorem pathExpression_eq_ok {expression : String}
    (h : builder.pathExpression layout = .ok expression) :
    (∃ text, expression = "\"" ++ text ++ "\".into()") ∨
      ∃ text, expression = "format!(\"" ++ text ++ "\", " ++
        ", ".intercalate (builder.pathProperties.map (pathArgumentOf layout)) ++ ").into()" := by
  rw [pathExpression] at h
  split at h
  · exact Or.inl ⟨_, (Except.ok.inj h).symm⟩
  · obtain ⟨template, _, rfl⟩ := map_eq_ok.mp h
    exact Or.inr ⟨_, rfl⟩

/-- What is needed to send a finished builder names the builder's finished type, and the expression
for the path. -/
theorem sendable_eq_ok {method : HttpMethod} {defaultAny : Value} {sendable : Sendable}
    (h : builder.sendable layout method defaultAny = .ok sendable) :
    (∃ anyArgument, sendable.builderTy = builder.type .changeAll anyArgument) ∧
      builder.pathExpression layout = .ok sendable.pathExpression := by
  obtain ⟨_, _, hanswer⟩ := bind_eq_ok.mp h
  have hrest : ∃ anyArgument : Option String, (do
      let output ← builder.responseType (builder.answerAny defaultAny)
      let pathExpression ← builder.pathExpression layout
      pure
        { helpers := builder.helpers
          builderTy := builder.type .changeAll anyArgument
          output
          method := method.verb
          pathExpression : Sendable }) = Except.ok (ε := Failure) sendable := by
    dsimp only at hanswer
    split at hanswer
    · obtain ⟨anyArgument, _, hrest⟩ := bind_eq_ok.mp hanswer
      exact ⟨anyArgument, hrest⟩
    · exact ⟨none, hanswer⟩
  obtain ⟨anyArgument, hrest⟩ := hrest
  obtain ⟨_, _, hrest⟩ := bind_eq_ok.mp hrest
  obtain ⟨expression, hexpression, hsendable⟩ := bind_eq_ok.mp hrest
  obtain rfl := Except.ok.inj hsendable
  exact ⟨⟨anyArgument, rfl⟩, hexpression⟩

theorem pathExpression_of_sendable {method : HttpMethod} {defaultAny : Value} {sendable : Sendable}
    (h : builder.sendable layout method defaultAny = .ok sendable) :
    builder.pathExpression layout = .ok sendable.pathExpression :=
  (sendable_eq_ok h).2

end Builder

namespace Generator

open Builder

/-- Every field of an object is among those that its struct declares, by its identifier. -/
theorem mem_names_declareFields {generator : Generator} {object : String}
    {declared : List (String × String)} {fields : List ObjectField}
    {declarations : List FieldDeclaration}
    (h : (generator.declareFields object declared fields).outcome = .ok declarations)
    {field : ObjectField} (hfield : field ∈ fields) :
    fieldIdent field.name ∈ Keyed.keys declared ∨
      fieldIdent field.name ∈ declarations.map FieldDeclaration.name := by
  induction fields generalizing declared declarations with
  | nil => exact absurd hfield List.not_mem_nil
  | cons first rest ih =>
    cases hfound : Keyed.get? (fieldIdent first.name) declared with
    | some kept =>
      have hdeclared := Keyed.mem_keys_of_get? hfound
      rw [outcome_declareFields_of_declared generator hfound] at h
      cases hpolicy : generator.collisionPolicy with
      | refuse =>
        rw [hpolicy] at h
        cases h
      | drop =>
        rw [hpolicy] at h
        rcases List.mem_cons.mp hfield with rfl | hrest
        · exact Or.inl hdeclared
        · exact ih h hrest
    | none =>
      rw [outcome_declareFields_of_new generator hfound] at h
      obtain ⟨declaration, hfirst, hrest⟩ := bind_eq_ok.mp h
      obtain ⟨others, hothers, hanswer⟩ := bind_eq_ok.mp hrest
      obtain rfl := Except.ok.inj hanswer
      have hname := name_of_declareField hfirst
      rcases List.mem_cons.mp hfield with rfl | hlater
      · exact Or.inr (hname ▸ List.mem_cons_self)
      · rcases ih hothers hlater with hdeclared | hmem
        · simp only [Keyed.keys, List.map_cons, List.mem_cons] at hdeclared
          rcases hdeclared with hsame | hdeclared
          · exact Or.inr (List.mem_cons.mpr (Or.inl (hsame.trans hname.symm)))
          · exact Or.inl hdeclared
        · exact Or.inr (List.mem_cons_of_mem _ hmem)

/-- The fields of a builder are among those that the struct of its object declares. -/
theorem mem_names_of_mem_fields {generator : Generator} {object : ApiObject} {builder : Builder}
    (hbuilder : builder ∈ generator.builders object) {field : ObjectField}
    (hfield : field ∈ builder.fields) {declarations : List FieldDeclaration}
    (h : (generator.declareFields object.name [] object.fields).outcome = .ok declarations) :
    fieldIdent field.name ∈ declarations.map FieldDeclaration.name := by
  rw [fields_of_mem_builders hbuilder] at hfield
  exact (mem_names_declareFields h hfield).resolve_left List.not_mem_nil

/-- Layout, setters and path agree on storage. What a setter assigns is the slot of a parameter or a
field of the body. Each parameter is kept well: its slot is declared once, among the slots of the
data, one setter assigns it, and this setter takes values of the type that the slot has. For a field
of the body there is the slot of a body, and the struct of the object has the field. Every slot that
is named like those of parameters is the slot of one, and the expression for the path reads such
slots alone. -/
theorem storage_agrees {generator : Generator} {object : ApiObject} {builder : Builder}
    (hbuilder : builder ∈ generator.builders object) {layout : Layout}
    (hlayout : builder.layout = .ok layout) {addComments : Bool} {setters : List Setter}
    (hsetters : builder.setters layout addComments = .ok setters) :
    (∀ setter ∈ setters, ∀ place ∈ setter.assigned,
      (∃ property ∈ builder.properties, setter.name = property.key ∧
        place = layout.dataPath ++ property.valueSlot ∧ Stores layout setters property) ∨
      ∃ name, place = layout.dataPath ++ "body." ++ name ∧
        (∃ slot, slot.name = "body" ∧ layout.Declares slot) ∧
        ∀ declarations,
          (generator.declareFields object.name [] object.fields).outcome = .ok declarations →
          name ∈ declarations.map FieldDeclaration.name) ∧
    (∀ slot ∈ layout.outer ++ layout.container, "param_".toList <+: slot.name.toList →
      ∃ property ∈ builder.properties, slot.name = property.valueSlot ∧
        Stores layout setters property) ∧
    ∀ method defaultAny sendable, builder.sendable layout method defaultAny = .ok sendable →
      (∃ text, sendable.pathExpression = "\"" ++ text ++ "\".into()") ∨
      ∃ text, ∃ read : List Property, sendable.pathExpression = "format!(\"" ++ text ++ "\", " ++
          ", ".intercalate (read.map (pathArgumentOf layout)) ++ ").into()" ∧
        ∀ property ∈ read, property ∈ builder.properties ∧ Stores layout setters property := by
  refine ⟨fun setter hsetter place hplace ↦ ?_, fun slot hslot hprefix ↦ ?_,
    fun method defaultAny sendable hsendable ↦ ?_⟩
  · obtain ⟨property, hproperty, hname, hassigned, body, hbody, _⟩ :=
      assigned_of_mem_setters hsetters hsetter
    rw [hassigned] at hplace
    rcases mem_placesOf_iff.mp hplace with ⟨hkind, rfl⟩ | ⟨field, hwritten, rfl⟩
    · exact Or.inl ⟨property, hproperty, hname, rfl,
        stores_of_parameter hlayout hsetters hproperty hkind⟩
    · obtain ⟨hrequired, hfield⟩ := mem_fields_of_writtenField? hbody hwritten
      refine Or.inr ⟨fieldIdent field.name, String.append_assoc.symm,
        ⟨_, rfl, declares_bodySlot hlayout hrequired⟩, fun declarations hdeclarations ↦ ?_⟩
      exact mem_names_of_mem_fields hbuilder hfield hdeclarations
  · obtain ⟨property, hproperty, hkind, hname⟩ := exists_property_of_slot hlayout hslot hprefix
    exact ⟨property, hproperty, hname, stores_of_parameter hlayout hsetters hproperty hkind⟩
  · refine (pathExpression_eq_ok (pathExpression_of_sendable hsendable)).imp_right ?_
    rintro ⟨text, hexpression⟩
    refine ⟨text, _, hexpression, fun property hread ↦ ?_⟩
    obtain ⟨hproperty, hkind⟩ := isParameter_of_mem_pathProperties hread
    exact ⟨hproperty, stores_of_parameter hlayout hsetters hproperty hkind⟩

/-- An operation on a pet that takes one parameter of each kind: a plain one in the path, an array
that is sent in a format, and a file. -/
def tagPet : Operation where
  bodyRequired := true
  params := [{ name := "id", tyPath := "i64", required := true, location := .path },
    { name := "tags", tyPath := "Vec<String>", delimiting := [.csv] },
    { name := "photo", tyPath := fileMarker, location := .formData }]

/-- A pet with this operation. -/
def taggedPet : ApiObject where
  name := "Pet"
  fields := [{ name := "name", tyPath := "String", isRequired := true }]
  paths := [("/pets/\x7bid\x7d", { operations := [(.put, tagPet)] })]

/-- The builder of the operation. -/
def tagBuilder : Builder :=
  standard.operationBuilder taggedPet 0 "/pets/\x7bid\x7d" [] .put tagPet

/-- Its layout. -/
def tagLayout : Layout where
  needsContainer := true
  outer := [⟨"inner", "PetPutBuilderContainer", defaultInit⟩,
    ⟨"_param_id", "core::marker::PhantomData<Id>", phantomData⟩,
    ⟨"_name", "core::marker::PhantomData<Name>", phantomData⟩]
  container := [⟨"body", "self::Pet", defaultInit⟩,
    ⟨"param_id", "Option<i64>", "None"⟩,
    ⟨"param_tags", "Option<crate::util::Delimited<String, crate::util::Csv>>", "None"⟩,
    ⟨"param_photo", "Option<std::path::PathBuf>", "None"⟩]

theorem storage_agrees_taggedPet :
    tagBuilder ∈ standard.builders taggedPet ∧ tagBuilder.layout = .ok tagLayout ∧
      ∃ setters, tagBuilder.setters tagLayout false = .ok setters ∧
        (∀ slot ∈ tagLayout.outer ++ tagLayout.container, "param_".toList <+: slot.name.toList →
          ∃ property ∈ tagBuilder.properties, slot.name = property.valueSlot ∧
            Stores tagLayout setters property) ∧
        (∃ declarations,
          (standard.declareFields taggedPet.name [] taggedPet.fields).outcome = .ok declarations) ∧
        ∃ sendable, tagBuilder.sendable tagLayout .put (.text "V") = .ok sendable := by
  have hpaths : taggedPet.paths = [("/pets/\x7bid\x7d", { operations := [(.put, tagPet)] })] := rfl
  have hbuilder : tagBuilder ∈ standard.builders taggedPet :=
    operationBuilder_mem_builders standard hpaths (List.mem_singleton_self _)
  have hlayout : tagBuilder.layout = .ok tagLayout := by decide +kernel
  have hsetters : (tagBuilder.setters tagLayout false).isOk = true := by decide +kernel
  have hdeclared :
      (standard.declareFields taggedPet.name [] taggedPet.fields).outcome.isOk = true := by
    decide +kernel
  have hsendable : (tagBuilder.sendable tagLayout .put (.text "V")).isOk = true := by decide +kernel
  obtain ⟨setters, hsetters⟩ := exists_of_isOk hsetters
  exact ⟨hbuilder, hlayout, setters, hsetters, (storage_agrees hbuilder hlayout hsetters).2.1,
    exists_of_isOk hdeclared, exists_of_isOk hsendable⟩

end Generator

end TypestateBuilders
