import TypestateBuilders.Settings.Layers

/-!
# Tables of members

What a table of members holds when others are put on top of it: under each name the content that the
others have, or else its own (`Settings.Named.content?_putAll`). It does not matter whether two
tables are put on top one after the other or together (`Settings.Named.putAll_putAll`), and members
of a kind that is told by their names can be chosen before or after
(`Settings.Named.filter_putAll`).

A table whose names are texts is that of an object (`Settings.Named.ofObject_entries`), and so the
members of objects can be put on top of each other as tables (`Settings.Named.ofObject_putAll`).
-/

set_option autoImplicit false
set_option relaxedAutoImplicit false

namespace TypestateBuilders.Settings.Named

variable {key other : NameKey} {text : String} {content : Value} {named above : Named}

/-! ### Names -/

theorem mem_keys_put :
    other ∈ Keyed.keys (named.put key text content) ↔ other = key ∨ other ∈ Keyed.keys named :=
  Keyed.mem_keys_put

theorem nodup_keys_put (h : (Keyed.keys named).Nodup) :
    (Keyed.keys (named.put key text content)).Nodup :=
  Keyed.nodup_keys_put h

theorem putAll_cons (named above : Named) (member : NameKey × String × Value) :
    named.putAll (member :: above) = (named.put member.1 member.2.1 member.2.2).putAll above :=
  rfl

theorem nodup_keys_putAll (h : (Keyed.keys named).Nodup) :
    (Keyed.keys (named.putAll above)).Nodup := by
  induction above generalizing named with
  | nil => exact h
  | cons member rest ih => exact ih (nodup_keys_put h)

theorem content?_cons (member : NameKey × String × Value) (rest : Named) :
    content? key (member :: rest) =
      if member.1 = key then some member.2.2 else content? key rest := by
  rw [content?, Keyed.get?, content?]
  split
  · rfl
  · rfl

/-- Under each name stands what is put on top, or else what was there. -/
theorem content?_putAll (h : (Keyed.keys above).Nodup) :
    (named.putAll above).content? key = (above.content? key).or (named.content? key) := by
  induction above generalizing named with
  | nil => rfl
  | cons member rest ih =>
    obtain ⟨hnew, hrest⟩ := List.nodup_cons.mp (show (member.1 :: Keyed.keys rest).Nodup from h)
    rw [putAll_cons, ih hrest, content?_put, content?_cons]
    by_cases hmember : member.1 = key
    · have hnone : content? key rest = none := by
        rw [content?, Keyed.get?_eq_none_iff.mpr (hmember ▸ hnew), Option.map_none]
      rw [if_pos hmember, if_pos hmember, hnone]
      rfl
    · rw [if_neg hmember, if_neg hmember]

/-! ### Members one after the other -/

/-- What is put in behind a member of the same name keeps the text of this member. -/
theorem put_put (first last : String) (content another : Value) :
    (named.put key first content).put key last another = named.put key first another := by
  rw [put, put, put, Keyed.get?_put, if_pos rfl, Keyed.put_put]
  rfl

/-- The order in which contents are put under two names does not matter if one of these is
present. -/
theorem put_comm (hne : key ≠ other) (hmem : key ∈ Keyed.keys named) (text : String)
    (content : Value) (another : String) (last : Value) :
    (named.put other another last).put key text content =
      (named.put key text content).put other another last := by
  rw [put, put, put, put, Keyed.get?_put, if_neg hne.symm, Keyed.get?_put, if_neg hne,
    Keyed.put_comm hne hmem]

theorem put_putAll_of_mem (hmem : key ∈ Keyed.keys named) (hnew : key ∉ Keyed.keys above)
    (text : String) (content : Value) :
    (named.putAll above).put key text content = (named.put key text content).putAll above := by
  induction above generalizing named with
  | nil => rfl
  | cons member rest ih =>
    obtain ⟨hne, hrest⟩ := not_or.mp fun h ↦ hnew (List.mem_cons.mpr h)
    rw [putAll_cons, ih (mem_keys_put.mpr (Or.inr hmem)) hrest, put_comm hne hmem, putAll_cons]

/-- A member can be put in before or after its table is put on top of another one. -/
theorem putAll_put (h : (Keyed.keys above).Nodup) (key : NameKey) (text : String)
    (content : Value) :
    named.putAll (above.put key text content) = (named.putAll above).put key text content := by
  induction above generalizing named with
  | nil => rfl
  | cons member rest ih =>
    obtain ⟨hnew, hrest⟩ := List.nodup_cons.mp (show (member.1 :: Keyed.keys rest).Nodup from h)
    obtain ⟨first, old, before⟩ := member
    by_cases hmember : first = key
    · subst hmember
      have hput : put first text content ((first, old, before) :: rest) =
          (first, old, content) :: rest := by
        rw [put, Keyed.put, if_pos rfl, Keyed.get?, if_pos rfl]
        rfl
      rw [hput, putAll_cons, putAll_cons, put_putAll_of_mem (mem_keys_put.mpr (Or.inl rfl)) hnew,
        put_put]
    · have hput : put key text content ((first, old, before) :: rest) =
          (first, old, before) :: put key text content rest := by
        rw [put, Keyed.put, if_neg hmember, Keyed.get?, if_neg hmember]
        rfl
      rw [hput, putAll_cons, putAll_cons, ih hrest]

/-- Two tables can be put on top of a third one together or one after the other. -/
theorem putAll_putAll {first second : Named} (h : (Keyed.keys first).Nodup) :
    named.putAll (first.putAll second) = (named.putAll first).putAll second := by
  induction second generalizing first with
  | nil => rfl
  | cons member rest ih => rw [putAll_cons, putAll_cons, ih (nodup_keys_put h), putAll_put h]

/-! ### Members of a kind -/

theorem filter_put (keep : NameKey → Bool) :
    (named.put key text content).filter (fun member ↦ keep member.1) =
      if keep key then put key text content (named.filter fun member ↦ keep member.1)
      else named.filter fun member ↦ keep member.1 := by
  cases hkey : keep key with
  | true =>
    rw [if_pos rfl, put, put, Keyed.filter_put_of_keep hkey, Keyed.get?_filter, if_pos hkey]
  | false =>
    rw [if_neg Bool.false_ne_true, put]
    exact Keyed.filter_put hkey fun _ _ ↦ hkey

theorem filter_putAll (keep : NameKey → Bool) :
    (named.putAll above).filter (fun member ↦ keep member.1) =
      putAll (named.filter fun member ↦ keep member.1)
        (above.filter fun member ↦ keep member.1) := by
  induction above generalizing named with
  | nil => rfl
  | cons member rest ih =>
    rw [putAll_cons, ih, filter_put, List.filter_cons]
    split
    · rfl
    · rfl

/-! ### Members of objects -/

theorem keys_ofObject (members : List (String × Value)) :
    Keyed.keys (ofObject members) = (Keyed.keys members).map .text := by
  rw [ofObject, Keyed.keys, Keyed.keys, List.map_map, List.map_map]
  rfl

theorem get?_ofObject (name : String) (members : List (String × Value)) :
    Keyed.get? (.text name) (ofObject members) =
      (Keyed.get? name members).map fun content ↦ (name, content) := by
  induction members with
  | nil => rfl
  | cons member rest ih =>
    obtain ⟨first, content⟩ := member
    rw [ofObject, List.map_cons, ← ofObject, Keyed.get?, Keyed.get?, ih]
    by_cases hmember : first = name
    · rw [if_pos (congrArg NameKey.text hmember), if_pos hmember, Option.map_some, hmember]
    · rw [if_neg fun h ↦ hmember (NameKey.text.inj h), if_neg hmember]

theorem content?_ofObject (name : String) (members : List (String × Value)) :
    (ofObject members).content? (.text name) = Keyed.get? name members := by
  rw [content?, get?_ofObject, Option.map_map]
  exact Option.map_id'

/-- A member that is put into an object is spelled by its name. -/
theorem ofObject_put (name : String) (content : Value) (members : List (String × Value)) :
    ofObject (Keyed.put name content members) =
      (ofObject members).put (.text name) name content := by
  have htext : (((Keyed.get? (.text name) (ofObject members)).map Prod.fst).getD name) = name := by
    rw [get?_ofObject]
    cases Keyed.get? name members <;> rfl
  rw [put, htext]
  clear htext
  induction members with
  | nil => rfl
  | cons member rest ih =>
    rw [Keyed.put, ofObject, ofObject, List.map_cons, Keyed.put]
    by_cases hmember : member.1 = name
    · rw [if_pos hmember, if_pos (congrArg NameKey.text hmember)]
      rfl
    · rw [if_neg hmember, if_neg fun h ↦ hmember (NameKey.text.inj h), List.map_cons, ← ofObject,
        ← ofObject, ih]

theorem ofObject_putAll (members others : List (String × Value)) :
    ofObject (Keyed.putAll members others) = (ofObject members).putAll (ofObject others) := by
  induction others generalizing members with
  | nil => rfl
  | cons member rest ih =>
    have hrest : Keyed.putAll members (member :: rest) =
        Keyed.putAll (Keyed.put member.1 member.2 members) rest := rfl
    rw [hrest, ih, ofObject_put]
    rfl

/-- Whether each member whose name is a text is spelled by this text. -/
def IsSpelled (named : Named) : Prop :=
  ∀ member ∈ named, ∀ name, member.1 = .text name → member.2.1 = name

theorem isSpelled_ofObject (members : List (String × Value)) : (ofObject members).IsSpelled := by
  intro member hmember name hname
  obtain ⟨given, _, rfl⟩ := List.mem_map.mp hmember
  exact NameKey.text.inj hname

theorem isSpelled_put (h : named.IsSpelled) (hkey : ∀ name, key = .text name → text = name) :
    (named.put key text content).IsSpelled := by
  intro member hmember name hname
  rcases Keyed.mem_put hmember with rfl | hold
  · subst hname
    cases hfound : Keyed.get? (.text name) named with
    | none => exact hkey name rfl
    | some old => exact h _ (Keyed.mem_of_get? hfound) name rfl
  · exact h member hold name hname

theorem isSpelled_putAll (h : named.IsSpelled) (habove : above.IsSpelled) :
    (named.putAll above).IsSpelled := by
  induction above generalizing named with
  | nil => exact h
  | cons member rest ih =>
    obtain ⟨hmember, hrest⟩ := List.forall_mem_cons.mp habove
    exact ih (isSpelled_put h hmember) hrest

theorem nameText_of_ofValue {value : Value} {name : String}
    (h : NameKey.ofValue value = .text name) : nameText value = name := by
  cases value with
  | text characters => exact NameKey.text.inj h
  | float number =>
    rw [NameKey.ofValue] at h
    split at h
    · cases h
    · cases h
  | _ => cases h

theorem isSpelled_ofPairs (pairs : List (Value × Value)) : (ofPairs pairs).IsSpelled := by
  suffices hrun : ∀ start : Named, start.IsSpelled →
      (pairs.foldl (fun table pair ↦
        table.put (.ofValue pair.1) (nameText pair.1) pair.2) start).IsSpelled from
    hrun [] fun _ hmember ↦ absurd hmember List.not_mem_nil
  induction pairs with
  | nil => exact fun _ hstart ↦ hstart
  | cons pair rest ih =>
    exact fun start hstart ↦ ih _ (isSpelled_put hstart fun _ hname ↦ nameText_of_ofValue hname)

/-- Members whose names are texts are those of an object. -/
theorem ofObject_entries (h : named.IsSpelled)
    (htext : ∀ member ∈ named, ∃ name, member.1 = .text name) : ofObject named.entries = named := by
  have hsame : ∀ member ∈ named, (NameKey.text member.2.1, member.2) = member := by
    intro member hmember
    obtain ⟨name, hname⟩ := htext member hmember
    rw [h member hmember name hname, ← hname]
  rw [ofObject, entries, List.map_map]
  exact (List.map_congr_left hsame).trans (List.map_id' named)

end TypestateBuilders.Settings.Named
