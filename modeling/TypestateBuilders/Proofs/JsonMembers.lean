import TypestateBuilders.Json.Reader

/-!
# Members of objects that are read

Whatever text an object is read from, each of its members has a name of its own
(`Json.nodup_keys_of_read`). An object is made in one place, of the pairs between its braces
(`Json.exists_pairs_of_readMembers`), and making it gives each name one content.
-/

set_option autoImplicit false
set_option relaxedAutoImplicit false

namespace TypestateBuilders.Json

variable {room : Nat} {whole cs : List Char} {h : cs.length < whole.length} {value : Value}

/-- What is read behind an opening brace is an object, made of pairs. -/
theorem exists_pairs_of_readMembers {seen : List (String × Value)} {left : Rest whole}
    (hread : readMembers room whole seen cs h = .ok (value, left)) :
    ∃ pairs, value = .object (Keyed.ofList pairs) := by
  induction hlength : cs.length using Nat.strongRecOn generalizing seen cs with
  | _ length ih =>
    rw [readMembers] at hread
    split at hread
    · cases hread
    rename_i start hstart _
    split at hread
    · split at hread
      · cases hread
      rename_i rest hrest _
      split at hread
      · cases hread
      rename_i afterColon hcolon _
      split at hread
      · split at hread
        · cases hread
        rename_i left hleft _
        split at hread
        · cases hread
        rename_i after hafter _
        dsimp only at hread
        split at hread
        · obtain ⟨hobject, _⟩ := Prod.mk.inj (Except.ok.inj hread)
          exact ⟨_, hobject.symm⟩
        · split at hread
          · exact ih after.length (by omega) hread rfl
          · cases hread
      · cases hread
    · cases hread

/-- What is read behind an opening bracket is a list. -/
theorem exists_elements_of_readElements {seen : List Value} {left : Rest whole}
    (hread : readElements room whole seen cs h = .ok (value, left)) :
    ∃ elements, value = .list elements := by
  induction hlength : cs.length using Nat.strongRecOn generalizing seen cs with
  | _ length ih =>
    rw [readElements] at hread
    split at hread
    · cases hread
    rename_i rest hrest _
    split at hread
    · cases hread
    rename_i after hafter _
    split at hread
    · obtain ⟨hlist, _⟩ := Prod.mk.inj (Except.ok.inj hread)
      exact ⟨_, hlist.symm⟩
    · split at hread
      · exact ih after.length (by omega) hread rfl
      · cases hread

theorem ne_object_of_number? {length : Nat} {members : List (String × Value)}
    (hnumber : number? cs = some (value, length)) : value ≠ .object members := by
  rintro rfl
  rw [number?] at hnumber
  dsimp only at hnumber
  generalize (if cs.head? = some '-' then 1 else 0) = sign at hnumber
  split at hnumber
  · cases hnumber
  split at hnumber
  · cases hnumber
  · cases hnumber

/-- A word or a number is no object. -/
theorem ne_object_of_readScalar {left : Rest cs} {members : List (String × Value)}
    (hread : readScalar cs = .ok (value, left)) : value ≠ .object members := by
  have hwords : ∀ word ∈ wordValues, word.2 ≠ .object members := by
    rw [wordValues]
    simp
  rw [readScalar] at hread
  dsimp only at hread
  split at hread
  · cases hread
  rename_i found length hfound
  split at hread
  · cases hread
  split at hread
  · obtain ⟨rfl, _⟩ := Prod.mk.inj (Except.ok.inj hread)
    split at hfound
    · rename_i word hword
      obtain ⟨rfl, _⟩ := Prod.mk.inj (Option.some.inj hfound)
      exact hwords _ (List.mem_of_find?_eq_some hword)
    · exact ne_object_of_number? hfound
  · cases hread

/-- Each member of an object that is read has a name of its own. -/
theorem nodup_keys_of_readValue {left : Rest cs} {members : List (String × Value)}
    (hread : readValue room cs = .ok (.object members, left)) : (Keyed.keys members).Nodup := by
  rw [readValue] at hread
  split at hread
  · cases hread
  split at hread
  · split at hread
    · cases hread
    · cases hread
  · split at hread
    · split at hread
      · cases hread
      · obtain ⟨hobject, _⟩ := Prod.mk.inj (Except.ok.inj hread)
        obtain rfl := Value.object.inj hobject
        exact List.nodup_nil
      · obtain ⟨pairs, hobject⟩ := exists_pairs_of_readMembers hread
        obtain rfl := Value.object.inj hobject
        exact Keyed.nodup_keys_putAll List.nodup_nil
    · split at hread
      · split at hread
        · cases hread
        · cases hread
        · obtain ⟨elements, hlist⟩ := exists_elements_of_readElements hread
          cases hlist
      · split at hread
        · cases hread
        · rename_i hscalar
          obtain ⟨hvalue, _⟩ := Prod.mk.inj (Except.ok.inj hread)
          exact absurd hvalue (ne_object_of_readScalar hscalar)

theorem nodup_keys_of_read {members : List (String × Value)}
    (hread : read cs = .ok (.object members)) : (Keyed.keys members).Nodup := by
  rw [read] at hread
  dsimp only at hread
  split at hread
  · cases hread
  · split at hread
    · cases hread
    · rename_i hvalue
      split at hread
      · obtain rfl := Except.ok.inj hread
        exact nodup_keys_of_readValue hvalue
      · cases hread

end TypestateBuilders.Json
