import TypestateBuilders.Proofs.Registration

/-!
# Taking a language away

Unregistering undoes a registration. In a registry where every alias leads to a language with a
provider, a name that is no primary name has no aliases. So a language that is registered for the
first time brings all of its aliases along (`Registry.filter_aliases_addAliases`), and without the
language the registry is what it was before, whether the registration was accepted or not
(`Registry.unregister_register`).

Aliases of one language do not conflict with each other, so they are accepted together exactly when
each of them is free at the start (`Registry.addAliases_eq_ok_iff`), and then all of them lead to
the language (`Registry.leads_of_addAliases_eq_ok`). `Registry.unregister_undoes_register` puts this
together for registries that are reached by any changes.
-/

set_option autoImplicit false
set_option relaxedAutoImplicit false

namespace TypestateBuilders.Registry

open Text

section

variable {κ : Type} {registry next : Registry κ} {isGenerator : κ → Bool}
  {primary name language : String} {aliases names : List String} {provider : κ} {replace : Bool}

/-! ### Aliases that are accepted -/

/-- Whether a name is free for a language does not change when the language gets an alias. -/
theorem aliasConflict?_of_addAlias (h : registry.addAlias primary false name = .ok next)
    (other : String) :
    next.aliasConflict? primary other = none ↔ registry.aliasConflict? primary other = none := by
  rcases addAlias_eq_ok h with rfl | ⟨rfl, hfree⟩
  · exact Iff.rfl
  · rw [aliasConflict?_eq_none_iff, aliasConflict?_eq_none_iff, Keyed.get?_put]
    refine and_congr_right fun _ ↦ ?_
    by_cases hsame : lowercase name = lowercase other
    · have hother := (aliasConflict?_eq_none_iff.mp (hfree rfl)).2
      rw [if_pos hsame]
      exact iff_of_true (fun found hfound ↦ (Option.some.inj hfound).symm) (hsame ▸ hother)
    · rw [if_neg hsame]

/-- An alias is accepted when it is the language itself, which changes nothing, or when it is free
and is put down. -/
theorem addAlias_eq_ok_iff : registry.addAlias primary false name = .ok next ↔
    lowercase name = primary ∧ next = registry ∨
      lowercase name ≠ primary ∧ registry.aliasConflict? primary name = none ∧
        next =
          { registry with aliases := Keyed.put (lowercase name) primary registry.aliases } := by
  rw [addAlias]
  by_cases hself : lowercase name = primary
  · rw [if_pos hself]
    simp [hself, eq_comm]
  · rw [if_neg hself]
    cases registry.aliasConflict? primary name with
    | none => simp [hself, eq_comm]
    | some error => simp [hself]

theorem exists_addAlias_eq_ok_iff : (∃ next, registry.addAlias primary false name = .ok next) ↔
    lowercase name = primary ∨ registry.aliasConflict? primary name = none := by
  simp only [addAlias_eq_ok_iff]
  constructor
  · rintro ⟨_, ⟨hself, _⟩ | ⟨_, hfree, _⟩⟩
    · exact Or.inl hself
    · exact Or.inr hfree
  · intro haccepted
    by_cases hself : lowercase name = primary
    · exact ⟨_, Or.inl ⟨hself, rfl⟩⟩
    · exact ⟨_, Or.inr ⟨hself, haccepted.resolve_left hself, rfl⟩⟩

/-- Several aliases are accepted exactly when each of them would be accepted first. -/
theorem addAliases_eq_ok_iff : (registry.addAliases primary false names).2 = .ok () ↔
    ∀ name ∈ names,
      lowercase name = primary ∨ registry.aliasConflict? primary name = none := by
  induction names generalizing registry with
  | nil => exact iff_of_true rfl fun _ hname ↦ absurd hname List.not_mem_nil
  | cons name rest ih =>
    rw [List.forall_mem_cons, ← exists_addAlias_eq_ok_iff, addAliases]
    cases hfirst : registry.addAlias primary false name with
    | error error =>
      refine iff_of_false (fun h ↦ ?_) fun h ↦ ?_
      · cases h
      · simp at h
    | ok next =>
      rw [and_iff_right ⟨next, rfl⟩]
      refine ih.trans (forall₂_congr fun other _ ↦ or_congr_right ?_)
      exact aliasConflict?_of_addAlias hfirst other

/-- Aliases that are all accepted lead to their language, and none of them is a primary name but the
language itself. -/
theorem leads_of_addAliases_eq_ok (h : (registry.addAliases primary false names).2 = .ok ()) :
    ∀ name ∈ names, lowercase name = primary ∨
      Keyed.get? (lowercase name) registry.providers = none ∧
        Keyed.get? (lowercase name) (registry.addAliases primary false names).1.aliases =
          some primary := by
  induction names generalizing registry with
  | nil => exact fun _ hname ↦ absurd hname List.not_mem_nil
  | cons name rest ih =>
    rw [addAliases] at h ⊢
    cases hfirst : registry.addAlias primary false name with
    | error error =>
      rw [hfirst] at h
      cases h
    | ok next =>
      rw [hfirst] at h
      have hproviders : next.providers = registry.providers := by
        rcases addAlias_eq_ok hfirst with rfl | ⟨rfl, _⟩
        · rfl
        · rfl
      refine List.forall_mem_cons.mpr ⟨?_, hproviders ▸ ih h⟩
      by_cases hself : lowercase name = primary
      · exact Or.inl hself
      · obtain ⟨hfirstSelf, _⟩ | ⟨_, hfree, rfl⟩ := addAlias_eq_ok_iff.mp hfirst
        · exact absurd hfirstSelf hself
        · refine Or.inr ⟨(aliasConflict?_eq_none_iff.mp hfree).1, get?_aliases_addAliases ?_⟩
          rw [Keyed.get?_put, if_pos rfl]

/-! ### Registries without a language -/

/-- Aliases that a language gets without replacing are all its own. -/
theorem filter_aliases_addAliases :
    (registry.addAliases primary false names).1.aliases.filter (fun entry ↦ entry.2 ≠ primary) =
      registry.aliases.filter fun entry ↦ entry.2 ≠ primary := by
  refine addAliases_induction (motive := fun current ↦
    current.aliases.filter (fun entry ↦ entry.2 ≠ primary) =
      registry.aliases.filter fun entry ↦ entry.2 ≠ primary) rfl ?_
  intro current next name hcurrent haccepted
  rcases addAlias_eq_ok haccepted with rfl | ⟨rfl, hfree⟩
  · exact hcurrent
  · refine (Keyed.filter_put (by simp) fun old hold ↦ ?_).trans hcurrent
    rw [(aliasConflict?_eq_none_iff.mp (hfree rfl)).2 old hold]
    simp

/-- Aliases of a language go away with it. -/
theorem unregister_addAliases :
    (registry.addAliases (lowercase language) false names).1.unregister language =
      registry.unregister language := by
  rw [unregister, unregister, providers_addAliases, filter_aliases_addAliases]

/-- The provider of a language goes away with it. -/
theorem unregister_withProvider :
    (registry.withProvider (lowercase language) provider).unregister language =
      registry.unregister language := by
  rw [unregister, unregister, withProvider, Keyed.erase_put]

/-- Where aliases lead to providers, a name that is no primary name can be taken away without any
change. -/
theorem unregister_of_notMem (h : registry.Closed)
    (hnew : lowercase language ∉ Keyed.keys registry.providers) :
    registry.unregister language = registry := by
  have haliases : registry.aliases.filter (fun entry ↦ entry.2 ≠ lowercase language) =
      registry.aliases := by
    refine List.filter_eq_self.mpr fun entry hentry ↦ decide_eq_true fun hlead ↦ ?_
    exact hnew (hlead ▸ h entry hentry)
  rw [unregister, haliases, Keyed.erase_of_notMem hnew]

/-- A registration without replacing of a language that is new is undone by taking the language
away, also when it was refused. -/
theorem unregister_register (h : registry.Closed)
    (hnew : lowercase language ∉ Keyed.keys registry.providers) :
    (registry.register isGenerator language provider aliases false).1.unregister language =
      registry := by
  rcases register_cases registry isGenerator language provider aliases false with
    ⟨_, hsame⟩ | ⟨_, _, hpresent, _⟩ | ⟨_, _, hadded⟩
  · rw [hsame]
    exact unregister_of_notMem h hnew
  · exact absurd hpresent hnew
  · rw [hadded]
    calc ((registry.withProvider (lowercase language) provider).addAliases (lowercase language)
            false aliases).1.unregister language
        = (registry.withProvider (lowercase language) provider).unregister language :=
          unregister_addAliases
      _ = registry.unregister language := unregister_withProvider
      _ = registry := unregister_of_notMem h hnew

/-! ### Registrations that are undone -/

/-- A name is unknown if it is neither a primary name nor an alias. -/
theorem isSupported_eq_false_iff : registry.isSupported name = false ↔
    Keyed.get? (lowercase name) registry.providers = none ∧
      Keyed.get? (lowercase name) registry.aliases = none := by
  rw [isSupported, primary?]
  cases Keyed.get? (lowercase name) registry.providers <;> simp

/-- The names that are free for a language that is put down for the first time are those that are
unknown before. -/
theorem aliasConflict?_withProvider (h : registry.Closed)
    (hnew : primary ∉ Keyed.keys registry.providers) (hname : lowercase name ≠ primary) :
    (registry.withProvider primary provider).aliasConflict? primary name = none ↔
      registry.isSupported name = false := by
  rw [aliasConflict?_eq_none_iff, isSupported_eq_false_iff, withProvider, Keyed.get?_put,
    if_neg hname.symm]
  refine and_congr_right fun _ ↦ ⟨fun hown ↦ ?_, fun hnone other hother ↦ ?_⟩
  · refine Option.eq_none_iff_forall_ne_some.mpr fun other hother ↦ hnew ?_
    exact hown other hother ▸ h (lowercase name, other) (Keyed.mem_of_get? hother)
  · rw [hnone] at hother
    cases hother

/-- A language that is new is registered without replacing exactly if its provider is a generator
and each of its aliases is the language itself or unknown. -/
theorem register_eq_ok_iff (h : registry.Closed)
    (hnew : lowercase language ∉ Keyed.keys registry.providers) :
    (registry.register isGenerator language provider aliases false).2 = .ok () ↔
      isGenerator provider = true ∧ ∀ name ∈ aliases,
        lowercase name = lowercase language ∨ registry.isSupported name = false := by
  rcases register_cases registry isGenerator language provider aliases false with
    ⟨hforeign, hsame⟩ | ⟨_, _, hpresent, _⟩ | ⟨hgenerator, _, hadded⟩
  · rw [hsame, hforeign]
    refine iff_of_false (fun h ↦ ?_) fun h ↦ Bool.false_ne_true h.1
    cases h
  · exact absurd hpresent hnew
  · rw [hadded, addAliases_eq_ok_iff, and_iff_right hgenerator]
    refine forall₂_congr fun name _ ↦ ?_
    by_cases hself : lowercase name = lowercase language
    · exact iff_of_true (Or.inl hself) (Or.inl hself)
    · rw [aliasConflict?_withProvider h hnew hself]

/-- A language that is registered for the first time leads to its provider, and so do its
aliases. -/
theorem provider_of_register_eq_ok
    (hnew : lowercase language ∉ Keyed.keys registry.providers)
    (haccepted : (registry.register isGenerator language provider aliases false).2 = .ok ()) :
    ∀ name ∈ language :: aliases,
      (registry.register isGenerator language provider aliases false).1.provider name =
        .ok provider := by
  rcases register_cases registry isGenerator language provider aliases false with
    ⟨_, hsame⟩ | ⟨_, _, hpresent, _⟩ | ⟨_, _, hadded⟩
  · rw [hsame] at haccepted
    cases haccepted
  · exact absurd hpresent hnew
  · rw [hadded] at haccepted ⊢
    have hown : Keyed.get? (lowercase language)
        (registry.withProvider (lowercase language) provider).providers = some provider := by
      rw [withProvider, Keyed.get?_put, if_pos rfl]
    intro name hname
    rw [provider_eq_ok_iff, providers_addAliases]
    rcases List.mem_cons.mp hname with rfl | halias
    · exact Or.inl hown
    · rcases leads_of_addAliases_eq_ok haccepted name halias with hself | ⟨hnone, hlead⟩
      · exact Or.inl (hself ▸ hown)
      · exact Or.inr ⟨hnone, _, hlead, hown⟩

/-- Unregistering undoes a registration. A language that is new in a registry reached by any changes
is registered without replacing exactly if its provider is a generator and each of its aliases is
the language itself or unknown, and then the language and all of its aliases lead to the provider.
Without the language the registry is what it was before, whether or not the registration was
accepted. -/
theorem unregister_undoes_register (changes : List (Change κ))
    (hnew : lowercase language ∉ Keyed.keys (after isGenerator changes).providers) (provider : κ)
    (aliases : List String) :
    let registered :=
      (after isGenerator changes).register isGenerator language provider aliases false
    (registered.2 = .ok () ↔ isGenerator provider = true ∧ ∀ name ∈ aliases,
      lowercase name = lowercase language ∨
        (after isGenerator changes).isSupported name = false) ∧
    (registered.2 = .ok () →
      ∀ name ∈ language :: aliases, registered.1.provider name = .ok provider) ∧
    registered.1.unregister language = after isGenerator changes := by
  have hclosed := closed_after isGenerator changes
  exact ⟨register_eq_ok_iff hclosed hnew, provider_of_register_eq_ok hnew,
    unregister_register hclosed hnew⟩

end

/-- The language goes by the alias of another one, and its own aliases hold a repetition and its
name in another case. -/
theorem unregister_undoes_register_alias :
    lowercase "RS" ∉ Keyed.keys rustRegistry.providers ∧
      let registered :=
        rustRegistry.register Provider.isGenerator "RS" .shout ["loud", "Rs", "LOUD"] false
      registered.2 = .ok () ∧
        registered.1.aliases = [("rs", "rust"), ("loud", "rs")] ∧
        (∀ name ∈ ["RS", "loud", "Rs", "LOUD"], registered.1.provider name = .ok .shout) ∧
        registered.1.unregister "RS" = rustRegistry := by
  have hnew : lowercase "RS" ∉ Keyed.keys rustRegistry.providers := by decide +kernel
  obtain ⟨haccepted, hlead, hback⟩ := unregister_undoes_register
    [.register "rust" .rust ["rs"] false] hnew Provider.shout ["loud", "Rs", "LOUD"]
  have hok := haccepted.mpr ⟨rfl, by decide +kernel⟩
  exact ⟨hnew, hok, by decide +kernel, hlead hok, hback⟩

end TypestateBuilders.Registry
