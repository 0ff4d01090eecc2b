import TypestateBuilders.Proofs.Outcome
import TypestateBuilders.Registry.Provider

/-!
# Registered names

A registry changes by registering and unregistering, and a registration that is refused in the
middle of its aliases is a change too (`Registry.apply`). After any changes of an empty registry
every alias leads to a language that has a provider (`Registry.closed_after`), so a name is
supported exactly when it leads to a provider, and the only answer for another one is that no
language has this name (`Registry.supported_names_lead_to_providers`).

Without replacing, a registration keeps what names lead to, except for one: an alias that is the
name of the new language leads to its provider from then on (`Registry.provider_register_eq`). The
aliases in front of one that is refused stay, and so does the language, which a further registration
without replacing then leaves as it is (`Registry.unchanged_iff_of_rejected`).
-/

set_option autoImplicit false
set_option relaxedAutoImplicit false

namespace TypestateBuilders.Registry

open Text

/-- A change of a registry. -/
inductive Change (κ : Type)
  /-- A language gets a provider and aliases. -/
  | register (language : String) (provider : κ) (aliases : List String) (replace : Bool)
  /-- A language is taken away. -/
  | unregister (language : String)

section

variable {κ : Type}

/-- The registry after a change, whether it is accepted as a whole or not. -/
def apply (isGenerator : κ → Bool) (registry : Registry κ) : Change κ → Registry κ
  | .register language provider aliases replace =>
    (registry.register isGenerator language provider aliases replace).1
  | .unregister language => registry.unregister language

/-- An empty registry after some changes. -/
def after (isGenerator : κ → Bool) (changes : List (Change κ)) : Registry κ :=
  changes.foldl (apply isGenerator) {}

variable {registry next : Registry κ} {isGenerator : κ → Bool} {primary name language : String}
  {aliases names : List String} {provider found : κ} {replace : Bool} {error : RegistryError}

/-! ### What a registration does -/

/-- A name is free for a language if it is no primary name and leads to no other language. -/
theorem aliasConflict?_eq_none_iff : registry.aliasConflict? primary name = none ↔
    Keyed.get? (lowercase name) registry.providers = none ∧
      ∀ other, Keyed.get? (lowercase name) registry.aliases = some other → other = primary := by
  rw [aliasConflict?]
  cases hown : Keyed.get? (lowercase name) registry.providers with
  | some provider => simp
  | none =>
    cases htaken : Keyed.get? (lowercase name) registry.aliases with
    | none => simp
    | some other => by_cases hsame : other = primary <;> simp [hsame]

theorem aliasConflict?_eq_some (h : registry.aliasConflict? primary name = some error) :
    error = .aliasIsPrimary name ∧ lowercase name ∈ Keyed.keys registry.providers ∨
      ∃ other, error = .aliasTaken name other ∧
        Keyed.get? (lowercase name) registry.aliases = some other ∧ other ≠ primary := by
  rw [aliasConflict?] at h
  split at h
  · rename_i hown
    exact Or.inl ⟨(Option.some.inj h).symm, Keyed.isSome_get?_iff.mp hown⟩
  · split at h
    · rename_i other htaken
      split at h
      · cases h
      · rename_i hother
        exact Or.inr ⟨other, (Option.some.inj h).symm, htaken, hother⟩
    · cases h

/-- What one more alias can do: be passed over, be refused for a conflict, or be put down. -/
theorem addAlias_cases (registry : Registry κ) (primary : String) (replace : Bool) (name : String) :
    registry.addAlias primary replace name = .ok registry ∨
      (∃ error, replace = false ∧ registry.aliasConflict? primary name = some error ∧
        registry.addAlias primary replace name = .error error) ∨
      (replace = false → registry.aliasConflict? primary name = none) ∧
        registry.addAlias primary replace name =
          .ok { registry with aliases := Keyed.put (lowercase name) primary registry.aliases } := by
  rw [addAlias]
  by_cases hself : lowercase name = primary
  · rw [if_pos hself]
    exact Or.inl rfl
  rw [if_neg hself]
  refine Or.inr ?_
  cases replace with
  | true => exact Or.inr ⟨nofun, rfl⟩
  | false =>
    cases hconflict : registry.aliasConflict? primary name with
    | some error => exact Or.inl ⟨error, rfl, rfl, rfl⟩
    | none => exact Or.inr ⟨fun _ ↦ rfl, rfl⟩

/-- An alias that is accepted is passed over or put down for the language, and without replacing it
has no conflict. -/
theorem addAlias_eq_ok (h : registry.addAlias primary replace name = .ok next) :
    next = registry ∨
      next = { registry with aliases := Keyed.put (lowercase name) primary registry.aliases } ∧
        (replace = false → registry.aliasConflict? primary name = none) := by
  rcases addAlias_cases registry primary replace name with hsame | ⟨_, _, _, herror⟩ | ⟨hfree, hput⟩
  · rw [hsame] at h
    exact Or.inl (Except.ok.inj h).symm
  · rw [herror] at h
    cases h
  · rw [hput] at h
    exact Or.inr ⟨(Except.ok.inj h).symm, hfree⟩

/-- An alias is refused for a conflict, and only without replacing. -/
theorem addAlias_eq_error (h : registry.addAlias primary replace name = .error error) :
    replace = false ∧ registry.aliasConflict? primary name = some error := by
  rcases addAlias_cases registry primary replace name with
    hsame | ⟨refusal, hreplace, hconflict, herror⟩ | ⟨_, hput⟩
  · rw [hsame] at h
    cases h
  · rw [herror] at h
    obtain rfl := Except.error.inj h
    exact ⟨hreplace, hconflict⟩
  · rw [hput] at h
    cases h

/-- What every alias that is accepted preserves, several aliases preserve, up to the first that is
refused. -/
theorem addAliases_induction {motive : Registry κ → Prop} (hstart : motive registry)
    (hstep : ∀ current next name, motive current →
      current.addAlias primary replace name = .ok next → motive next) :
    motive (registry.addAliases primary replace names).1 := by
  induction names generalizing registry with
  | nil => exact hstart
  | cons name rest ih =>
    rw [addAliases]
    cases hfirst : registry.addAlias primary replace name with
    | ok next => exact ih (hstep registry next name hstart hfirst)
    | error error => exact hstart

/-- Aliases that are not all accepted are accepted up to one that is refused. -/
theorem addAliases_eq_error
    (h : registry.addAliases primary replace names = (next, .error error)) :
    ∃ front name back, names = front ++ name :: back ∧
      registry.addAliases primary replace front = (next, .ok ()) ∧
      next.addAlias primary replace name = .error error := by
  induction names generalizing registry with
  | nil => cases h
  | cons name rest ih =>
    rw [addAliases] at h
    cases hfirst : registry.addAlias primary replace name with
    | error refusal =>
      rw [hfirst] at h
      obtain ⟨rfl, hsame⟩ := Prod.mk.inj h
      obtain rfl := Except.error.inj hsame
      exact ⟨[], name, rest, rfl, rfl, hfirst⟩
    | ok middle =>
      rw [hfirst] at h
      obtain ⟨front, refused, back, rfl, hfront, hrefused⟩ := ih h
      refine ⟨name :: front, refused, back, rfl, ?_, hrefused⟩
      rw [addAliases, hfirst]
      exact hfront

theorem providers_addAliases :
    (registry.addAliases primary replace names).1.providers = registry.providers := by
  refine addAliases_induction
    (motive := fun current ↦ current.providers = registry.providers) rfl ?_
  intro current next name hcurrent haccepted
  rcases addAlias_eq_ok haccepted with rfl | ⟨rfl, _⟩
  · exact hcurrent
  · exact hcurrent

/-- Without replacing, what an alias leads to stays. -/
theorem get?_aliases_addAliases {key other : String}
    (h : Keyed.get? key registry.aliases = some other) :
    Keyed.get? key (registry.addAliases primary false names).1.aliases = some other := by
  refine addAliases_induction
    (motive := fun current ↦ Keyed.get? key current.aliases = some other) h ?_
  intro current next name hcurrent haccepted
  rcases addAlias_eq_ok haccepted with rfl | ⟨rfl, hfree⟩
  · exact hcurrent
  · rw [Keyed.get?_put]
    by_cases hkey : lowercase name = key
    · rw [if_pos hkey, (aliasConflict?_eq_none_iff.mp (hfree rfl)).2 other (hkey ▸ hcurrent)]
    · rw [if_neg hkey, hcurrent]

/-- A generator is put down for its language, and then come the aliases, unless the language is to
be left as it is. -/
theorem register_of_isGenerator (h : isGenerator provider = true) :
    registry.register isGenerator language provider aliases replace =
      if lowercase language ∈ Keyed.keys registry.providers ∧ replace = false then
        (registry, .ok ())
      else (registry.withProvider (lowercase language) provider).addAliases (lowercase language)
        replace aliases := by
  rw [register, h]
  simp only [Bool.not_true, Bool.false_eq_true, if_false, Bool.and_eq_true, Keyed.isSome_get?_iff,
    Bool.not_eq_true']

/-- What a registration can do: refuse a provider that is no generator, leave a language that is
registered as it is, or put the provider down and then add the aliases. -/
theorem register_cases (registry : Registry κ) (isGenerator : κ → Bool) (language : String)
    (provider : κ) (aliases : List String) (replace : Bool) :
    isGenerator provider = false ∧
        registry.register isGenerator language provider aliases replace =
          (registry, .error .notAGenerator) ∨
      (isGenerator provider = true ∧ replace = false ∧
        lowercase language ∈ Keyed.keys registry.providers ∧
        registry.register isGenerator language provider aliases replace = (registry, .ok ())) ∨
      isGenerator provider = true ∧
        (replace = false → lowercase language ∉ Keyed.keys registry.providers) ∧
        registry.register isGenerator language provider aliases replace =
          (registry.withProvider (lowercase language) provider).addAliases (lowercase language)
            replace aliases := by
  cases hgenerator : isGenerator provider with
  | false =>
    refine Or.inl ⟨rfl, ?_⟩
    rw [register, hgenerator]
    rfl
  | true =>
    rw [register_of_isGenerator hgenerator]
    by_cases hpresent : lowercase language ∈ Keyed.keys registry.providers ∧ replace = false
    · rw [if_pos hpresent]
      exact Or.inr (Or.inl ⟨rfl, hpresent.2, hpresent.1, rfl⟩)
    · rw [if_neg hpresent]
      exact Or.inr (Or.inr ⟨rfl, fun hreplace hmem ↦ hpresent ⟨hmem, hreplace⟩, rfl⟩)

/-! ### Aliases lead to providers -/

/-- Every alias leads to a language that has a provider. -/
def Closed (registry : Registry κ) : Prop :=
  ∀ entry ∈ registry.aliases, entry.2 ∈ Keyed.keys registry.providers

theorem closed_addAliases (h : registry.Closed)
    (hprimary : primary ∈ Keyed.keys registry.providers) :
    (registry.addAliases primary replace names).1.Closed := by
  have hboth : (registry.addAliases primary replace names).1.providers = registry.providers ∧
      (registry.addAliases primary replace names).1.Closed := by
    refine addAliases_induction
      (motive := fun current ↦ current.providers = registry.providers ∧ current.Closed) ⟨rfl, h⟩ ?_
    rintro current next name ⟨hproviders, hclosed⟩ haccepted
    rcases addAlias_eq_ok haccepted with rfl | ⟨rfl, _⟩
    · exact ⟨hproviders, hclosed⟩
    · refine ⟨hproviders, fun entry hentry ↦ ?_⟩
      rcases Keyed.mem_put hentry with rfl | hold
      · show primary ∈ Keyed.keys current.providers
        rw [hproviders]
        exact hprimary
      · exact hclosed entry hold
  exact hboth.2

theorem closed_register (h : registry.Closed) :
    (registry.register isGenerator language provider aliases replace).1.Closed := by
  rcases register_cases registry isGenerator language provider aliases replace with
    ⟨_, hsame⟩ | ⟨_, _, _, hsame⟩ | ⟨_, _, hadded⟩
  · rw [hsame]
    exact h
  · rw [hsame]
    exact h
  · rw [hadded]
    apply closed_addAliases
    · intro entry hentry
      exact Keyed.mem_keys_put.mpr (Or.inr (h entry hentry))
    · exact Keyed.mem_keys_put.mpr (Or.inl rfl)

theorem closed_unregister (h : registry.Closed) : (registry.unregister language).Closed := by
  intro entry hentry
  obtain ⟨hmem, hother⟩ := List.mem_filter.mp hentry
  exact Keyed.mem_keys_erase.mpr ⟨h entry hmem, of_decide_eq_true hother⟩

/-- Every change preserves that aliases lead to providers. -/
theorem closed_apply (h : registry.Closed) (change : Change κ) :
    (registry.apply isGenerator change).Closed := by
  cases change with
  | register language provider aliases replace => exact closed_register h
  | unregister language => exact closed_unregister h

/-- After any changes every alias leads to a language that has a provider. -/
theorem closed_after (isGenerator : κ → Bool) (changes : List (Change κ)) :
    (after isGenerator changes).Closed := by
  have hrun : ∀ start : Registry κ, start.Closed →
      (changes.foldl (apply isGenerator) start).Closed := by
    induction changes with
    | nil => exact fun _ hstart ↦ hstart
    | cons change rest ih => exact fun start hstart ↦ ih _ (closed_apply hstart change)
  exact hrun {} fun entry hentry ↦ absurd hentry List.not_mem_nil

/-! ### Looking up names -/

/-- Where aliases lead to providers, a name that leads to a primary name leads to a provider. -/
theorem exists_provider_of_primary? (h : registry.Closed)
    (hprimary : registry.primary? name = some primary) :
    ∃ provider, registry.provider name = .ok provider := by
  have hmem : primary ∈ Keyed.keys registry.providers := by
    simp only [primary?] at hprimary
    split at hprimary
    · rename_i hsome
      rw [← Option.some.inj hprimary]
      exact Keyed.isSome_get?_iff.mp hsome
    · exact h (lowercase name, primary) (Keyed.mem_of_get? hprimary)
  obtain ⟨provider, hprovider⟩ := Option.isSome_iff_exists.mp (Keyed.isSome_get?_iff.mpr hmem)
  refine ⟨provider, ?_⟩
  rw [Registry.provider, resolve, hprimary]
  simp only [hprovider]
  rfl

/-- A name that leads nowhere is refused. -/
theorem provider_of_primary?_eq_none (h : registry.primary? name = none) :
    registry.provider name = .error (.unknownLanguage name registry.languages) := by
  rw [Registry.provider, resolve, h]
  rfl

/-- Names lead to providers. After any changes of an empty registry, also refused ones, every alias
leads to a language that has a provider. So a name is supported exactly when it leads to a provider,
and looking up another one fails in one way alone: no language has this name. -/
theorem supported_names_lead_to_providers (isGenerator : κ → Bool) (changes : List (Change κ)) :
    (∀ entry ∈ (after isGenerator changes).aliases,
      entry.2 ∈ Keyed.keys (after isGenerator changes).providers) ∧
    ∀ name,
      ((after isGenerator changes).isSupported name = true ↔
        ∃ provider, (after isGenerator changes).provider name = .ok provider) ∧
      ∀ error, (after isGenerator changes).provider name = .error error →
        error = .unknownLanguage name (after isGenerator changes).languages := by
  have hclosed := closed_after isGenerator changes
  refine ⟨hclosed, fun name ↦ ?_⟩
  rw [isSupported]
  cases hprimary : (after isGenerator changes).primary? name with
  | none =>
    have hrefused := provider_of_primary?_eq_none hprimary
    rw [hrefused]
    refine ⟨iff_of_false Bool.false_ne_true ?_, fun error herror ↦ (Except.error.inj herror).symm⟩
    rintro ⟨_, hfound⟩
    cases hfound
  | some primary =>
    obtain ⟨provider, hfound⟩ := exists_provider_of_primary? hclosed hprimary
    rw [hfound]
    exact ⟨iff_of_true rfl ⟨provider, rfl⟩, fun error herror ↦ by cases herror⟩

/-! ### Names that a registration takes over -/

/-- A name leads to a provider under its own key or, if there is none, under that of an alias. -/
theorem provider_eq_ok_iff : registry.provider name = .ok found ↔
    Keyed.get? (lowercase name) registry.providers = some found ∨
      Keyed.get? (lowercase name) registry.providers = none ∧
        ∃ primary, Keyed.get? (lowercase name) registry.aliases = some primary ∧
          Keyed.get? primary registry.providers = some found := by
  rw [Registry.provider, resolve]
  simp only [primary?]
  cases hown : Keyed.get? (lowercase name) registry.providers with
  | some provider => simp [hown, Except.map]
  | none =>
    cases halias : Keyed.get? (lowercase name) registry.aliases with
    | none => simp [Except.map]
    | some primary =>
      cases hfound : Keyed.get? primary registry.providers <;> simp [hfound, Except.map]

/-- A language that is put down for the first time, with aliases that replace none, takes its own
name over and leaves what other names lead to. -/
theorem provider_addAliases_withProvider (h : registry.provider name = .ok found)
    (hnew : primary ∉ Keyed.keys registry.providers) :
    ((registry.withProvider primary provider).addAliases primary false names).1.provider name =
      .ok (if primary = lowercase name then provider else found) := by
  rw [provider_eq_ok_iff, providers_addAliases, withProvider, Keyed.get?_put]
  by_cases hname : primary = lowercase name
  · rw [if_pos hname, if_pos hname]
    exact Or.inl rfl
  · rw [if_neg hname, if_neg hname]
    rcases provider_eq_ok_iff.mp h with hown | ⟨hnone, other, halias, hother⟩
    · exact Or.inl hown
    · have hne : primary ≠ other := by
        rintro rfl
        exact hnew (Keyed.mem_keys_of_get? hother)
      refine Or.inr ⟨hnone, other, get?_aliases_addAliases halias, ?_⟩
      rw [Keyed.get?_put, if_neg hne, hother]

/-- Whether a registration takes a name over: it puts down a language of this name, which is no
primary name before. -/
def takesOver (registry : Registry κ) (isGenerator : κ → Bool) (language : String) (provider : κ)
    (name : String) : Bool :=
  isGenerator provider && !(Keyed.get? (lowercase language) registry.providers).isSome &&
    lowercase language = lowercase name

/-- Without replacing, a registration keeps what a name leads to, whether it is accepted or not,
except for a name that it takes over: this one leads to the new provider. -/
theorem provider_register_eq (h : registry.provider name = .ok found) (isGenerator : κ → Bool)
    (language : String) (provider : κ) (aliases : List String) :
    (registry.register isGenerator language provider aliases false).1.provider name =
      .ok (if registry.takesOver isGenerator language provider name then provider else found) := by
  rcases register_cases registry isGenerator language provider aliases false with
    ⟨hforeign, hsame⟩ | ⟨_, _, hpresent, hsame⟩ | ⟨hgenerator, hnew, hadded⟩
  · rw [hsame, takesOver, hforeign]
    exact h
  · rw [hsame, takesOver, Keyed.isSome_get?_iff.mpr hpresent, Bool.not_true, Bool.and_false]
    exact h
  · have habsent := Keyed.get?_eq_none_iff.mpr (hnew rfl)
    rw [hadded, provider_addAliases_withProvider h (hnew rfl), takesOver, hgenerator, habsent]
    simp only [Option.isSome_none, Bool.not_false, Bool.true_and, decide_eq_true_eq]

/-! ### Registrations that are refused -/

/-- A registration that is refused leaves the registry as it was exactly when the provider is no
generator. Otherwise it does not replace, and it goes as far as a registration with the aliases in
front of the first one that is a primary name or leads to another language. The language is
registered then, so that it is passed over when it is registered again without replacing, with
whatever provider and aliases. -/
theorem unchanged_iff_of_rejected
    (h : registry.register isGenerator language provider aliases replace = (next, .error error)) :
    (next = registry ↔ isGenerator provider = false) ∧
    (error = .notAGenerator ↔ isGenerator provider = false) ∧
    (isGenerator provider = true → replace = false ∧ ∃ front name back,
      aliases = front ++ name :: back ∧
      registry.register isGenerator language provider front false = (next, .ok ()) ∧
      (error = .aliasIsPrimary name ∧ lowercase name ∈ Keyed.keys next.providers ∨
        ∃ other, error = .aliasTaken name other ∧
          Keyed.get? (lowercase name) next.aliases = some other ∧ other ≠ lowercase language) ∧
      ∀ again others, isGenerator again = true →
        next.register isGenerator language again others false = (next, .ok ())) := by
  rcases register_cases registry isGenerator language provider aliases replace with
    ⟨hforeign, hsame⟩ | ⟨_, _, _, hsame⟩ | ⟨hgenerator, hnew, hadded⟩
  · rw [hsame] at h
    obtain ⟨hnext, herror⟩ := Prod.mk.inj h
    refine ⟨iff_of_true hnext.symm hforeign, iff_of_true (Except.error.inj herror).symm hforeign,
      fun hgenerator ↦ ?_⟩
    rw [hforeign] at hgenerator
    cases hgenerator
  · rw [hsame] at h
    cases h
  · rw [hadded] at h
    obtain ⟨front, name, back, rfl, hfront, hrefused⟩ := addAliases_eq_error h
    obtain ⟨rfl, hconflict⟩ := addAlias_eq_error hrefused
    have hcause := aliasConflict?_eq_some hconflict
    have hproviders :=
      calc next.providers
          = ((registry.withProvider (lowercase language) provider).addAliases (lowercase language)
              false front).1.providers := by rw [hfront]
        _ = Keyed.put (lowercase language) provider registry.providers := providers_addAliases
    have hregistered : lowercase language ∈ Keyed.keys next.providers := by
      rw [hproviders]
      exact Keyed.mem_keys_put.mpr (Or.inl rfl)
    have hneither : ¬ isGenerator provider = false := by
      rw [hgenerator]
      exact Bool.noConfusion
    refine ⟨iff_of_false ?_ hneither, iff_of_false ?_ hneither,
      fun _ ↦ ⟨rfl, front, name, back, rfl, ?_, hcause, fun again others hagain ↦ ?_⟩⟩
    · rintro rfl
      exact hnew rfl hregistered
    · rintro rfl
      rcases hcause with ⟨hprimary, _⟩ | ⟨_, htaken, _⟩
      · cases hprimary
      · cases htaken
    · rw [register_of_isGenerator hgenerator, if_neg fun hpresent ↦ hnew rfl hpresent.1]
      exact hfront
    · rw [register_of_isGenerator hagain, if_pos ⟨hregistered, rfl⟩]

end

/-! ### Registries of generators -/

/-- Changes of which one is refused in the middle of its aliases, and one puts a language down under
the alias of another one, which is taken away in the end. -/
def mixedChanges : List (Change Provider) :=
  [.register "Rust" .rust ["rs", "oxide"] false,
    .register "text" .plain ["txt", "RS", "note"] false, .register "RS" .shout [] false,
    .register "data" .foreign ["d"] true, .unregister "rust"]

theorem supported_names_lead_to_providers_mixedChanges :
    (after Provider.isGenerator mixedChanges).aliases = [("txt", "text")] ∧
      "text" ∈ Keyed.keys (after Provider.isGenerator mixedChanges).providers ∧
      (∃ provider, (after Provider.isGenerator mixedChanges).provider "TXT" = .ok provider) ∧
      (after Provider.isGenerator mixedChanges).provider "oxide" =
        .error (.unknownLanguage "oxide" (after Provider.isGenerator mixedChanges).languages) := by
  obtain ⟨hclosed, hnames⟩ := supported_names_lead_to_providers Provider.isGenerator mixedChanges
  have haliases : (after Provider.isGenerator mixedChanges).aliases = [("txt", "text")] := by
    decide +kernel
  have hunknown : (after Provider.isGenerator mixedChanges).isSupported "oxide" = false := by
    decide +kernel
  refine ⟨haliases, hclosed ("txt", "text") (haliases ▸ List.mem_singleton_self _),
    (hnames "TXT").1.mp (by decide +kernel), ?_⟩
  cases hfound : (after Provider.isGenerator mixedChanges).provider "oxide" with
  | ok provider =>
    rw [(hnames "oxide").1.mpr ⟨provider, hfound⟩] at hunknown
    cases hunknown
  | error error => rw [(hnames "oxide").2 error hfound]

/-- A registry that knows one language and an alias of it. -/
def rustRegistry : Registry Provider :=
  after Provider.isGenerator [.register "rust" .rust ["rs"] false]

theorem provider_register_eq_rust :
    rustRegistry.provider "RS" = .ok .rust ∧
      (rustRegistry.register Provider.isGenerator "text" .plain ["txt", "rs"] false).1.provider
        "RS" = .ok .rust := by
  have hfound : rustRegistry.provider "RS" = .ok .rust := by decide +kernel
  have hkept : rustRegistry.takesOver Provider.isGenerator "text" .plain "RS" = false := by
    decide +kernel
  refine ⟨hfound, ?_⟩
  rw [provider_register_eq hfound, hkept]
  rfl

/-- A registration can take an alias over, also one that does not replace. -/
theorem exists_name_taken_over :
    rustRegistry.provider "rs" = .ok .rust ∧
      (rustRegistry.register Provider.isGenerator "rs" .plain [] false).2 = .ok () ∧
      (rustRegistry.register Provider.isGenerator "rs" .plain [] false).1.provider "rs" =
        .ok .plain ∧
      ¬ ∀ (changes : List (Change Provider)) (name : String) (found : Provider),
        (after Provider.isGenerator changes).provider name = .ok found →
          ∀ language provider aliases,
            ((after Provider.isGenerator changes).register Provider.isGenerator language provider
              aliases false).1.provider name = .ok found := by
  have hfound : rustRegistry.provider "rs" = .ok .rust := by decide +kernel
  have htaken : (rustRegistry.register Provider.isGenerator "rs" .plain [] false).1.provider "rs" =
      .ok .plain := by decide +kernel
  refine ⟨hfound, by decide +kernel, htaken, fun hkept ↦ ?_⟩
  have hsame := hkept _ "rs" .rust hfound "rs" .plain []
  exact absurd (Except.ok.inj (htaken.symm.trans hsame)) (by decide)

/-- What is left of `rustRegistry` and a language whose second alias was refused. -/
def textRegistry : Registry Provider where
  providers := [("rust", .rust), ("text", .plain)]
  aliases := [("rs", "rust"), ("txt", "text")]

theorem unchanged_iff_of_rejected_text :
    rustRegistry.register Provider.isGenerator "text" .plain ["txt", "RS", "note"] false =
        (textRegistry, .error (.aliasTaken "RS" "rust")) ∧
      textRegistry ≠ rustRegistry ∧
      ∀ others, textRegistry.register Provider.isGenerator "text" .plain others false =
        (textRegistry, .ok ()) := by
  have hrejected :
      rustRegistry.register Provider.isGenerator "text" .plain ["txt", "RS", "note"] false =
        (textRegistry, .error (.aliasTaken "RS" "rust")) := by decide +kernel
  have hgenerator : Provider.isGenerator .plain = true := rfl
  obtain ⟨hunchanged, _, htrace⟩ := unchanged_iff_of_rejected hrejected
  obtain ⟨_, _, _, _, _, _, _, hagain⟩ := htrace hgenerator
  refine ⟨hrejected, fun hsame ↦ ?_, fun others ↦ hagain .plain others hgenerator⟩
  rw [hunchanged.mp hsame] at hgenerator
  cases hgenerator

/-- A registration that is refused can leave the language behind and the aliases in front of the one
that is refused. -/
theorem exists_trace_of_rejected :
    rustRegistry.register Provider.isGenerator "text" .plain ["txt", "rs"] false =
        (textRegistry, .error (.aliasTaken "rs" "rust")) ∧
      ¬ ∀ (changes : List (Change Provider)) (language : String) (provider : Provider)
          (aliases : List String) (replace : Bool) (next : Registry Provider)
          (error : RegistryError),
        (after Provider.isGenerator changes).register Provider.isGenerator language provider aliases
            replace = (next, .error error) →
          next = after Provider.isGenerator changes := by
  have hrejected : rustRegistry.register Provider.isGenerator "text" .plain ["txt", "rs"] false =
      (textRegistry, .error (.aliasTaken "rs" "rust")) := by decide +kernel
  refine ⟨hrejected, fun hunchanged ↦ ?_⟩
  have hsame : textRegistry = rustRegistry := hunchanged _ _ _ _ _ _ _ hrejected
  exact absurd hsame (by decide +kernel)

end TypestateBuilders.Registry
