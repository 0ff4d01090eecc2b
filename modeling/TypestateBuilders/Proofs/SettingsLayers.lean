import Mathlib.Data.List.Nodup
import TypestateBuilders.Proofs.JsonMembers
import TypestateBuilders.Proofs.NamedTables
import TypestateBuilders.Proofs.Outcome

/-!
# What layers of settings come to

Each setting is read by its name (`Settings.value?`), and in layers of settings the caller comes
first, then the file and then the default (`Settings.effective?`). The defaults of a language are
the common ones (`Settings.or_languageDefaults`), so it does not matter which language settings are
made for.

Settings are made from members one by one, and the members that are settings cover the defaults
(`Settings.ofMembers_eq`). All other members go to `custom`, on top of what is there
(`Settings.ofMixed_eq`). `Settings.load_layers` puts this together with the check of the policies.
-/

set_option autoImplicit false
set_option relaxedAutoImplicit false

namespace TypestateBuilders.Settings

open Outcome

/-- The value of the setting with a name. -/
def value? (settings : Settings) (name : String) : Option Value :=
  Keyed.get? name settings.entries

/-- The value of a setting in layers: what the caller gives, or else what the file gives, or else
the default. -/
def effective? (file : List (String × Value)) (given : Named) (name : String) : Option Value :=
  ((given.content? (.text name)).or (Keyed.get? name file)).or (value? {} name)

/-- The members that are no settings. -/
def unknown (members : Named) : Named :=
  members.filter fun member ↦ !isSetting member.1

/-- The members that are settings, as those of an object. -/
def known (members : Named) : List (String × Value) :=
  Named.entries (members.filter fun member ↦ isSetting member.1)

/-- The members of the file that settings come from, if there is one. An empty name counts as
none. -/
def fileMembers (store : Files.Store) (file : Option String) :
    Except SettingsError (List (String × Value)) :=
  match file.filter (· ≠ "") with
  | some name => readFile store (Files.Path.ofText name)
  | none => .ok []

variable {settings next : Settings} {name language : String} {value : Value}
  {members : List (String × Value)}

/-! ### Settings by name -/

theorem entries_of_set? (h : settings.set? name value = some next) :
    next.entries = Keyed.put name value settings.entries := by
  unfold set? at h
  split at h
  case h_10 => cases h
  all_goals
    obtain rfl := Option.some.inj h
    rfl

theorem exists_set?_iff : (∃ next, settings.set? name value = some next) ↔ isKnown name = true := by
  unfold isKnown set?
  split <;> simp

theorem isKnown_of_mem_keys (h : name ∈ Keyed.keys settings.entries) : isKnown name = true := by
  have hall : ∀ known ∈ Keyed.keys settings.entries, isKnown known = true := by
    simp [entries, Keyed.keys, isKnown, set?]
  exact hall name h

theorem nodup_keys_entries (settings : Settings) : (Keyed.keys settings.entries).Nodup := by
  simp [entries, Keyed.keys]

theorem entries_injective : Function.Injective entries := by
  rintro ⟨⟩ ⟨⟩ h
  simpa [entries] using h

/-- Settings with the same values are the same. -/
theorem eq_of_value? {first second : Settings}
    (h : ∀ name, isKnown name = true → first.value? name = second.value? name) : first = second :=
  entries_injective (Keyed.eq_of_get? rfl (nodup_keys_entries first) fun name hname ↦
    h name (isKnown_of_mem_keys hname))

theorem value?_custom (settings : Settings) : settings.value? "custom" = some settings.custom := by
  simp [value?, entries, Keyed.get?]

theorem value?_fieldCollision (settings : Settings) :
    settings.value? "field_collision" = some settings.fieldCollision := by
  simp [value?, entries, Keyed.get?]

theorem value?_unnamedOperations (settings : Settings) :
    settings.value? "unnamed_operations" = some settings.unnamedOperations := by
  simp [value?, entries, Keyed.get?]

/-- Members that are settings can be set one after the other, and then they are put on top of the
settings there were. -/
theorem exists_foldlM_eq_ok {assign : Settings → String × Value → Except SettingsError Settings}
    (hassign : ∀ settings member next, settings.set? member.1 member.2 = some next →
      assign settings member = .ok next)
    (hknown : ∀ member ∈ members, isKnown member.1 = true) (start : Settings) :
    ∃ settings, members.foldlM assign start = .ok settings ∧
      settings.entries = Keyed.putAll start.entries members := by
  induction members generalizing start with
  | nil => exact ⟨start, rfl, rfl⟩
  | cons member rest ih =>
    obtain ⟨hmember, hrest⟩ := List.forall_mem_cons.mp hknown
    obtain ⟨next, hnext⟩ := exists_set?_iff.mpr hmember
    obtain ⟨settings, hsettings, hentries⟩ := ih hrest next
    refine ⟨settings, ?_, ?_⟩
    · rw [List.foldlM_cons, hassign start member next hnext]
      exact hsettings
    · rw [hentries, entries_of_set? hnext]
      rfl

/-- Members that are settings, each given once, cover the defaults. -/
theorem ofMembers_eq (hknown : ∀ member ∈ members, isKnown member.1 = true)
    (hnodup : (Keyed.keys members).Nodup) :
    ∃ settings, ofMembers members = .ok settings ∧
      ∀ name, settings.value? name = (Keyed.get? name members).or (value? {} name) := by
  have hmade : ∃ settings, ofMembers members = .ok settings ∧
      settings.entries = Keyed.putAll ({} : Settings).entries members :=
    exists_foldlM_eq_ok (fun _ _ _ hnext ↦ by rw [hnext]) hknown {}
  obtain ⟨settings, hsettings, hentries⟩ := hmade
  refine ⟨settings, hsettings, fun name ↦ ?_⟩
  rw [value?, hentries, Keyed.get?_putAll hnodup, value?]

/-! ### Members of whatever name -/

section

variable {mixed : Named}

theorem exists_text_of_isSetting {key : NameKey} (h : isSetting key = true) :
    ∃ name, key = .text name := by
  cases key with
  | text name => exact ⟨name, rfl⟩
  | _ => cases h

/-- Among members of whatever name, those that are settings are members of an object. -/
theorem ofObject_known (h : mixed.IsSpelled) :
    Named.ofObject (known mixed) = mixed.filter fun member ↦ isSetting member.1 :=
  Named.ofObject_entries (fun member hmember ↦ h member (List.mem_filter.mp hmember).1)
    fun _ hmember ↦ exists_text_of_isSetting (List.mem_filter.mp hmember).2

theorem isKnown_of_mem_known (h : mixed.IsSpelled) :
    ∀ member ∈ known mixed, isKnown member.1 = true := by
  intro member hmember
  have hmem : (NameKey.text member.1, member) ∈ mixed.filter fun member ↦ isSetting member.1 := by
    rw [← ofObject_known h]
    exact List.mem_map_of_mem hmember
  exact (List.mem_filter.mp hmem).2

theorem nodup_keys_known (h : mixed.IsSpelled) (hnodup : (Keyed.keys mixed).Nodup) :
    (Keyed.keys (known mixed)).Nodup := by
  refine List.Nodup.of_map NameKey.text ?_
  rw [← Named.keys_ofObject, ofObject_known h]
  exact (List.filter_sublist.map Prod.fst).nodup hnodup

theorem get?_known (h : mixed.IsSpelled) (hname : isKnown name = true) :
    Keyed.get? name (known mixed) = mixed.content? (.text name) := by
  have hkept : isSetting (.text name) = true := hname
  rw [← Named.content?_ofObject, ofObject_known h, Named.content?, Keyed.get?_filter, if_pos hkept,
    Named.content?]

theorem ofMixed_eq_ofMembers (h : mixed.IsSpelled) {own : List (String × Value)}
    (hcustom : (mixed.content? (.text "custom")).getD (.object []) = .object own) :
    ofMixed mixed =
      if (unknown mixed).isEmpty then ofMembers (known mixed)
      else ofMembers (Keyed.put "custom"
        (.object ((Named.ofObject own).putAll (unknown mixed)).entries) (known mixed)) := by
  have hparts : mixed.partition (fun member ↦ isSetting member.1) =
      (Named.ofObject (known mixed), unknown mixed) := by
    rw [List.partition_eq_filter_filter, ofObject_known h]
    rfl
  have hown : (Keyed.get? "custom" (known mixed)).getD (.object []) = .object own := by
    rw [get?_known h rfl, hcustom]
  rw [ofMixed, hparts]
  simp only [Named.entries_ofObject, Named.content?_ofObject, hown]
  rfl

/-- Settings of members: those that are settings cover the defaults, and all others are put on top
of the object under `custom`. -/
theorem ofMixed_eq {own : List (String × Value)} (h : mixed.IsSpelled)
    (hnodup : (Keyed.keys mixed).Nodup)
    (hcustom : (mixed.content? (.text "custom")).getD (.object []) = .object own) :
    ∃ settings, ofMixed mixed = .ok settings ∧
      (∀ name, isKnown name = true → name ≠ "custom" →
        settings.value? name = (mixed.content? (.text name)).or (value? {} name)) ∧
      settings.custom = .object ((Named.ofObject own).putAll (unknown mixed)).entries := by
  have hknown := isKnown_of_mem_known h
  have hkeys := nodup_keys_known h hnodup
  rw [ofMixed_eq_ofMembers h hcustom]
  by_cases hothers : (unknown mixed).isEmpty = true
  · obtain ⟨settings, hsettings, hvalue⟩ := ofMembers_eq hknown hkeys
    refine ⟨settings, ?_, fun name hname _ ↦ ?_, ?_⟩
    · rw [if_pos hothers, hsettings]
    · rw [hvalue, get?_known h hname]
    · have hfound := hvalue "custom"
      rw [value?_custom, value?_custom, Option.or_some, get?_known h rfl, hcustom] at hfound
      rw [List.isEmpty_iff.mp hothers, Option.some.inj hfound]
      exact congrArg Value.object (Named.entries_ofObject own).symm
  · have hput : ∀ content, ∀ member ∈ Keyed.put "custom" content (known mixed),
        isKnown member.1 = true := by
      intro content member hmember
      rcases Keyed.mem_put hmember with rfl | hold
      · rfl
      · exact hknown member hold
    obtain ⟨settings, hsettings, hvalue⟩ := ofMembers_eq
      (hput (.object ((Named.ofObject own).putAll (unknown mixed)).entries))
      (Keyed.nodup_keys_put hkeys)
    refine ⟨settings, ?_, fun name hname hne ↦ ?_, ?_⟩
    · rw [if_neg hothers, hsettings]
    · rw [hvalue, Keyed.get?_put, if_neg hne.symm, get?_known h hname]
    · have hfound := hvalue "custom"
      rw [value?_custom, Keyed.get?_put, if_pos rfl] at hfound
      exact Option.some.inj hfound

end

/-! ### Policies -/

theorem policyName_text (setting : String) (known : List String) (name : String) :
    policyName setting known (.text name) =
      if name ∈ known then .ok name else .error (.unknownPolicy setting (.text name) known) := by
  by_cases hname : name ∈ known
  · simp [policyName, isOneOf, hname, Value.display, bind, Except.bind, pure, Except.pure]
  · simp [policyName, isOneOf, hname, bind, Except.bind]
    rfl

/-- Policies that are given by texts are accepted if both are known. -/
theorem exists_policies {collision unnamed : String}
    (hcollision : settings.fieldCollision = .text collision)
    (hunnamed : settings.unnamedOperations = .text unnamed)
    (hknown : collision ∈ collisionPolicies ∧ unnamed ∈ unnamedPolicies) :
    ∃ found, settings.policies = .ok found := by
  rw [policies, hcollision, hunnamed, policyName_text, policyName_text, if_pos hknown.1,
    if_pos hknown.2]
  exact ⟨_, rfl⟩

/-- If one of them is unknown, that is an error of configuration. -/
theorem exists_policies_error {collision unnamed : String}
    (hcollision : settings.fieldCollision = .text collision)
    (hunnamed : settings.unnamedOperations = .text unnamed)
    (hunknown : ¬ (collision ∈ collisionPolicies ∧ unnamed ∈ unnamedPolicies)) :
    ∃ error, settings.policies = .error error ∧ error.isConfiguration = true := by
  rw [policies, hcollision, hunnamed, policyName_text, policyName_text]
  by_cases hfirst : collision ∈ collisionPolicies
  · rw [if_pos hfirst, if_neg fun hsecond ↦ hunknown ⟨hfirst, hsecond⟩]
    exact ⟨_, rfl, rfl⟩
  · rw [if_neg hfirst]
    exact ⟨_, rfl, rfl⟩

/-! ### Layers -/

/-- What is a default of a language is one of all languages. -/
theorem languageDefaults_sublist (language : String) :
    (languageDefaults language).Sublist ({} : Settings).entries := by
  rw [languageDefaults]
  split
  · exact .cons _ (.cons_cons _ (.cons _ (.cons_cons _ (.cons_cons _ (.cons_cons _ (.cons_cons _
      (.cons_cons _ (.cons _ .slnil))))))))
  · exact List.nil_sublist _

theorem value?_of_mem_languageDefaults {entry : String × Value}
    (h : entry ∈ languageDefaults language) : value? {} entry.1 = some entry.2 :=
  Keyed.get?_of_mem (nodup_keys_entries {}) ((languageDefaults_sublist language).subset h)

/-- The defaults of a language are the common ones. -/
theorem or_languageDefaults (language name : String) :
    (Keyed.get? name (languageDefaults language)).or (value? {} name) = value? {} name := by
  cases hfound : Keyed.get? name (languageDefaults language) with
  | none => rfl
  | some value => exact (value?_of_mem_languageDefaults (Keyed.mem_of_get? hfound)).symm

theorem unknown_languageDefaults (language : String) :
    unknown (.ofObject (languageDefaults language)) = [] := by
  refine List.filter_eq_nil_iff.mpr fun member hmember ↦ ?_
  obtain ⟨entry, hentry, rfl⟩ := List.mem_map.mp hmember
  have hknown : isKnown entry.1 = true :=
    isKnown_of_mem_keys (Keyed.mem_keys_of_get? (value?_of_mem_languageDefaults hentry))
  simpa [isSetting] using hknown

theorem nodup_keys_languageDefaults (language : String) :
    (Keyed.keys (languageDefaults language)).Nodup :=
  ((languageDefaults_sublist language).map Prod.fst).nodup (nodup_keys_entries {})

/-- The members of all layers. -/
def layered (language : String) (file : List (String × Value)) (given : Named) : Named :=
  (Named.ofObject (Keyed.putAll (languageDefaults language) file)).putAll given

section

variable {file own : List (String × Value)} {given : Named}

theorem or_content?_layered (hfile : (Keyed.keys file).Nodup) (hgiven : (Keyed.keys given).Nodup)
    (language name : String) :
    ((layered language file given).content? (.text name)).or (value? {} name) =
      effective? file given name := by
  rw [layered, Named.content?_putAll hgiven, Named.content?_ofObject, Keyed.get?_putAll hfile,
    Option.or_assoc, Option.or_assoc, or_languageDefaults, ← Option.or_assoc, effective?]

/-- The members of all layers that are no settings, on top of other members: first those of the file
and then those of the caller. -/
theorem putAll_unknown_layered (named : Named) (language : String) :
    named.putAll (unknown (layered language file given)) =
      (named.putAll (unknown (.ofObject file))).putAll (unknown given) := by
  have hnil : (Keyed.keys ([] : Named)).Nodup := List.nodup_nil
  have hparts : unknown (layered language file given) =
      (Named.putAll [] (unknown (.ofObject file))).putAll (unknown given) := by
    rw [layered, Named.ofObject_putAll, unknown,
      Named.filter_putAll fun key ↦ !isSetting key, Named.filter_putAll fun key ↦ !isSetting key,
      ← unknown, ← unknown, ← unknown, unknown_languageDefaults]
  rw [hparts, Named.putAll_putAll (Named.nodup_keys_putAll hnil), Named.putAll_putAll hnil]
  rfl

theorem nodup_keys_layered (language : String) :
    (Keyed.keys (layered language file given)).Nodup := by
  refine Named.nodup_keys_putAll ?_
  rw [Named.keys_ofObject]
  exact (Keyed.nodup_keys_putAll (nodup_keys_languageDefaults language)).map fun _ _ hname ↦
    NameKey.text.inj hname

theorem isSpelled_layered (hgiven : given.IsSpelled) (language : String) :
    (layered language file given).IsSpelled :=
  Named.isSpelled_putAll (Named.isSpelled_ofObject _) hgiven

/-- The members of all layers make the same settings for every language. -/
theorem exists_ofMixed_layered (hfile : (Keyed.keys file).Nodup)
    (hgiven : (Keyed.keys given).Nodup) (hspelled : given.IsSpelled)
    (hcustom : effective? file given "custom" = some (.object own)) :
    ∃ settings : Settings,
      (∀ name, isKnown name = true → name ≠ "custom" →
        settings.value? name = effective? file given name) ∧
      settings.custom = .object (Named.entries
        (((Named.ofObject own).putAll (unknown (.ofObject file))).putAll (unknown given))) ∧
      ∀ language, ofMixed (layered language file given) = .ok settings := by
  have hlanguage : ∀ language, ∃ settings, ofMixed (layered language file given) = .ok settings ∧
      (∀ name, isKnown name = true → name ≠ "custom" →
        settings.value? name = effective? file given name) ∧
      settings.custom = .object (Named.entries
        (((Named.ofObject own).putAll (unknown (.ofObject file))).putAll (unknown given))) := by
    intro language
    have hvalue := or_content?_layered hfile hgiven language
    have hown : ((layered language file given).content? (.text "custom")).getD (.object []) =
        .object own := by
      have hfound := (hvalue "custom").trans hcustom
      rw [value?_custom, Option.or_some] at hfound
      exact Option.some.inj hfound
    obtain ⟨settings, hsettings, hknown, hput⟩ :=
      ofMixed_eq (isSpelled_layered hspelled language) (nodup_keys_layered language) hown
    refine ⟨settings, hsettings, fun name hname hne ↦ ?_, ?_⟩
    · rw [hknown name hname hne, hvalue]
    · rw [hput, putAll_unknown_layered]
  obtain ⟨settings, _, hknown, hput⟩ := hlanguage ""
  refine ⟨settings, hknown, hput, fun language ↦ ?_⟩
  obtain ⟨others, hothers, hknown', hput'⟩ := hlanguage language
  have hsame : others = settings := by
    refine eq_of_value? fun name hname ↦ ?_
    by_cases hname' : name = "custom"
    · rw [hname', value?_custom, value?_custom, hput, hput']
    · rw [hknown name hname hname', hknown' name hname hname']
  rw [hothers, hsame]

end

/-! ### What is given -/

theorem nodup_keys_of_readFile {store : Files.Store} {path : Files.Path}
    (h : readFile store path = .ok members) : (Keyed.keys members).Nodup := by
  rw [readFile] at h
  split at h
  · cases h
  · cases h
  split at h
  · cases h
  split at h
  · cases h
  split at h
  · cases h
  split at h
  · cases h
  · rename_i hread
    obtain rfl := Except.ok.inj h
    exact Json.nodup_keys_of_read hread
  · cases h

theorem nodup_keys_of_fileMembers {store : Files.Store} {file : Option String}
    (h : fileMembers store file = .ok members) : (Keyed.keys members).Nodup := by
  rw [fileMembers] at h
  split at h
  · exact nodup_keys_of_readFile h
  · obtain rfl := Except.ok.inj h
    exact List.nodup_nil

theorem isSpelled_of_givenMembers {given : Value} {named : Named}
    (h : givenMembers given = .ok named) : named.IsSpelled := by
  rw [givenMembers] at h
  split at h
  · unfold membersOf at h
    split at h
    · obtain rfl := Except.ok.inj h
      exact Named.isSpelled_ofObject _
    · split at h
      · cases h
      · obtain ⟨pairs, _, rfl⟩ := map_eq_ok.mp h
        exact Named.isSpelled_ofPairs pairs
  · obtain rfl := Except.ok.inj h
    exact fun _ hmember ↦ absurd hmember List.not_mem_nil

/-- What is given by a file and by the caller is all that settings are made from. -/
theorem outcome_load {store : Files.Store} {file : Option String} {given : Value} {named : Named}
    (hfile : fileMembers store file = .ok members) (hgiven : givenMembers given = .ok named)
    (language : String) :
    (load store language given file).outcome = ofLayers language members named := by
  unfold fileMembers at hfile
  unfold load
  cases hname : file.filter (· ≠ "") with
  | none =>
    rw [hname] at hfile
    obtain rfl := Except.ok.inj hfile
    simp only [Logged.outcome_bind, Logged.outcome_pure, Logged.outcome_lift, hgiven]
    rfl
  | some name =>
    rw [hname] at hfile
    have hread : (loadFile store name).outcome = .ok members := by
      simp only [loadFile, Logged.outcome_bind, Logged.outcome_lift, Logged.outcome_report, hfile,
        Logged.outcome_pure]
      rfl
    simp only [Logged.outcome_bind, Logged.outcome_lift, hread, hgiven]
    rfl

/-! ### The settings of all layers -/

/-- What the caller gives covers what the file gives, and this covers the defaults, whatever the
language. The caller gives no member twice. A policy without a known name is an error of
configuration, and no other error occurs. If both policies have known names, there are settings.
Each of them but `custom` has its value in layers. `custom` is the object that is its value in
layers, and all members that are no settings are put on top of it: first those of the file, then
those of the caller. -/
theorem load_layers {store : Files.Store} {file : Option String} {given : Value}
    {fromFile own : List (String × Value)} {fromCaller : Named} {collision unnamed : String}
    (hfile : fileMembers store file = .ok fromFile) (hgiven : givenMembers given = .ok fromCaller)
    (hnames : (Keyed.keys fromCaller).Nodup)
    (hcollision : effective? fromFile fromCaller "field_collision" = some (.text collision))
    (hunnamed : effective? fromFile fromCaller "unnamed_operations" = some (.text unnamed))
    (hcustom : effective? fromFile fromCaller "custom" = some (.object own)) (language : String) :
    ((∃ error, (load store language given file).outcome = .error error ∧
        error.isConfiguration = true) ↔
      ¬ (collision ∈ collisionPolicies ∧ unnamed ∈ unnamedPolicies)) ∧
    (collision ∈ collisionPolicies → unnamed ∈ unnamedPolicies →
      ∃ settings, (load store language given file).outcome = .ok settings ∧
        (∀ name, isKnown name = true → name ≠ "custom" →
          settings.value? name = effective? fromFile fromCaller name) ∧
        settings.custom = .object (Named.entries
          (((Named.ofObject own).putAll (unknown (.ofObject fromFile))).putAll
            (unknown fromCaller)))) ∧
    ∀ other, (load store other given file).outcome = (load store language given file).outcome := by
  obtain ⟨settings, hknown, hput, hmade⟩ := exists_ofMixed_layered
    (nodup_keys_of_fileMembers hfile) hnames (isSpelled_of_givenMembers hgiven) hcustom
  have hload : ∀ language, (load store language given file).outcome =
      settings.policies.map fun _ ↦ settings := by
    intro language
    rw [outcome_load hfile hgiven, ofLayers, ← layered, hmade]
    rfl
  have hfirst : settings.fieldCollision = .text collision := by
    have hvalue := hknown "field_collision" rfl (by decide)
    rw [value?_fieldCollision, hcollision] at hvalue
    exact Option.some.inj hvalue
  have hsecond : settings.unnamedOperations = .text unnamed := by
    have hvalue := hknown "unnamed_operations" rfl (by decide)
    rw [value?_unnamedOperations, hunnamed] at hvalue
    exact Option.some.inj hvalue
  have haccepted : collision ∈ collisionPolicies ∧ unnamed ∈ unnamedPolicies →
      (load store language given file).outcome = .ok settings := by
    intro hboth
    obtain ⟨found, hfound⟩ := exists_policies hfirst hsecond hboth
    rw [hload, hfound]
    rfl
  refine ⟨⟨?_, ?_⟩, ?_, fun other ↦ (hload other).trans (hload language).symm⟩
  · rintro ⟨error, herror, _⟩ hboth
    rw [haccepted hboth] at herror
    cases herror
  · intro hunknown
    obtain ⟨error, herror, hkind⟩ := exists_policies_error hfirst hsecond hunknown
    refine ⟨error, ?_, hkind⟩
    rw [hload, herror]
    rfl
  · exact fun hc hu ↦ ⟨settings, haccepted ⟨hc, hu⟩, hknown, hput⟩

/-- The members of an object in a file. -/
def lintMembers : List (String × Value) :=
  [("emit_impls", .bool false), ("edition", .text "2018"), ("unnamed_operations", .text "error"),
    ("custom", .object [("lint", .text "deny")])]

/-- A directory with this file. -/
def lintStore : Files.Store :=
  [(⟨false, ["lint.json"]⟩, .file
    ("\x7b\"emit_impls\": false, \"edition\": \"2018\", \"unnamed_operations\": \"error\", " ++
      "\"custom\": \x7b\"lint\": \"deny\"\x7d\x7d").toUTF8)]

/-- What a caller puts on top of it. -/
def editionMembers : List (String × Value) :=
  [("emit_impls", .bool true), ("edition", .text "2021"), ("strict", .bool true)]

/-- Whether a file is read as these members. Values cannot be compared with each other, only with a
pattern. -/
def isLint : Except SettingsError (List (String × Value)) → Bool
  | .ok [("emit_impls", .bool false), ("edition", .text "2018"),
      ("unnamed_operations", .text "error"), ("custom", .object [("lint", .text "deny")])] => true
  | _ => false

theorem eq_of_isLint {found : Except SettingsError (List (String × Value))}
    (h : isLint found = true) : found = .ok lintMembers := by
  unfold isLint at h
  split at h
  · rfl
  · cases h

theorem fileMembers_lintStore : fileMembers lintStore (some "lint.json") = .ok lintMembers :=
  eq_of_isLint (by decide +kernel)

theorem load_layers_lint :
    fileMembers lintStore (some "lint.json") = .ok lintMembers ∧
      ∃ settings,
        (load lintStore "cobol" (.object editionMembers) (some "lint.json")).outcome =
          .ok settings ∧
        settings.emitImpls = .bool true ∧ settings.unnamedOperations = .text "error" ∧
        settings.addComments = .bool true ∧
        settings.custom = .object
          [("lint", .text "deny"), ("edition", .text "2021"), ("strict", .bool true)] ∧
        (load lintStore "rust" (.object editionMembers) (some "lint.json")).outcome =
          .ok settings := by
  have hgiven : givenMembers (.object editionMembers) = .ok (.ofObject editionMembers) := rfl
  have hcollision : effective? lintMembers (.ofObject editionMembers) "field_collision" =
      some (.text "drop") := rfl
  have hunnamed : effective? lintMembers (.ofObject editionMembers) "unnamed_operations" =
      some (.text "error") := rfl
  have hown : effective? lintMembers (.ofObject editionMembers) "custom" =
      some (.object [("lint", .text "deny")]) := rfl
  obtain ⟨_, hmade, hlanguage⟩ := load_layers fileMembers_lintStore hgiven (by decide) hcollision
    hunnamed hown "cobol"
  obtain ⟨settings, hsettings, hvalue, hcustom⟩ := hmade (by decide) (by decide)
  refine ⟨fileMembers_lintStore, settings, hsettings, ?_, ?_, ?_, hcustom,
    (hlanguage "rust").trans hsettings⟩
  · exact Option.some.inj (hvalue "emit_impls" rfl (by decide))
  · exact Option.some.inj (hvalue "unnamed_operations" rfl (by decide))
  · exact Option.some.inj (hvalue "add_comments" rfl (by decide))

end TypestateBuilders.Settings
