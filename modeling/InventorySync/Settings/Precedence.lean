import InventorySync.Settings.Sources

/-!
# Precedence of the settings sources

A field resolves to the value of the first source that has it, in the order constructor, process
environment, Key Vault, `.env`, secret files. But every source is asked before any value counts, and
Key Vault raises for a declared field without a secret even where the constructor or the environment
has the field.

* `buildValues_eq_ok` and `buildValues_eq_error`: settings are built exactly when Key Vault, if it
  is asked, has a secret for every declared field;
* `precedence_iff`: the documented precedence holds exactly when no secret is missing, or one is
  missing that no stronger source stands in for.
-/

open Python

namespace Settings

/-! ### What the sources are for -/

section Spec

variable (settingsCls : SettingsClass) (contents : Contents)

/-- Key Vault is asked for a declared field that it has no secret for. -/
def Missing (fieldName : String) : Prop :=
  ∃ url, vaultUrl contents.envSettings = some url ∧ settingsCls.Declared fieldName ∧
    ∃ e, contents.vaultAt url (secretName fieldName) = .error e

/-- Neither the constructor nor the environment has the field. -/
def Unsupplied (fieldName : String) : Prop :=
  contents.initSettings.get? fieldName = none ∧ contents.envSettings.get? fieldName = none

/-- The value that Key Vault, if it is asked, has for a field. -/
def fromVault (fieldName : String) : Option PyValue :=
  match vaultUrl contents.envSettings with
  | some url => KeyVaultSource.held ⟨settingsCls, contents.vaultAt url⟩ fieldName
  | none => none

/-- The value of the first source that has the field. -/
def firstSupplied (fieldName : String) : Option PyValue :=
  (contents.initSettings.get? fieldName).or <| (contents.envSettings.get? fieldName).or <|
    (fromVault settingsCls contents fieldName).or <|
      (contents.dotenvSettings.get? fieldName).or (contents.fileSecretSettings.get? fieldName)

/-- The documented precedence. -/
structure Precedence : Prop where
  /-- Key Vault is asked only because of the process environment. -/
  asked : ∀ source, .keyVault source ∈ settingsCustomiseSources settingsCls contents →
    ∃ url, contents.envSettings.get? "azure_key_vault_url" = some (.str url) ∧ strip url ≠ ""
  /-- A declared field that no stronger source has must have a secret. -/
  fails : (∃ fieldName, Missing settingsCls contents fieldName ∧ Unsupplied contents fieldName) →
    ∃ e, buildValues settingsCls contents = .error e
  /-- Otherwise every field resolves to the value of the first source that has it. -/
  resolves : (¬∃ fieldName, Missing settingsCls contents fieldName ∧
      Unsupplied contents fieldName) →
    ∃ state, buildValues settingsCls contents = .ok state ∧
      ∀ fieldName, state.get? fieldName = firstSupplied settingsCls contents fieldName

end Spec

section Build

variable {settingsCls : SettingsClass} {contents : Contents}

/-- The vault asked is named by a string in the environment that is not blank. -/
theorem exists_of_vaultUrl {envSettings : FieldValues} {url : String}
    (h : vaultUrl envSettings = some url) :
    ∃ raw, envSettings.get? "azure_key_vault_url" = some (.str raw) ∧ strip raw ≠ "" := by
  unfold vaultUrl at h
  split at h
  next raw hraw =>
    split at h
    next => cases h
    next hblank => exact ⟨raw, hraw, hblank⟩
  next => cases h

/-- The sources, by whether a vault is asked. -/
theorem settingsCustomiseSources_of_some {url : String}
    (h : vaultUrl contents.envSettings = some url) :
    settingsCustomiseSources settingsCls contents =
      [.values contents.initSettings, .values contents.envSettings,
        .keyVault ⟨settingsCls, contents.vaultAt url⟩, .values contents.dotenvSettings,
        .values contents.fileSecretSettings] := by
  unfold settingsCustomiseSources
  rw [h]
  rfl

theorem settingsCustomiseSources_of_none (h : vaultUrl contents.envSettings = none) :
    settingsCustomiseSources settingsCls contents =
      [.values contents.initSettings, .values contents.envSettings,
        .values contents.dotenvSettings, .values contents.fileSecretSettings] := by
  unfold settingsCustomiseSources
  rw [h]
  rfl

theorem asked_of_mem {source : KeyVaultSource}
    (h : .keyVault source ∈ settingsCustomiseSources settingsCls contents) :
    ∃ url, contents.envSettings.get? "azure_key_vault_url" = some (.str url) ∧ strip url ≠ "" := by
  cases hurl : vaultUrl contents.envSettings with
  | some url => exact exists_of_vaultUrl hurl
  | none =>
    -- without a vault to ask, it is none of the sources
    rw [settingsCustomiseSources_of_none hurl] at h
    simp at h

/-- What a source answers when it does not raise. -/
def Source.answer : Source → FieldValues
  | .values content => content
  | .keyVault source =>
    match source.call with
    | .ok answer => answer
    | .error _ => InsertionDict.empty

/-- A missing secret fails the build, whatever the other sources have. -/
theorem buildValues_eq_error {fieldName : String}
    (h : Missing settingsCls contents fieldName) :
    ∃ e, buildValues settingsCls contents = .error e := by
  obtain ⟨url, hurl, hdeclared, e, hsecret⟩ := h
  let vault : KeyVaultSource := ⟨settingsCls, contents.vaultAt url⟩
  have hdeclared' : vault.settingsCls.Declared fieldName := hdeclared
  obtain ⟨e', hcall⟩ := KeyVaultSource.exists_call_eq_error hdeclared' hsecret
  have hsource : .keyVault vault ∈ settingsCustomiseSources settingsCls contents := by
    rw [settingsCustomiseSources_of_some hurl]
    simp [vault]
  exact exists_buildValues_eq_error hsource hcall

theorem findSome?_cons_eq_or {α β : Type} (f : α → Option β) (a : α) (l : List α) :
    (a :: l).findSome? f = (f a).or (l.findSome? f) := by
  rw [List.findSome?_cons]
  cases f a <;> rfl

/-- If no secret is missing, every field resolves to the value of the first source that has it. -/
theorem buildValues_eq_ok (h : ∀ fieldName, ¬Missing settingsCls contents fieldName) :
    ∃ state, buildValues settingsCls contents = .ok state ∧
      ∀ fieldName, state.get? fieldName = firstSupplied settingsCls contents fieldName := by
  unfold buildValues
  cases hurl : vaultUrl contents.envSettings with
  | none =>
    have hcall : ∀ source ∈ settingsCustomiseSources settingsCls contents,
        source.call = .ok source.answer := by
      -- the four sources that are left never raise
      rw [settingsCustomiseSources_of_none hurl]
      simp [Source.call, Source.answer]
    obtain ⟨state, hok, hget⟩ := get?_mergeSource Source.answer hcall
    refine ⟨state, hok, fun fieldName => ?_⟩
    rw [hget, settingsCustomiseSources_of_none hurl, firstSupplied, fromVault, hurl]
    simp only [findSome?_cons_eq_or, List.findSome?_nil, Option.or_none, Option.none_or,
      Source.answer]
  | some url =>
    let vault : KeyVaultSource := ⟨settingsCls, contents.vaultAt url⟩
    obtain ⟨held, hvault, hheld⟩ := vault.call_eq_ok fun fieldName hdeclared => by
      -- a declared field without a secret would be missing
      cases hsecret : vault.client (secretName fieldName) with
      | ok secret => exact ⟨secret, rfl⟩
      | error e => exact absurd ⟨url, hurl, hdeclared, e, hsecret⟩ (h fieldName)
    have hanswer : (Source.keyVault vault).answer = held := by
      rw [Source.answer, hvault]
    have hcall : ∀ source ∈ settingsCustomiseSources settingsCls contents,
        source.call = .ok source.answer := by
      rw [settingsCustomiseSources_of_some hurl]
      intro source hsource
      simp only [List.mem_cons, List.not_mem_nil, or_false] at hsource
      rcases hsource with rfl | rfl | rfl | rfl | rfl
      · rfl
      · rfl
      · exact hvault.trans (congrArg Except.ok hanswer.symm)
      · rfl
      · rfl
    obtain ⟨state, hok, hget⟩ := get?_mergeSource Source.answer hcall
    refine ⟨state, hok, fun fieldName => ?_⟩
    rw [hget, settingsCustomiseSources_of_some hurl, firstSupplied, fromVault, hurl]
    simp only [findSome?_cons_eq_or, List.findSome?_nil, Option.or_none]
    -- in between the sources around it stands what Key Vault holds
    rw [hanswer, hheld]
    rfl

/-- The documented precedence holds exactly when no secret is missing, or one is missing whose field
neither the constructor nor the environment has. -/
theorem precedence_iff :
    Precedence settingsCls contents ↔
      (∀ fieldName, ¬Missing settingsCls contents fieldName) ∨
        ∃ fieldName, Missing settingsCls contents fieldName ∧ Unsupplied contents fieldName := by
  constructor
  · rintro ⟨-, -, hresolves⟩
    by_cases hfails : ∃ fieldName, Missing settingsCls contents fieldName ∧
        Unsupplied contents fieldName
    · exact .inr hfails
    · -- no stronger source lacks a missing field, so by the law the values resolve; but the build
      -- failed
      refine .inl fun fieldName hmissing => ?_
      obtain ⟨state, hok, -⟩ := hresolves hfails
      obtain ⟨e, herror⟩ := buildValues_eq_error hmissing
      cases hok.symm.trans herror
  · rintro (hnone | hfails)
    · refine ⟨fun _ => asked_of_mem, ?_, fun _ => buildValues_eq_ok hnone⟩
      -- nothing is missing at all
      rintro ⟨fieldName, hmissing, -⟩
      exact absurd hmissing (hnone fieldName)
    · refine ⟨fun _ => asked_of_mem, ?_, fun hnot => absurd hfails hnot⟩
      rintro ⟨fieldName, hmissing, -⟩
      exact buildValues_eq_error hmissing

end Build

/-! ### A value in the environment and no secret -/

/-- The settings class of the inventory sync engine. -/
def inventorySyncSettings : SettingsClass where
  modelFields := ["log_level", "azure_key_vault_url", "azure_tenant_id", "azure_client_id",
    "azure_client_secret", "dataverse_url"]
  vaultSecretFields := ["azure_tenant_id", "azure_client_id", "azure_client_secret",
    "dataverse_url"]

/-- Every field is in the environment, and the vault has every secret but one. -/
def rotatedSecret : Contents where
  initSettings := InsertionDict.empty
  envSettings := InsertionDict.ofPairs
    [("azure_key_vault_url", .str "https://my-vault.vault.azure.net/"),
      ("azure_tenant_id", .str "tenant"), ("azure_client_id", .str "client"),
      ("azure_client_secret", .str "rotated"),
      ("dataverse_url", .str "https://org.crm.dynamics.com")]
  vaultAt _ name :=
    if name = "azure-client-secret" then .error ⟨.other "ResourceNotFoundError", name⟩
    else .ok (some name)
  dotenvSettings := InsertionDict.empty
  fileSecretSettings := InsertionDict.empty

theorem vaultUrl_rotatedSecret :
    vaultUrl rotatedSecret.envSettings = some "https://my-vault.vault.azure.net/" := by
  decide

/-- The environment has the client secret, and still no settings are built. -/
theorem missing_secret_overrides_environment :
    rotatedSecret.envSettings.get? "azure_client_secret" = some (.str "rotated") ∧
      (∃ e, buildValues inventorySyncSettings rotatedSecret = .error e) ∧
      ¬Precedence inventorySyncSettings rotatedSecret := by
  have hmissing : Missing inventorySyncSettings rotatedSecret "azure_client_secret" :=
    ⟨_, vaultUrl_rotatedSecret, by decide, ⟨.other "ResourceNotFoundError", "azure-client-secret"⟩,
      by decide⟩
  have hname : ∀ fieldName ∈ inventorySyncSettings.modelFields,
      secretName fieldName = "azure-client-secret" → fieldName = "azure_client_secret" := by
    decide
  obtain ⟨e, herror⟩ := buildValues_eq_error hmissing
  refine ⟨by decide, ⟨e, herror⟩, ?_⟩
  rintro ⟨-, -, hresolves⟩
  -- the only secret missing is that of a field which the environment has
  have hsupplied : ¬∃ fieldName, Missing inventorySyncSettings rotatedSecret fieldName ∧
      Unsupplied rotatedSecret fieldName := by
    rintro ⟨fieldName, ⟨url, -, hdeclared, e', hsecret⟩, -, hunsupplied⟩
    have hlacking : secretName fieldName = "azure-client-secret" := by
      by_contra hne
      have hok : rotatedSecret.vaultAt url (secretName fieldName) =
          .ok (some (secretName fieldName)) := if_neg hne
      cases hok.symm.trans hsecret
    rw [hname fieldName hdeclared.1 hlacking] at hunsupplied
    exact absurd hunsupplied (by decide)
  obtain ⟨state, hok, -⟩ := hresolves hsupplied
  cases hok.symm.trans herror

end Settings
