import InventorySync.Settings.DataverseSettings
import InventorySync.Settings.Precedence

/-!
# Declared secrets and weaker sources

Which values a declared secret can come to while Key Vault is enabled. A secret that is missing
keeps the settings from being built, but one that exists without a value (a disabled or deleted
version) is passed over by the loop of `__call__` like a field that is not declared, and the field
falls through to `.env` and the secret files.

* `forget_ask`: the loop with its `get_secret` calls, and without;
* `vaultWins_iff`: when a declared secret comes from the vault or not at all.
-/

open Python

namespace Settings

/-! ### The secrets that are asked for -/

/-- A step that asks for secrets: each time the field it is for, and the name of the secret. -/
abbrev Asking := EStateM PyException (List (String × String))

/-- What a step comes to, and what it has asked for in the end. -/
def Asking.outcome {α : Type} (step : Asking α) (asked : List (String × String)) :
    Except PyException α × List (String × String) :=
  match step asked with
  | .ok a asked => (.ok a, asked)
  | .error e asked => (.error e, asked)

/-- A step and what follows it. -/
theorem Asking.outcome_bind {α β : Type} (step : Asking α) (next : α → Asking β)
    (asked : List (String × String)) :
    Asking.outcome (step >>= next) asked =
      match step.outcome asked with
      | (.ok a, asked) => (next a).outcome asked
      | (.error e, asked) => (.error e, asked) := by
  simp only [outcome, bind, EStateM.bind]
  cases step asked <;> rfl

namespace KeyVaultSource

variable (self : KeyVaultSource)

/-- `self._client.get_secret(secret_name).value`, for the given field. -/
def getSecret (fieldName : String) : Asking (Option String) := fun asked =>
  match self.client (secretName fieldName) with
  | .ok secret => .ok secret (asked ++ [(fieldName, secretName fieldName)])
  | .error e => .error e (asked ++ [(fieldName, secretName fieldName)])

/-- `getFieldValue`, with the secret it asks for. -/
def askFieldValue (fieldName : String) : Asking (Option PyValue × String × Bool) :=
  if self.settingsCls.vaultSecretFields.contains fieldName then do
    let secret ← self.getSecret fieldName
    return (secret.map .str, fieldName, false)
  else return (none, fieldName, false)

/-- `resolveField`, with the secret it asks for. -/
def askField (resolved : FieldValues) (fieldName : String) : Asking FieldValues := do
  let (fieldValue, fieldKey, _) ← self.askFieldValue fieldName
  match fieldValue with
  | some value => return resolved.set fieldKey (prepareFieldValue fieldName value)
  | none => return resolved

/-- `call`, with the secrets it asks for. -/
def ask : Asking FieldValues :=
  self.settingsCls.modelFields.foldlM self.askField InsertionDict.empty

/-- What has been asked for after one more field: a declared field asks for its secret, and no other
field does. -/
def askedAfter (fieldName : String) (asked : List (String × String)) : List (String × String) :=
  if self.settingsCls.vaultSecretFields.contains fieldName then
    asked ++ [(fieldName, secretName fieldName)]
  else asked

variable {self}

theorem mem_askedAfter {fieldName : String} {asked : List (String × String)}
    {entry : String × String} (h : entry ∈ self.askedAfter fieldName asked) :
    entry ∈ asked ∨ entry.1 = fieldName ∧ entry.1 ∈ self.settingsCls.vaultSecretFields ∧
      entry.2 = secretName entry.1 := by
  unfold askedAfter at h
  split at h
  next hvault =>
    rcases List.mem_append.1 h with hold | hnew
    · exact .inl hold
    · obtain rfl := List.mem_singleton.1 hnew
      exact .inr ⟨rfl, List.contains_iff_mem.1 hvault, rfl⟩
  next => exact .inl h

/-- One pass of the loop with its `get_secret` call, and without. -/
theorem outcome_askField (resolved : FieldValues) (fieldName : String)
    (asked : List (String × String)) :
    (self.askField resolved fieldName).outcome asked =
      (self.resolveField resolved fieldName, self.askedAfter fieldName asked) := by
  unfold askedAfter
  by_cases hvault : self.settingsCls.vaultSecretFields.contains fieldName = true
  · cases hsecret : self.client (secretName fieldName) with
    | error e =>
      have hget : self.getFieldValue fieldName = .error e := by
        rw [getFieldValue, if_pos hvault, hsecret]
        rfl
      have hask : self.askFieldValue fieldName asked =
          .error e (asked ++ [(fieldName, secretName fieldName)]) := by
        rw [askFieldValue, if_pos hvault]
        simp only [bind, EStateM.bind, getSecret, hsecret]
      simp only [Asking.outcome, askField, bind, EStateM.bind, hask, resolveField, hget,
        Except.bind, if_pos hvault]
    | ok secret =>
      have hget : self.getFieldValue fieldName = .ok (secret.map .str, fieldName, false) := by
        rw [getFieldValue, if_pos hvault, hsecret]
        rfl
      have hask : self.askFieldValue fieldName asked = .ok (secret.map .str, fieldName, false)
          (asked ++ [(fieldName, secretName fieldName)]) := by
        rw [askFieldValue, if_pos hvault]
        simp only [bind, EStateM.bind, getSecret, hsecret]
        rfl
      simp only [Asking.outcome, askField, bind, EStateM.bind, hask, resolveField, hget,
        Except.bind, if_pos hvault]
      cases secret <;> rfl
  · have hget : self.getFieldValue fieldName = .ok (none, fieldName, false) := by
      rw [getFieldValue, if_neg hvault]
      rfl
    have hask : self.askFieldValue fieldName asked = .ok (none, fieldName, false) asked := by
      rw [askFieldValue, if_neg hvault]
      rfl
    simp only [Asking.outcome, askField, bind, EStateM.bind, hask, resolveField, hget,
      Except.bind, if_neg hvault]
    rfl

/-- The loop over any fields, from any values and with any secrets asked for before. -/
theorem outcome_foldlM_askField (fields : List String) (resolved : FieldValues)
    (asked : List (String × String)) :
    (Asking.outcome (fields.foldlM self.askField resolved) asked).1 =
        fields.foldlM self.resolveField resolved ∧
      ∀ entry ∈ (Asking.outcome (fields.foldlM self.askField resolved) asked).2,
        entry ∈ asked ∨ entry.1 ∈ fields ∧ entry.1 ∈ self.settingsCls.vaultSecretFields ∧
          entry.2 = secretName entry.1 := by
  induction fields generalizing resolved asked with
  | nil => exact ⟨rfl, fun entry hentry => .inl hentry⟩
  | cons fieldName fields ih =>
    rw [List.foldlM_cons, List.foldlM_cons, Asking.outcome_bind, outcome_askField]
    cases self.resolveField resolved fieldName with
    | error e =>
      -- the loop is over, with what it has asked for so far
      refine ⟨rfl, fun entry hentry => ?_⟩
      rcases mem_askedAfter hentry with hold | ⟨rfl, hdeclared⟩
      · exact .inl hold
      · exact .inr ⟨List.mem_cons_self, hdeclared⟩
    | ok resolved' =>
      obtain ⟨hforget, hrest⟩ := ih resolved' (self.askedAfter fieldName asked)
      refine ⟨hforget, fun entry hentry => ?_⟩
      rcases hrest entry hentry with hmem | ⟨hfields, hdeclared⟩
      · rcases mem_askedAfter hmem with hold | ⟨rfl, hdeclared⟩
        · exact .inl hold
        · exact .inr ⟨List.mem_cons_self, hdeclared⟩
      · exact .inr ⟨List.mem_cons_of_mem fieldName hfields, hdeclared⟩

/-- Asking for the secrets is what `__call__` does. -/
theorem forget_ask (self : KeyVaultSource) : (self.ask.outcome []).1 = self.call :=
  (outcome_foldlM_askField _ _ _).1

/-- A secret is asked for only for a declared field, and under its name. -/
theorem declared_of_asked {entry : String × String} (h : entry ∈ (self.ask.outcome []).2) :
    self.settingsCls.Declared entry.1 ∧ entry.2 = secretName entry.1 := by
  rcases (outcome_foldlM_askField _ _ _).2 entry h with hnil | ⟨hfields, hvault, hname⟩
  · exact absurd hnil List.not_mem_nil
  · exact ⟨⟨hfields, hvault⟩, hname⟩

end KeyVaultSource

/-! ### Where a declared secret comes from -/

section VaultWins

variable (model : SettingsModel) (contents : Contents)

/-- While Key Vault is enabled, a declared field that neither the constructor nor the environment
has comes from the vault or not at all, and no other field is asked for. -/
structure VaultWins : Prop where
  resolves : ∀ url, vaultUrl contents.envSettings = some url → ∀ fieldName,
    model.Declared fieldName → Unsupplied contents fieldName →
      (∃ e, model.construct contents = .error e) ∨
        ∃ state secret, buildValues model.toSettingsClass contents = .ok state ∧
          contents.vaultAt url (secretName fieldName) = .ok (some secret) ∧
          state.get? fieldName = some (.str secret)
  asks : ∀ url, vaultUrl contents.envSettings = some url → ∀ entry ∈
    ((KeyVaultSource.mk model.toSettingsClass (contents.vaultAt url)).ask.outcome []).2,
      model.Declared entry.1 ∧ entry.2 = secretName entry.1

variable {model contents}

/-- A missing secret keeps the settings from being built. -/
theorem construct_eq_error_of_missing {fieldName : String}
    (h : Missing model.toSettingsClass contents fieldName) :
    ∃ e, model.construct contents = .error e := by
  obtain ⟨e, herror⟩ := buildValues_eq_error h
  refine ⟨.source e, ?_⟩
  rw [SettingsModel.construct, herror]

/-- Otherwise validation decides, on the values of the first source that has each field. -/
theorem construct_of_not_missing
    (h : ∀ fieldName, ¬Missing model.toSettingsClass contents fieldName) :
    model.construct contents =
      (model.validate (firstSupplied model.toSettingsClass contents)).mapError .validation := by
  obtain ⟨state, hok, hget⟩ := buildValues_eq_ok h
  have hlookup : state.get? = firstSupplied model.toSettingsClass contents := funext hget
  simp only [SettingsModel.construct, hok, hlookup]

/-- What a field that no stronger source has resolves to, while Key Vault is enabled. -/
theorem firstSupplied_of_unsupplied {url fieldName : String} {secret : Option String}
    (hurl : vaultUrl contents.envSettings = some url) (hdeclared : model.Declared fieldName)
    (hunsupplied : Unsupplied contents fieldName)
    (hsecret : contents.vaultAt url (secretName fieldName) = .ok secret) :
    firstSupplied model.toSettingsClass contents fieldName = (secret.map .str).or
      ((contents.dotenvSettings.get? fieldName).or
        (contents.fileSecretSettings.get? fieldName)) := by
  have hheld : KeyVaultSource.held ⟨model.toSettingsClass, contents.vaultAt url⟩ fieldName =
      secret.map .str := by
    rw [KeyVaultSource.held, if_pos hdeclared]
    simp only [hsecret]
  rw [firstSupplied, hunsupplied.1, hunsupplied.2, fromVault, hurl]
  simp only [Option.none_or, hheld]

/-- A declared secret comes from the vault or not at all exactly if a secret is missing, or
validation rejects the values of the first sources that have them, or every secret that no stronger
source stands in for has a value. -/
theorem vaultWins_iff :
    VaultWins model contents ↔
      (∃ fieldName, Missing model.toSettingsClass contents fieldName) ∨
        (∃ errors, model.validate (firstSupplied model.toSettingsClass contents) =
          .error errors) ∨
        ∀ url, vaultUrl contents.envSettings = some url → ∀ fieldName,
          model.Declared fieldName → Unsupplied contents fieldName →
            ∃ secret, contents.vaultAt url (secretName fieldName) = .ok (some secret) := by
  constructor
  · intro hwins
    by_cases hmissing : ∃ fieldName, Missing model.toSettingsClass contents fieldName
    · exact .inl hmissing
    · rw [not_exists] at hmissing
      refine .inr ?_
      cases hvalidate : model.validate (firstSupplied model.toSettingsClass contents) with
      | error errors => exact .inl ⟨errors, rfl⟩
      | ok values =>
        -- the settings are built, so every such field came from the vault
        refine .inr fun url hurl fieldName hdeclared hunsupplied => ?_
        rcases hwins.resolves url hurl fieldName hdeclared hunsupplied with
          ⟨e, herror⟩ | ⟨state, secret, -, hsecret, -⟩
        · rw [construct_of_not_missing hmissing, hvalidate] at herror
          cases herror
        · exact ⟨secret, hsecret⟩
  · intro hcases
    refine ⟨fun url hurl fieldName hdeclared hunsupplied => ?_, fun url _ entry hentry =>
      KeyVaultSource.declared_of_asked hentry⟩
    by_cases hmissing : ∃ fieldName, Missing model.toSettingsClass contents fieldName
    · obtain ⟨missing, hmissing⟩ := hmissing
      exact .inl (construct_eq_error_of_missing hmissing)
    · rw [not_exists] at hmissing
      rcases hcases with ⟨missing, habsent⟩ | ⟨errors, hvalidate⟩ | hvalues
      · exact absurd habsent (hmissing missing)
      · refine .inl ⟨.validation errors, ?_⟩
        rw [construct_of_not_missing hmissing, hvalidate]
        rfl
      · obtain ⟨secret, hsecret⟩ := hvalues url hurl fieldName hdeclared hunsupplied
        obtain ⟨state, hok, hget⟩ := buildValues_eq_ok hmissing
        refine .inr ⟨state, secret, hok, hsecret, ?_⟩
        rw [hget, firstSupplied_of_unsupplied hurl hdeclared hunsupplied hsecret]
        rfl

end VaultWins

/-! ### A disabled secret and a stale `.env` -/

/-- The vault has every secret, but the client secret is disabled, and `.env` has an old one. -/
def disabledSecret : Contents where
  initSettings := InsertionDict.empty
  envSettings := InsertionDict.ofPairs
    [("azure_key_vault_url", .str "https://my-vault.vault.azure.net/")]
  vaultAt _ name :=
    if name = "azure-client-secret" then .ok none
    else if name = "dataverse-url" then .ok (some "https://org.crm.dynamics.com")
    else .ok (some "12345678-1234-1234-1234-123456789abc")
  dotenvSettings := InsertionDict.ofPairs [("azure_client_secret", .str "stale")]
  fileSecretSettings := InsertionDict.empty

/-- The settings are built with the client secret of `.env`. -/
theorem disabled_secret_falls_through :
    (∃ values, (@inventorySyncModel asciiText).construct disabledSecret = .ok values ∧
      values.get? "azure_client_secret" = some (.str "stale")) ∧
      ¬VaultWins (@inventorySyncModel asciiText) disabledSecret := by
  have hbuilt : ∃ values, (@inventorySyncModel asciiText).construct disabledSecret = .ok values ∧
      values.get? "azure_client_secret" = some (.str "stale") := ⟨_, rfl, rfl⟩
  refine ⟨hbuilt, fun hwins => ?_⟩
  obtain ⟨values, hok, -⟩ := hbuilt
  have hurl : vaultUrl disabledSecret.envSettings = some "https://my-vault.vault.azure.net/" := by
    decide
  rcases hwins.resolves _ hurl "azure_client_secret" (by decide) ⟨rfl, rfl⟩ with
    ⟨e, herror⟩ | ⟨state, secret, -, hsecret, -⟩
  · cases hok.symm.trans herror
  · cases hsecret

end Settings
