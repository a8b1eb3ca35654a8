import InventorySync.Foundations.Except
import InventorySync.Foundations.InsertionDict
import InventorySync.Python.Values

/-!
# Settings sources

`BaseServiceSettings.settings_customise_sources` and `AzureKeyVaultSettingsSource`: which sources a
settings class is built from, what Key Vault answers, and how the answers are merged. What a secret
client answers is a parameter, and so are the contents of the other sources, as dictionaries from
field names to values.

* `KeyVaultSource.call_eq_ok` and `exists_call_eq_error`: Key Vault answers exactly when every
  declared field has a secret;
* `get?_mergeSource`: merged values are those of the first source that has the field.
-/

open Python

namespace Settings

/-- The values that a source supplies, by field name. -/
abbrev FieldValues := InsertionDict String PyValue

/-- What pydantic-settings knows of a settings class: its fields, and the class variable that names
the secret ones. -/
structure SettingsClass where
  modelFields : List String
  vaultSecretFields : List String

/-- `get_secret(name).value`, where asking for an absent secret raises. -/
abbrev SecretClient := String → Except PyException (Option String)

/-- `field_name.replace("_", "-")` -/
def secretName (fieldName : String) : String :=
  String.ofList (fieldName.toList.map fun c => if c = '_' then '-' else c)

/-- `AzureKeyVaultSettingsSource`: a settings class and the client of its vault. -/
structure KeyVaultSource where
  settingsCls : SettingsClass
  client : SecretClient

namespace KeyVaultSource

variable (self : KeyVaultSource)

/-- Fetch one field's value from Key Vault, if it is vault-backed. -/
def getFieldValue (fieldName : String) : Except PyException (Option PyValue × String × Bool) :=
  if self.settingsCls.vaultSecretFields.contains fieldName then do
    let secret ← self.client (secretName fieldName)
    -- a secret may exist without a value
    return (secret.map .str, fieldName, false)
  else return (none, fieldName, false)

/-- Pass a fetched secret value through unchanged. -/
def prepareFieldValue (_ : String) (value : PyValue) : PyValue := value

/-- One pass of the loop in `__call__`. -/
def resolveField (resolved : FieldValues) (fieldName : String) :
    Except PyException FieldValues := do
  let (fieldValue, fieldKey, _) ← self.getFieldValue fieldName
  match fieldValue with
  -- `if field_value is not None`
  | some value => return resolved.set fieldKey (prepareFieldValue fieldName value)
  | none => return resolved

/-- Resolve every vault-backed field for this settings class. -/
def call : Except PyException FieldValues :=
  self.settingsCls.modelFields.foldlM self.resolveField InsertionDict.empty

end KeyVaultSource

/-- A settings source: values read from somewhere, or Key Vault. -/
inductive Source
  | values (content : FieldValues)
  | keyVault (source : KeyVaultSource)

/-- `source()` -/
def Source.call : Source → Except PyException FieldValues
  | .values content => .ok content
  | .keyVault source => source.call

/-- The contents of the five sources of a settings class: constructor arguments, process
environment, the Key Vault at each URL, `.env`, and secret files. -/
structure Contents where
  initSettings : FieldValues
  envSettings : FieldValues
  vaultAt : String → SecretClient
  dotenvSettings : FieldValues
  fileSecretSettings : FieldValues

/-- The URL of the vault to ask, if `env_settings()` has one that is a string and not blank. -/
def vaultUrl (envSettings : FieldValues) : Option String :=
  match envSettings.get? "azure_key_vault_url" with
  | some (.str url) => if strip url = "" then none else some (strip url)
  | _ => none

/-- Insert an Azure Key Vault source when one is configured. -/
def settingsCustomiseSources (settingsCls : SettingsClass) (contents : Contents) : List Source :=
  let sources := [.values contents.initSettings, .values contents.envSettings]
  let sources := match vaultUrl contents.envSettings with
    -- above `.env`, which therefore cannot switch it on
    | some url => sources ++ [.keyVault ⟨settingsCls, contents.vaultAt url⟩]
    | none => sources
  sources ++ [.values contents.dotenvSettings, .values contents.fileSecretSettings]

/-- Ask one more source, whose answers the values so far take precedence over. -/
def mergeSource (state : FieldValues) (source : Source) : Except PyException FieldValues := do
  -- called even if every field has its value already
  let sourceState ← source.call
  return sourceState.update state

/-- The values a settings class is built from: every source is asked in turn. -/
def buildValues (settingsCls : SettingsClass) (contents : Contents) :
    Except PyException FieldValues :=
  (settingsCustomiseSources settingsCls contents).foldlM mergeSource InsertionDict.empty

/-! ### What the sources answer -/

/-- A field of the class that its class variable declares as a secret. -/
def SettingsClass.Declared (settingsCls : SettingsClass) (fieldName : String) : Prop :=
  fieldName ∈ settingsCls.modelFields ∧ fieldName ∈ settingsCls.vaultSecretFields

instance (settingsCls : SettingsClass) (fieldName : String) :
    Decidable (settingsCls.Declared fieldName) := by
  unfold SettingsClass.Declared
  infer_instance

namespace KeyVaultSource

variable {self : KeyVaultSource}

/-- The value that a vault holds for a field, if it is declared and has one. -/
def held (self : KeyVaultSource) (fieldName : String) : Option PyValue :=
  if self.settingsCls.Declared fieldName then
    match self.client (secretName fieldName) with
    | .ok secret => secret.map .str
    | .error _ => none
  else none

theorem resolveField_eq_ok {fieldName : String} (hfield : fieldName ∈ self.settingsCls.modelFields)
    (h : fieldName ∈ self.settingsCls.vaultSecretFields →
      ∃ secret, self.client (secretName fieldName) = .ok secret) (resolved : FieldValues) :
    self.resolveField resolved fieldName =
      .ok ((self.held fieldName).elim resolved (resolved.set fieldName)) := by
  by_cases hvault : fieldName ∈ self.settingsCls.vaultSecretFields
  · obtain ⟨secret, hsecret⟩ := h hvault
    have hheld : self.held fieldName = secret.map .str := by
      rw [held, if_pos ⟨hfield, hvault⟩, hsecret]
    have hget : self.getFieldValue fieldName = .ok (secret.map .str, fieldName, false) := by
      rw [getFieldValue, if_pos (by simpa using hvault), hsecret]
      rfl
    rw [resolveField, hget, hheld]
    -- a secret without a value sets nothing
    cases secret <;> rfl
  · have hheld : self.held fieldName = none := if_neg fun hdeclared => hvault hdeclared.2
    have hget : self.getFieldValue fieldName = .ok (none, fieldName, false) := by
      rw [getFieldValue, if_neg (by simpa using hvault)]
      rfl
    rw [resolveField, hget, hheld]
    rfl

/-- If every declared field has a secret, Key Vault answers with the values it holds. -/
theorem call_eq_ok (h : ∀ fieldName, self.settingsCls.Declared fieldName →
      ∃ secret, self.client (secretName fieldName) = .ok secret) :
    ∃ values, self.call = .ok values ∧
      ∀ fieldName, values.get? fieldName = self.held fieldName := by
  refine ⟨_, Except.foldlM_eq_foldl _ fun fieldName hfield resolved =>
    resolveField_eq_ok hfield (fun hvault => h fieldName ⟨hfield, hvault⟩) resolved, ?_⟩
  intro fieldName
  rw [InsertionDict.get?_foldl_set]
  split
  next => simp
  next hfield => exact (if_neg fun hdeclared => hfield hdeclared.1).symm

/-- If some declared field has none, asking Key Vault raises. -/
theorem exists_call_eq_error {fieldName : String} {e : PyException}
    (hdeclared : self.settingsCls.Declared fieldName)
    (h : self.client (secretName fieldName) = .error e) : ∃ e', self.call = .error e' := by
  cases hcall : self.call with
  | error e' => exact ⟨e', rfl⟩
  | ok values =>
    -- the loop went past the field, whose secret it asked for
    obtain ⟨before, after, hstep⟩ := Except.exists_ok_of_foldlM hcall fieldName hdeclared.1
    obtain ⟨answer, hget, -⟩ := Except.bind_eq_ok.1 hstep
    rw [getFieldValue, if_pos (by simpa using hdeclared.2), h] at hget
    cases hget

end KeyVaultSource

/-- If every source answers, the merged values are those of the first source that has the field. -/
theorem get?_mergeSource {sources : List Source} (answer : Source → FieldValues)
    (h : ∀ source ∈ sources, source.call = .ok (answer source)) :
    ∃ state, sources.foldlM mergeSource InsertionDict.empty = .ok state ∧
      ∀ fieldName, state.get? fieldName =
        sources.findSome? fun source => (answer source).get? fieldName := by
  refine ⟨sources.foldl (fun state source => (answer source).update state) InsertionDict.empty,
    Except.foldlM_eq_foldl _ fun source hsource state => ?_, fun fieldName => ?_⟩
  · rw [mergeSource, h source hsource]
    rfl
  · have hfold : ∀ state : FieldValues,
        (sources.foldl (fun state source => (answer source).update state) state).get? fieldName =
          (state.get? fieldName).or
            (sources.findSome? fun source => (answer source).get? fieldName) := by
      -- the values so far win over a source's, so the induction is over the sources from any values
      clear h
      induction sources with
      | nil =>
        intro state
        simp
      | cons source sources ih =>
        intro state
        rw [List.foldl_cons, ih, InsertionDict.get?_update, List.findSome?_cons]
        cases state.get? fieldName <;> cases (answer source).get? fieldName <;> simp
    rw [hfold, InsertionDict.get?_empty, Option.none_or]

/-- If some source raises, no settings are built. -/
theorem exists_buildValues_eq_error {settingsCls : SettingsClass} {contents : Contents}
    {source : Source} {e : PyException}
    (hsource : source ∈ settingsCustomiseSources settingsCls contents)
    (h : source.call = .error e) : ∃ e', buildValues settingsCls contents = .error e' := by
  cases hbuild : buildValues settingsCls contents with
  | error e' => exact ⟨e', rfl⟩
  | ok state =>
    obtain ⟨before, after, hstep⟩ := Except.exists_ok_of_foldlM hbuild source hsource
    obtain ⟨answer, hcall, -⟩ := Except.bind_eq_ok.1 hstep
    cases h.symm.trans hcall

end Settings
