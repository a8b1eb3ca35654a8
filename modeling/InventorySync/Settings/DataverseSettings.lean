import InventorySync.Python.UrlParse
import InventorySync.Python.Uuid
import InventorySync.Settings.Sources

/-!
# The fields of the settings classes

`DataverseConnectionSettings` and `BaseServiceSettings`: what the validators of each field make of
a value, and how pydantic builds settings from the values that the sources supply. Every field is
validated, also one that has its default; one that fails does not stop the others.
-/

open Python

namespace Settings

/-- One complaint of a `ValidationError`. -/
structure FieldError where
  field : String
  msg : String
  deriving DecidableEq

/-- A field: its default, and what validation makes of a value. -/
structure FieldSpec where
  name : String
  default : Option PyValue
  validate : PyValue → Except String PyValue

/-- What keeps settings from being built. -/
inductive SettingsError
  /-- A source raised. -/
  | source (e : PyException)
  | validation (errors : List FieldError)

/-- A settings class: what pydantic-settings knows of it, and what validation makes of the values
that the sources supply. -/
structure SettingsModel extends SettingsClass where
  validate : (String → Option PyValue) → Except (List FieldError) FieldValues

/-- Build the settings. -/
def SettingsModel.construct (model : SettingsModel) (contents : Contents) :
    Except SettingsError FieldValues :=
  match buildValues model.toSettingsClass contents with
  | .error e => .error (.source e)
  | .ok state => (model.validate state.get?).mapError .validation

/-- Validate one more field. -/
def validateField (lookup : String → Option PyValue) (state : FieldValues × List FieldError)
    (field : FieldSpec) : FieldValues × List FieldError :=
  match (lookup field.name).or field.default with
  | none => (state.1, state.2 ++ [⟨field.name, "Field required"⟩])
  | some value =>
    match field.validate value with
    | .ok value => (state.1.set field.name value, state.2)
    | .error msg => (state.1, state.2 ++ [⟨field.name, msg⟩])

/-- The settings class with the given fields. -/
def SettingsModel.ofFields (fields : List FieldSpec) (vaultSecretFields : List String) :
    SettingsModel where
  modelFields := fields.map FieldSpec.name
  vaultSecretFields := vaultSecretFields
  validate lookup :=
    let (values, errors) := fields.foldl (validateField lookup) (InsertionDict.empty, [])
    if errors = [] then .ok values else .error errors

/-! ### Validators -/

/-- `_strip_whitespace` -/
def stripWhitespace : PyValue → PyValue
  | .str value => .str (strip value)
  | value => value

/-- A field of type `str` with at least `minLength` characters, and the validators behind it. -/
def stringField (minLength : ℕ) (after : String → Except PyException String) :
    PyValue → Except String PyValue
  | .str value =>
    if value.length < minLength then .error "String should have at least 1 character"
    else
      match after value with
      | .ok value => .ok (.str value)
      | .error e => .error ("Value error, " ++ e.message)
  | _ => .error "Input should be a valid string"

/-- `_strip_trailing_slash` -/
def stripTrailingSlash (value : String) : String := rstrip value ['/']

/-- A required field of `DataverseConnectionSettings`. -/
def connectionField (name : String) (after : String → Except PyException String) : FieldSpec where
  name
  default := none
  validate value := stringField 1 after (stripWhitespace value)

/-- A connection field accepts the strings that are not blank and that its validators accept once
they are stripped. -/
theorem connectionField_eq_ok {name raw : String} {after : String → Except PyException String}
    {value : PyValue} :
    (connectionField name after).validate (.str raw) = .ok value ↔
      strip raw ≠ "" ∧ ∃ text, after (strip raw) = .ok text ∧ value = .str text := by
  simp only [connectionField, stripWhitespace, stringField]
  -- `min_length=1` refuses what is blank, before the validators after it see it
  by_cases hblank : strip raw = ""
  · rw [hblank, if_pos (by decide)]
    simp
  · have hlength : ¬(strip raw).length < 1 := by
      rw [Nat.lt_one_iff, String.length_eq_zero_iff]
      exact hblank
    rw [if_neg hlength]
    cases hafter : after (strip raw) with
    | error e => simp
    | ok text => simp [hblank, eq_comm]

section Validators

variable [TextTables]

/-- `_validate_guid` -/
def validateGuid (fieldName value : String) : Except PyException String :=
  match uuidInt value.toList with
  | .ok _ => .ok value
  | .error _ =>
    .error ⟨.valueError, fieldName ++ " must be a valid GUID (e.g. " ++
      "'12345678-1234-1234-1234-123456789abc'), got " ++ reprText value ++ "."⟩

/-- `_validate_https_url` -/
def validateHttpsUrl (value : String) : Except PyException String := do
  let parsed ← Url.urlparse value.toList
  if parsed.scheme ≠ "https".toList ∨ parsed.netloc = [] then
    throw ⟨.valueError, "dataverse_url must be an absolute https:// URL " ++
      "(e.g. 'https://org.crm.dynamics.com'), got " ++ reprText value ++ "."⟩
  return value

/-- `_validate_log_level` -/
def validateLogLevel (value : String) : Except PyException String :=
  let upper := String.ofList (value.toList.flatMap TextTables.upper)
  if ["DEBUG", "INFO", "WARNING", "ERROR", "CRITICAL"].contains upper then .ok upper
  else
    .error ⟨.valueError, "log_level must be one of " ++
      "['CRITICAL', 'DEBUG', 'ERROR', 'INFO', 'WARNING'], got " ++ reprText value ++ "."⟩

/-! ### Fields -/

def azureTenantId : FieldSpec := connectionField "azure_tenant_id" (validateGuid "azure_tenant_id")

def azureClientId : FieldSpec := connectionField "azure_client_id" (validateGuid "azure_client_id")

def azureClientSecret : FieldSpec := connectionField "azure_client_secret" .ok

def dataverseUrl : FieldSpec :=
  connectionField "dataverse_url" fun value => validateHttpsUrl (stripTrailingSlash value)

/-- `log_level`. In a class with both mixins the `_strip_whitespace` of
`DataverseConnectionSettings` takes the place of the one of `BaseServiceSettings`, which has the
same name, so that this field and the next one are not stripped. -/
def logLevel : FieldSpec where
  name := "log_level"
  default := some (.str "INFO")
  validate := stringField 0 validateLogLevel

def azureKeyVaultUrl : FieldSpec where
  name := "azure_key_vault_url"
  default := some .none
  validate value := if value = .none then .ok .none else stringField 0 .ok value

/-- `InventorySyncSettings` -/
def inventorySyncModel : SettingsModel :=
  .ofFields [logLevel, azureKeyVaultUrl, azureTenantId, azureClientId, azureClientSecret,
      dataverseUrl]
    ["azure_tenant_id", "azure_client_id", "azure_client_secret", "dataverse_url"]

/-- What `_validate_https_url` accepts, it returns. -/
theorem validateHttpsUrl_eq_ok {value text : String} :
    validateHttpsUrl value = .ok text ↔ text = value ∧ ∃ parsed,
      Url.urlparse value.toList = .ok parsed ∧ parsed.scheme = "https".toList ∧
        parsed.netloc ≠ [] := by
  unfold validateHttpsUrl
  cases hparse : Url.urlparse value.toList with
  | error e => simp [bind, Except.bind]
  | ok parsed =>
    simp only [bind, Except.bind]
    split
    next hbad =>
      refine iff_of_false (by rintro ⟨⟩) ?_
      rintro ⟨-, parsed', hparsed, hscheme, hnetloc⟩
      cases hparsed
      exact hbad.elim (fun h => h hscheme) hnetloc
    next hgood =>
      rw [not_or, not_not] at hgood
      constructor
      · intro heq
        exact ⟨(Except.ok.inj heq).symm, parsed, rfl, hgood⟩
      · rintro ⟨rfl, -⟩
        rfl

end Validators

end Settings
