import InventorySync.Settings.DataverseUrl

/-!
# Connection settings

What a client is constructed from: the four strings of `DataverseConnectionSettings`, as they stand
in settings that were built.

* `holds_of_validate`: in settings that were built, each field holds what its validation made of the
  value that was supplied;
* `exists_connectionSettings`: so the four strings are there, and the URL is one that
  `_validate_https_url` accepts.
-/

open Python

namespace Settings

/-- The attributes that a client reads of a settings object. -/
structure ConnectionSettings where
  azureTenantId : String
  azureClientId : String
  azureClientSecret : String
  dataverseUrl : String

/-- The field with the given name, if it is a string. -/
def stringValue (values : FieldValues) (fieldName : String) : Option String :=
  match values.get? fieldName with
  | some (.str value) => some value
  | _ => none

/-- The connection settings that the fields of a settings object hold. -/
def connectionSettings (values : FieldValues) : Option ConnectionSettings := do
  let azureTenantId ← stringValue values "azure_tenant_id"
  let azureClientId ← stringValue values "azure_client_id"
  let azureClientSecret ← stringValue values "azure_client_secret"
  let dataverseUrl ← stringValue values "dataverse_url"
  return ⟨azureTenantId, azureClientId, azureClientSecret, dataverseUrl⟩

/-! ### Fields of settings that were built -/

section Fields

variable {lookup : String → Option PyValue}

/-- A field holds what its validation made of the value supplied for it, or of its default. -/
def Holds (lookup : String → Option PyValue) (values : FieldValues) (field : FieldSpec) : Prop :=
  ∃ supplied value, (lookup field.name).or field.default = some supplied ∧
    field.validate supplied = .ok value ∧ values.get? field.name = some value

/-- Validation without complaints fills in every field and touches no other. -/
theorem holds_of_foldl_validateField {fields : List FieldSpec}
    (hnodup : (fields.map FieldSpec.name).Nodup) {state : FieldValues × List FieldError}
    {values : FieldValues} (h : fields.foldl (validateField lookup) state = (values, [])) :
    state.2 = [] ∧ (∀ field ∈ fields, Holds lookup values field) ∧
      ∀ name, name ∉ fields.map FieldSpec.name → values.get? name = state.1.get? name := by
  induction fields generalizing state with
  | nil =>
    cases h
    exact ⟨rfl, by simp, fun _ _ => rfl⟩
  | cons field fields ih =>
    rw [List.map_cons, List.nodup_cons] at hnodup
    obtain ⟨herrors, hfields, hother⟩ := ih hnodup.2 h
    -- a complaint would have stayed to the end
    have hstep : ∃ supplied value, (lookup field.name).or field.default = some supplied ∧
        field.validate supplied = .ok value ∧ state.2 = [] ∧
        (validateField lookup state field).1 = state.1.set field.name value := by
      unfold validateField at herrors ⊢
      split at herrors
      next => simp at herrors
      next supplied hsupplied =>
        split at herrors
        next value hvalue =>
          rw [hsupplied]
          exact ⟨supplied, value, rfl, hvalue, herrors, rfl⟩
        next => simp at herrors
    obtain ⟨supplied, value, hsupplied, hvalue, hnone, hstate⟩ := hstep
    refine ⟨hnone, fun field' hfield' => ?_, fun name hname => ?_⟩
    · rcases List.mem_cons.1 hfield' with rfl | hfield'
      · refine ⟨supplied, value, hsupplied, hvalue, ?_⟩
        rw [hother _ hnodup.1, hstate, InsertionDict.get?_set, if_pos rfl]
      · exact hfields field' hfield'
    · rw [List.map_cons, List.mem_cons, not_or] at hname
      rw [hother name hname.2, hstate, InsertionDict.get?_set, if_neg hname.1]

theorem holds_of_validate {fields : List FieldSpec} {vaultSecretFields : List String}
    {values : FieldValues} (hnodup : (fields.map FieldSpec.name).Nodup)
    (h : (SettingsModel.ofFields fields vaultSecretFields).validate lookup = .ok values) :
    ∀ field ∈ fields, Holds lookup values field := by
  simp only [SettingsModel.ofFields] at h
  split at h
  next herrors =>
    cases h
    exact (holds_of_foldl_validateField hnodup (Prod.ext rfl herrors)).2.1
  next => cases h

end Fields

/-! ### Connection settings that were built -/

/-- The value of a connection field is a string that its validators returned. -/
theorem exists_text_of_connectionField {name : String} {after : String → Except PyException String}
    {supplied value : PyValue} (h : (connectionField name after).validate supplied = .ok value) :
    ∃ raw text, after (strip raw) = .ok text ∧ value = .str text := by
  cases supplied with
  | str raw =>
    obtain ⟨-, text, hafter, rfl⟩ := connectionField_eq_ok.1 h
    exact ⟨raw, text, hafter, rfl⟩
  | _ => cases h

section Connection

variable [TextTables] {contents : Contents} {values : FieldValues}

/-- A connection field of settings that were built is a string that its validators returned. -/
theorem exists_stringValue {name : String} {after : String → Except PyException String}
    (hmem : connectionField name after ∈
      [logLevel, azureKeyVaultUrl, azureTenantId, azureClientId, azureClientSecret, dataverseUrl])
    (h : inventorySyncModel.construct contents = .ok values) :
    ∃ raw text, after (strip raw) = .ok text ∧ stringValue values name = some text := by
  have hnodup : ([logLevel, azureKeyVaultUrl, azureTenantId, azureClientId, azureClientSecret,
      dataverseUrl].map FieldSpec.name).Nodup := by
    simp [logLevel, azureKeyVaultUrl, azureTenantId, azureClientId, azureClientSecret, dataverseUrl,
      connectionField]
  simp only [SettingsModel.construct] at h
  split at h
  next => cases h
  next state _ =>
    cases hvalidate : inventorySyncModel.validate state.get? with
    | error errors =>
      rw [hvalidate] at h
      cases h
    | ok values' =>
      rw [hvalidate] at h
      cases h
      obtain ⟨supplied, value, -, hvalue, hget⟩ := holds_of_validate hnodup hvalidate _ hmem
      obtain ⟨raw, text, hafter, rfl⟩ := exists_text_of_connectionField hvalue
      refine ⟨raw, text, hafter, ?_⟩
      change values.get? name = _ at hget
      rw [stringValue, hget]

/-- Settings that were built have all connection settings, and their URL has the scheme `https`, a
network location, and no slash at its end. -/
theorem exists_connectionSettings (h : inventorySyncModel.construct contents = .ok values) :
    ∃ settings parsed, connectionSettings values = some settings ∧
      Url.urlparse settings.dataverseUrl.toList = .ok parsed ∧ parsed.scheme = "https".toList ∧
      parsed.netloc ≠ [] ∧ settings.dataverseUrl.toList.getLast? ≠ some '/' := by
  obtain ⟨_, tenant, -, htenant⟩ := exists_stringValue (.tail _ (.tail _ (.head _))) h
  obtain ⟨_, client, -, hclient⟩ := exists_stringValue (.tail _ (.tail _ (.tail _ (.head _)))) h
  obtain ⟨_, secret, -, hsecret⟩ :=
    exists_stringValue (.tail _ (.tail _ (.tail _ (.tail _ (.head _))))) h
  obtain ⟨raw, url, hafter, hurl⟩ :=
    exists_stringValue (.tail _ (.tail _ (.tail _ (.tail _ (.tail _ (.head _)))))) h
  obtain ⟨rfl, parsed, hparsed, hscheme, hnetloc⟩ := validateHttpsUrl_eq_ok.1 hafter
  refine ⟨⟨tenant, client, secret, stripTrailingSlash (strip raw)⟩, parsed, ?_, hparsed, hscheme,
    hnetloc, getLast?_stripTrailingSlash (strip raw)⟩
  simp [connectionSettings, htenant, hclient, hsecret, hurl]

end Connection

end Settings
