import InventorySync.Ingest.LoadRecords
import InventorySync.Sync.UpsertOne

/-!
# The Dataverse runner

`DataverseInventorySyncRunner`: its constructor arguments with their defaults, the two bases it
hands them to, and `build_payload`.
-/

open Python Pandas Ingest Transport

namespace Sync

/-- A run from a source feed into Dataverse. -/
structure DataverseInventorySyncRunner where
  source : RecordSource
  dedupeKey : String := "sku_id"
  requiredColumns : List String := ["item_name", "unit_price"]
  entitySet : String := "lagsol_inventoryitems"
  alternateKeyField : String := "lagsol_skuid"
  /-- Source column name to Dataverse field name. -/
  fieldMapping : InsertionDict String String :=
    InsertionDict.ofPairs [("item_name", "lagsol_name"), ("unit_price", "lagsol_unitprice")]
  maxWorkers : ℤ := 10
  chunksize : ℤ := 10000
  failureThreshold : ℤ := 5
  writeWindowSize : ℤ := 50

/-- One pass of the comprehension in `build_payload`. -/
def addField (row : NamedTuple) (payload : Payload) (field : String × String) :
    Except PyException Payload := do
  -- a later column mapped to the same field overwrites the value, not the position
  let value ← row.getattr field.1
  return payload.set field.2 value

/-- Map a generic inventory row to Dataverse's field schema. -/
def buildPayload (fieldMapping : InsertionDict String String) (row : NamedTuple) :
    Except PyException Payload :=
  fieldMapping.entries.foldlM (addField row) InsertionDict.empty

namespace DataverseInventorySyncRunner

variable (self : DataverseInventorySyncRunner)

/-- The ingest base of the runner. -/
def mixin : InventoryDomainMixin where
  source := self.source
  dedupeKey := self.dedupeKey
  chunksize := self.chunksize
  requiredColumns := self.requiredColumns

/-- The OData base of the runner. -/
def odata : BaseODataSyncRunner where
  dedupeKey := self.dedupeKey
  entitySet := self.entitySet
  alternateKeyField := self.alternateKeyField
  buildPayload := buildPayload self.fieldMapping
  maxWorkers := self.maxWorkers
  failureThreshold := self.failureThreshold
  writeWindowSize := self.writeWindowSize

end DataverseInventorySyncRunner

/-- A row of an inventory feed. -/
def inventoryRow (sku name price : PyValue) : NamedTuple where
  fields := ["sku_id", "item_name", "unit_price"]
  values := [sku, name, price]
  length_values := rfl

/-- If every mapped column can be read, the payload is built, and it is the one of the values
read. -/
theorem buildPayload_eq_ok {fieldMapping : InsertionDict String String} {row : NamedTuple}
    (read : String → PyValue)
    (h : ∀ field ∈ fieldMapping.entries, row.getattr field.1 = .ok (read field.1)) :
    buildPayload fieldMapping row =
      .ok (InsertionDict.ofPairs
        (fieldMapping.entries.map fun field => (field.2, read field.1))) := by
  rw [InsertionDict.ofPairs, List.foldl_map]
  apply Except.foldlM_eq_foldl _
  intro field hfield payload
  rw [addField, h field hfield]
  rfl

/-- A mapped column that cannot be read stops `build_payload`. -/
theorem getattr_of_buildPayload {fieldMapping : InsertionDict String String} {row : NamedTuple}
    {payload : Payload} (h : buildPayload fieldMapping row = .ok payload) :
    ∀ field ∈ fieldMapping.entries, ∃ value, row.getattr field.1 = .ok value := by
  intro field hfield
  obtain ⟨before, after, hstep⟩ := Except.exists_ok_of_foldlM h field hfield
  obtain ⟨value, hvalue, -⟩ := Except.bind_eq_ok.1 hstep
  exact ⟨value, hvalue⟩

/-- `build_payload` fails only with what reading a mapped column raises. -/
theorem exists_buildPayload {fieldMapping : InsertionDict String String} {row : NamedTuple}
    (h : ∀ field ∈ fieldMapping.entries, ∃ value, row.getattr field.1 = .ok value) :
    ∃ payload, buildPayload fieldMapping row = .ok payload := by
  -- what is read off a column that cannot be read does not matter: no such column is mapped
  refine ⟨_, buildPayload_eq_ok (fun name => (row.getattr name).toOption.getD .none) ?_⟩
  intro field hfield
  obtain ⟨value, hvalue⟩ := h field hfield
  rw [hvalue]
  rfl

/-- If no two columns are mapped to the same field, the values of a payload are those of the mapped
columns. -/
theorem mem_values_of_buildPayload {fieldMapping : InsertionDict String String} {row : NamedTuple}
    {payload : Payload} (hfields : (fieldMapping.entries.map Prod.snd).Nodup)
    (h : buildPayload fieldMapping row = .ok payload) (value : PyValue) :
    value ∈ payload.values ↔ ∃ field ∈ fieldMapping.entries, row.getattr field.1 = .ok value := by
  have hread : ∀ field ∈ fieldMapping.entries,
      row.getattr field.1 = .ok ((row.getattr field.1).toOption.getD .none) := by
    intro field hfield
    obtain ⟨value, hvalue⟩ := getattr_of_buildPayload h field hfield
    rw [hvalue]
    rfl
  rw [buildPayload_eq_ok (fun name => (row.getattr name).toOption.getD .none) hread] at h
  obtain rfl := Except.ok.inj h
  -- no two columns map to the same field, so no entry of the payload overwrites another
  have hkeys : ((fieldMapping.entries.map fun field =>
      (field.2, (row.getattr field.1).toOption.getD .none)).map Prod.fst).Nodup := by
    rwa [List.map_map]
  rw [InsertionDict.values, InsertionDict.entries_ofPairs_of_nodup hkeys, List.map_map,
    List.mem_map]
  constructor
  · rintro ⟨field, hfield, rfl⟩
    exact ⟨field, hfield, hread field hfield⟩
  · rintro ⟨field, hfield, hvalue⟩
    refine ⟨field, hfield, ?_⟩
    simp [hvalue, Except.toOption]

end Sync
