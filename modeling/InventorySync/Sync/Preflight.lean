import InventorySync.Ingest.ColumnAlignment
import InventorySync.Ingest.LazyValidation
import InventorySync.Sync.DataverseRunner

/-!
# What validation covers of the write phase

Validation checks `dedupe_key` and `required_columns`, while the write phase reads `dedupe_key` and
the source columns of `field_mapping`; the two lists are independent arguments of the runner.

* `writable_of_mem`: a row that has every column needed can be written;
* `preflight_iff`: an accepted feed can be written, and a feed without a needed column is rejected,
  exactly when some chunk is invalid anyway or no needed column is missing.
-/

open Python Pandas Ingest Transport

namespace Sync

namespace DataverseInventorySyncRunner

variable (self : DataverseInventorySyncRunner)

/-- The columns that the write phase reads off a row. -/
def neededColumns : List String := self.dedupeKey :: self.fieldMapping.keys

/-- The key of the row can be looked up, and its payload can be built and holds, for each entry of
`field_mapping`, a cell of the row. -/
def Writable (row : NamedTuple) : Prop :=
  (∃ value, row.getattr self.dedupeKey = .ok value) ∧
    ∃ payload, buildPayload self.fieldMapping row = .ok payload ∧
      ∀ field ∈ self.fieldMapping.entries, ∃ value ∈ row.values, payload.get? field.2 = some value

/-- Every row of an accepted feed can be written, and a feed that lacks a column which the write
phase needs is rejected by `RecordValidationError`. -/
def Preflight [IdentifierTables] (frames : List DataFrame) : Prop :=
  (∀ records, self.mixin.loadRecords = .ok records →
    ∀ row ∈ records.itertuples, self.Writable row) ∧
  ((∃ name ∈ self.neededColumns, name ∉ feedColumns frames) →
    ∃ message, self.mixin.loadRecords = .error ⟨.recordValidationError, message⟩)

end DataverseInventorySyncRunner

section Columns

variable [IdentifierTables] {runner : DataverseInventorySyncRunner} {frames : List DataFrame}

/-- A row under plain labels that has every column needed can be written. -/
theorem writable_of_mem {records : DataFrame} (hplain : PlainColumns records.columns)
    (hneeded : ∀ name ∈ runner.neededColumns, name ∈ records.columns) {row : NamedTuple}
    (hrow : row ∈ records.itertuples) : runner.Writable row := by
  have hread : ∀ name ∈ runner.neededColumns,
      ∃ value ∈ row.values, row.getattr name = .ok value := by
    intro name hname
    obtain ⟨value, hmem, -, hget⟩ := DataFrame.getattr_itertuple hplain hrow (hneeded name hname)
    exact ⟨value, hmem, hget⟩
  obtain ⟨key, -, hkey⟩ := hread _ List.mem_cons_self
  -- what is read off each mapped column
  let read (name : String) : PyValue := (row.getattr name).toOption.getD .none
  have hfield : ∀ field ∈ runner.fieldMapping.entries,
      row.getattr field.1 = .ok (read field.1) ∧ read field.1 ∈ row.values := by
    intro field hfield
    obtain ⟨value, hmem, hget⟩ :=
      hread field.1 (List.mem_cons_of_mem _ (List.mem_map_of_mem hfield))
    have hvalue : read field.1 = value := by
      change (row.getattr field.1).toOption.getD .none = value
      rw [hget]
      rfl
    rw [hvalue]
    exact ⟨hget, hmem⟩
  refine ⟨⟨key, hkey⟩, _, buildPayload_eq_ok read fun field hf => (hfield field hf).1, ?_⟩
  intro field hf
  have hkeys : field.2 ∈ (runner.fieldMapping.entries.map fun field =>
      (field.2, read field.1)).map Prod.fst :=
    List.mem_map_of_mem (List.mem_map_of_mem (f := fun field => (field.2, read field.1)) hf)
  -- where two columns map to one field, the later entry wins: still a cell of the row
  obtain ⟨value, hget, hmem⟩ := InsertionDict.exists_get?_ofPairs hkeys
  obtain ⟨field', hf', heq⟩ := List.mem_map.1 hmem
  obtain ⟨-, rfl⟩ := Prod.mk.inj heq
  exact ⟨_, (hfield field' hf').2, hget⟩

/-- A feed with an invalid chunk is rejected by `RecordValidationError`. -/
theorem loadRecords_invalid {mixin : InventoryDomainMixin}
    (hdelivers : mixin.source.Delivers mixin.chunksize frames) (hnames : SameNames frames)
    (hinvalid : ∃ df ∈ frames, ¬mixin.Valid df) :
    ∃ message, mixin.loadRecords = .error ⟨.recordValidationError, message⟩ := by
  obtain ⟨df, hdf, hnot⟩ := hinvalid
  cases hsource : mixin.source with
  | oneShot readRecords =>
    simp only [RecordSource.Delivers, hsource] at hdelivers
    obtain ⟨df', rfl, rfl⟩ := hdelivers
    -- the one frame of the source is the invalid one
    obtain rfl : df = df' := List.mem_singleton.1 hdf
    exact loadRecords_oneShot_invalid hsource hnot
  | chunked read =>
    simp only [RecordSource.Delivers, hsource] at hdelivers
    obtain ⟨-, -, -, message, -, -, -, herror, -⟩ :=
      InventoryDomainMixin.exists_first_invalid hsource hdelivers hnames.plain
        fun hall => hnot (hall df hdf)
    exact ⟨message, herror⟩

/-- Validation covers what the write phase reads exactly when the feed is invalid anyway or has
every column that the write phase needs. -/
theorem preflight_iff (hdelivers : runner.source.Delivers runner.chunksize frames)
    (hnames : SameNames frames) :
    runner.Preflight frames ↔
      (∃ df ∈ frames, ¬runner.mixin.Valid df) ∨
        ∀ name ∈ runner.neededColumns, name ∈ feedColumns frames := by
  have hdelivers' : runner.mixin.source.Delivers runner.mixin.chunksize frames := hdelivers
  by_cases hvalid : ∀ df ∈ frames, runner.mixin.Valid df
  · obtain ⟨records, hok, hplain, hmem⟩ := exists_loadRecords hdelivers' hvalid hnames
    constructor
    · -- the feed is accepted, so it must not lack a needed column
      rintro ⟨-, hreject⟩
      refine .inr fun name hname => ?_
      by_contra hmissing
      obtain ⟨message, herror⟩ := hreject ⟨name, hname, hmissing⟩
      cases hok.symm.trans herror
    · rintro (⟨df, hdf, hnot⟩ | hneeded)
      · exact absurd (hvalid df hdf) hnot
      · -- the records have the columns of the feed, and so every column needed
        refine ⟨fun records' hok' row hrow => ?_, ?_⟩
        · obtain rfl : records = records' := Except.ok.inj (hok.symm.trans hok')
          exact writable_of_mem hplain (fun name hname => (hmem name).2 (hneeded name hname)) hrow
        · rintro ⟨name, hname, hmissing⟩
          exact absurd (hneeded name hname) hmissing
  · -- an invalid feed is rejected, whatever the write phase would need
    have hinvalid : ∃ df ∈ frames, ¬runner.mixin.Valid df := by
      simpa using hvalid
    obtain ⟨message, herror⟩ := loadRecords_invalid hdelivers' hnames hinvalid
    refine iff_of_true ⟨fun records hok => ?_, fun _ => ⟨message, herror⟩⟩ (.inl hinvalid)
    cases herror.symm.trans hok

end Columns

/-! ### A mapped column that is not required -/

/-- A customer's runner that also writes a warehouse, over one chunk with the shipped columns. -/
def warehouseRunner : DataverseInventorySyncRunner where
  source := .chunked fun _ => .ok [.ok (inventoryFrame [("A", "bolt", 1)])]
  fieldMapping := InsertionDict.ofPairs
    [("item_name", "lagsol_name"), ("unit_price", "lagsol_unitprice"),
      ("warehouse", "lagsol_warehouse")]

theorem sameNames_inventoryFrame (rows : List (String × String × ℤ)) :
    @SameNames asciiTables [inventoryFrame rows] := by
  refine @SameNames.mk asciiTables _ (fun df hdf => ?_) fun df hdf df' hdf' name => ?_
  · rw [List.mem_singleton.1 hdf]
    exact plainColumns_inventoryFrame
  · rw [List.mem_singleton.1 hdf, List.mem_singleton.1 hdf']

theorem preflight_iff_warehouseRunner :
    @DataverseInventorySyncRunner.Preflight warehouseRunner asciiTables
        [inventoryFrame [("A", "bolt", 1)]] ↔
      (∃ df ∈ [inventoryFrame [("A", "bolt", 1)]], ¬warehouseRunner.mixin.Valid df) ∨
        ∀ name ∈ warehouseRunner.neededColumns,
          name ∈ feedColumns [inventoryFrame [("A", "bolt", 1)]] :=
  @preflight_iff asciiTables warehouseRunner _ rfl (sameNames_inventoryFrame _)

/-- The feed passes validation, and the write phase reads a column that it does not have. -/
theorem preflight_misses_warehouse :
    (∀ name ∈ warehouseRunner.neededColumns ++ warehouseRunner.requiredColumns,
      @isFieldName asciiTables name = true) ∧
    "warehouse" ∈ warehouseRunner.neededColumns ∧
    (@InventoryDomainMixin.loadRecords warehouseRunner.mixin asciiTables).map DataFrame.rows =
      .ok [[.str "A", .str "bolt", .int 1]] ∧
    buildPayload warehouseRunner.fieldMapping (inventoryRow (.str "A") (.str "bolt") (.int 1)) =
      .error ⟨.attributeError, "'Pandas' object has no attribute 'warehouse'"⟩ ∧
    ¬@DataverseInventorySyncRunner.Preflight warehouseRunner asciiTables
        [inventoryFrame [("A", "bolt", 1)]] := by
  refine ⟨by decide, by decide, rfl, rfl, ?_⟩
  rintro ⟨-, hreject⟩
  obtain ⟨message, herror⟩ := hreject ⟨"warehouse", by decide, by decide⟩
  have hok : (@InventoryDomainMixin.loadRecords warehouseRunner.mixin asciiTables).map
      DataFrame.rows = .ok [[.str "A", .str "bolt", .int 1]] := rfl
  rw [herror] at hok
  cases hok

end Sync
