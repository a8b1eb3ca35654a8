import InventorySync.Sync.DataverseRunner

/-!
# The rows of an accepted feed

What `sync_records` can rely on after `load_records` accepted a feed with string keys whose columns
are plain and include the mapped ones: every record has a string key, which no other record has,
and a payload that `build_payload` builds.
-/

open Python Pandas Ingest Transport

namespace Sync

/-- A feed with string keys, with the same plain columns in every frame and every mapped column
among them, that `load_records` accepts. -/
structure AcceptedFeed [IdentifierTables] (runner : DataverseInventorySyncRunner)
    (frames : List DataFrame) (columns : List String) (records : DataFrame) : Prop where
  delivers : runner.source.Delivers runner.chunksize frames
  columns_eq : ∀ df ∈ frames, df.columns = columns
  plain : PlainColumns columns
  mapped_mem : ∀ field ∈ runner.fieldMapping.entries, field.1 ∈ columns
  string_keys : ∀ df ∈ frames, ∀ row ∈ df.rows, ∀ value,
    cell columns row runner.dedupeKey = some value → ∃ text, value = .str text
  loaded : runner.mixin.loadRecords = .ok records

namespace AcceptedFeed

variable [IdentifierTables] {runner : DataverseInventorySyncRunner} {frames : List DataFrame}
  {columns : List String} {records : DataFrame}

/-- Exactly the latest row of each key of the feed is a record. -/
theorem mem_records (h : AcceptedFeed runner frames columns records) (row : NamedTuple) :
    row ∈ records.itertuples ↔
      Recency.IsLatest (rowKey runner.dedupeKey) (feedRows frames) row :=
  (InventoryDomainMixin.loadRecords_latest h.loaded h.delivers h.columns_eq h.plain).1 row

/-- No two records have the same key. -/
theorem nodup_keys (h : AcceptedFeed runner frames columns records) :
    (records.itertuples.map (rowKey runner.dedupeKey)).Nodup :=
  (InventoryDomainMixin.loadRecords_latest h.loaded h.delivers h.columns_eq h.plain).2

/-- Every row of the feed has a string key, under which dedup files it. -/
theorem exists_key (h : AcceptedFeed runner frames columns records) {row : NamedTuple}
    (hrow : row ∈ feedRows frames) : ∃ text,
      row.getattr runner.dedupeKey = .ok (.str text) ∧
        rowKey runner.dedupeKey row = .text text := by
  obtain ⟨df, hdf, hrow⟩ := List.mem_flatMap.1 hrow
  obtain ⟨frames', hdelivers, hvalid⟩ :=
    InventoryDomainMixin.exists_delivers_of_loadRecords h.loaded
  obtain rfl : frames = frames' := h.delivers.unique hdelivers
  have hcolumns := h.columns_eq df hdf
  have hplain : PlainColumns df.columns := hcolumns ▸ h.plain
  have hkey : runner.dedupeKey ∈ df.columns := (hvalid df hdf).columns_mem _ List.mem_cons_self
  -- the key column is plain, so its cell is what attribute access reads
  obtain ⟨value, -, hcell, hget⟩ := DataFrame.getattr_itertuple hplain hrow hkey
  obtain ⟨text, rfl⟩ := h.string_keys df hdf _ (DataFrame.mem_itertuples.1 hrow).2 value
    (hcolumns ▸ hcell)
  refine ⟨text, hget, ?_⟩
  rw [rowKey, fields_of_mem hplain hrow, hcell]
  rfl

/-- The payload of every row of the feed can be built. -/
theorem exists_payload (h : AcceptedFeed runner frames columns records) {row : NamedTuple}
    (hrow : row ∈ feedRows frames) : ∃ payload, runner.odata.buildPayload row = .ok payload := by
  obtain ⟨df, hdf, hrow⟩ := List.mem_flatMap.1 hrow
  apply exists_buildPayload
  intro field hfield
  have hmem : field.1 ∈ df.columns := h.columns_eq df hdf ▸ h.mapped_mem field hfield
  obtain ⟨value, -, -, hget⟩ :=
    DataFrame.getattr_itertuple (h.columns_eq df hdf ▸ h.plain) hrow hmem
  exact ⟨value, hget⟩

/-- A record is a row of the feed. -/
theorem mem_feedRows (h : AcceptedFeed runner frames columns records) {row : NamedTuple}
    (hrow : row ∈ records.itertuples) : row ∈ feedRows frames :=
  ((h.mem_records row).1 hrow).mem

end AcceptedFeed

/-! ### Feeds with the shipped columns -/

/-- A frame with the shipped columns and string keys. -/
def shippedFrame (rows : List (String × PyValue × PyValue)) : DataFrame where
  columns := ["sku_id", "item_name", "unit_price"]
  rows := rows.map fun (sku, name, price) => [.str sku, name, price]
  rectangular := by
    intro row hrow
    obtain ⟨_, -, rfl⟩ := List.mem_map.1 hrow
    rfl

/-- A run over one such frame, with the shipped defaults. -/
def shippedRunner (rows : List (String × PyValue × PyValue)) : DataverseInventorySyncRunner where
  source := .oneShot (.ok (shippedFrame rows))

theorem acceptedFeed_shipped {rows : List (String × PyValue × PyValue)} {records : DataFrame}
    (hloaded : @InventoryDomainMixin.loadRecords (shippedRunner rows).mixin asciiTables =
      .ok records) :
    @AcceptedFeed asciiTables (shippedRunner rows) [shippedFrame rows]
      ["sku_id", "item_name", "unit_price"] records := by
  have hmapped : ∀ field ∈ (shippedRunner []).fieldMapping.entries,
      field.1 ∈ ["sku_id", "item_name", "unit_price"] := by decide
  refine @AcceptedFeed.mk asciiTables _ _ _ _ ⟨shippedFrame rows, rfl, rfl⟩
    (fun df hdf => List.mem_singleton.1 hdf ▸ rfl) (by decide) hmapped ?_ hloaded
  intro df hdf row hrow value hvalue
  obtain rfl := List.mem_singleton.1 hdf
  obtain ⟨⟨sku, name, price⟩, -, rfl⟩ := List.mem_map.1 hrow
  exact ⟨sku, (Option.some.inj hvalue).symm⟩

end Sync
