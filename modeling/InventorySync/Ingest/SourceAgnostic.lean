import InventorySync.Ingest.LoadRecords

/-!
# The chunked and the one-shot path

Both paths keep the same rows (`loadRecords_latest`), but not in the same order: `drop_duplicates`
leaves a key where it last occurred, the dictionary of the chunked path where it first occurred.
The two results are equal exactly when no key has all its rows between two rows of another key.
-/

open Python Pandas

namespace Ingest

/-- The concatenation of frames with the given labels. -/
def concat (columns : List String) (frames : List DataFrame)
    (h : ∀ df ∈ frames, df.columns = columns) : DataFrame :=
  ⟨columns, frames.flatMap DataFrame.rows, fun row hrow => by
    obtain ⟨df, hdf, hrow⟩ := List.mem_flatMap.1 hrow
    exact h df hdf ▸ df.rectangular row hrow⟩

section Concat

variable {columns : List String} {frames : List DataFrame}

theorem valid_concat {mixin : InventoryDomainMixin} (hcolumns : ∀ df ∈ frames, df.columns = columns)
    (hne : frames ≠ []) (hvalid : ∀ df ∈ frames, mixin.Valid df) :
    mixin.Valid (concat columns frames hcolumns) := by
  obtain ⟨df, hdf⟩ := List.exists_mem_of_ne_nil frames hne
  refine ⟨fun name hname => ?_, fun row hrow value hvalue => ?_⟩
  · exact hcolumns df hdf ▸ (hvalid df hdf).columns_mem name hname
  · obtain ⟨f, hf, hrow⟩ := List.mem_flatMap.1 hrow
    exact (hvalid f hf).not_blank row hrow value (hcolumns f hf ▸ hvalue)

variable [IdentifierTables]

theorem itertuples_concat (hcolumns : ∀ df ∈ frames, df.columns = columns)
    (hplain : PlainColumns columns) :
    (concat columns frames hcolumns).itertuples = feedRows frames := by
  refine itertuples_eq hplain (fun row hrow => ?_) ?_
  · obtain ⟨df, hdf, hrow⟩ := List.mem_flatMap.1 hrow
    rw [fields_of_mem (hcolumns df hdf ▸ hplain) hrow, hcolumns df hdf]
    rfl
  · change frames.flatMap DataFrame.rows = _
    rw [feedRows, List.map_flatMap]
    simp only [DataFrame.map_values_itertuples]

end Concat

/-- Over valid chunks with the same plain labels, the chunked path returns what the one-shot path
returns for their concatenation exactly when no key has all its rows between two rows of another
key. -/
theorem loadRecords_chunked_eq_oneShot_iff [IdentifierTables] {mixin : InventoryDomainMixin}
    {columns : List String} {frames : List DataFrame} (hne : frames ≠ [])
    (hcolumns : ∀ df ∈ frames, df.columns = columns)
    (hplain : PlainColumns columns) (hvalid : ∀ df ∈ frames, mixin.Valid df) :
    (∃ records,
        { mixin with source := .chunked fun _ => .ok (frames.map .ok) }.loadRecords = .ok records ∧
        { mixin with source := .oneShot (.ok (concat columns frames hcolumns)) }.loadRecords =
          .ok records) ↔
      ¬Recency.Enclosed ((feedRows frames).map (rowKey mixin.dedupeKey)) := by
  have hchunked : ({ mixin with source := .chunked fun _ => .ok (frames.map .ok) } :
      InventoryDomainMixin).source = .chunked fun _ => .ok (frames.map .ok) := rfl
  obtain ⟨streamed, hstreamed, hscols, hsrows⟩ :=
    InventoryDomainMixin.loadRecords_chunked hchunked rfl
      (fun df hdf => ⟨(hvalid df hdf).1, (hvalid df hdf).2⟩) hne hcolumns hplain
  have honeShot : ({ mixin with source := .oneShot (.ok (concat columns frames hcolumns)) } :
      InventoryDomainMixin).source = .oneShot (.ok (concat columns frames hcolumns)) := rfl
  have hwhole := valid_concat hcolumns hne hvalid
  obtain ⟨read, hread, hrcols, hrrows⟩ :=
    InventoryDomainMixin.loadRecords_oneShot honeShot ⟨hwhole.1, hwhole.2⟩ hplain
  rw [itertuples_concat hcolumns hplain] at hrrows
  -- the two results have the same labels, and their rows are `collect` and `keepLast` of the feed
  rw [← Recency.collect_eq_keepLast_iff, hstreamed, hread]
  constructor
  · rintro ⟨records, hs, hr⟩
    obtain rfl := Except.ok.inj hs
    obtain rfl := Except.ok.inj hr
    exact hsrows.symm.trans hrrows
  · intro heq
    have hsame : streamed = read := DataFrame.ext_itertuples (hscols.trans hrcols.symm)
      (hsrows.trans (heq.trans hrrows.symm))
    exact ⟨streamed, rfl, hsame ▸ rfl⟩

/-! ### A feed on which the two paths differ -/

/-- A frame with the shipped columns. -/
def inventoryFrame (rows : List (String × String × ℤ)) : DataFrame where
  columns := ["sku_id", "item_name", "unit_price"]
  rows := rows.map fun (sku, name, price) => [.str sku, .str name, .int price]
  rectangular := by
    intro row hrow
    obtain ⟨_, -, rfl⟩ := List.mem_map.1 hrow
    rfl

theorem columns_inventoryFrame {chunks : List (List (String × String × ℤ))} :
    ∀ df ∈ chunks.map inventoryFrame, df.columns = ["sku_id", "item_name", "unit_price"] := by
  intro df hdf
  obtain ⟨rows, -, rfl⟩ := List.mem_map.1 hdf
  rfl

theorem plainColumns_inventoryFrame :
    @PlainColumns asciiTables ["sku_id", "item_name", "unit_price"] := by
  decide

/-- A run over the given source with the shipped defaults. -/
def shippedMixin (source : RecordSource) : InventoryDomainMixin := { source }

/-- All rows of `B` lie between two rows of `A`. -/
def enclosedFeed : DataFrame := inventoryFrame [("A", "bolt", 1), ("B", "nut", 2), ("A", "bolt", 3)]

theorem loadRecords_chunked_eq_oneShot_iff_enclosedFeed :
    (∃ records,
        @InventoryDomainMixin.loadRecords
          (shippedMixin (.chunked fun _ => .ok [.ok enclosedFeed])) asciiTables = .ok records ∧
        @InventoryDomainMixin.loadRecords (shippedMixin (.oneShot (.ok enclosedFeed)))
          asciiTables = .ok records) ↔
      ¬Recency.Enclosed ((@feedRows asciiTables [enclosedFeed]).map (rowKey "sku_id")) :=
  @loadRecords_chunked_eq_oneShot_iff asciiTables (shippedMixin (.oneShot (.ok enclosedFeed)))
    enclosedFeed.columns [enclosedFeed] (by simp) (by simp) (by decide) fun df hdf =>
      List.mem_singleton.1 hdf ▸
        (InventoryDomainMixin.validate_eq_ok.1
          (rfl : (shippedMixin (.oneShot (.ok enclosedFeed))).validate enclosedFeed =
            .ok enclosedFeed)).2

/-- The chunked path writes `A` first, the one-shot path `B`. -/
theorem loadRecords_order_differs :
    (@InventoryDomainMixin.loadRecords (shippedMixin (.chunked fun _ => .ok [.ok enclosedFeed]))
        asciiTables).map DataFrame.rows =
      .ok [[.str "A", .str "bolt", .int 3], [.str "B", .str "nut", .int 2]] ∧
    (@InventoryDomainMixin.loadRecords (shippedMixin (.oneShot (.ok enclosedFeed)))
        asciiTables).map DataFrame.rows =
      .ok [[.str "B", .str "nut", .int 2], [.str "A", .str "bolt", .int 3]] :=
  ⟨rfl, rfl⟩

end Ingest
