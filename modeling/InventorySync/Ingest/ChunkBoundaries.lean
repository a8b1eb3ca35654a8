import InventorySync.Ingest.SourceAgnostic

/-!
# Chunk boundaries

`dedupe_last_seen_chunks` over chunks with the same plain columns and string keys: the frame it
returns is determined by the sequence of rows alone, wherever that sequence is cut.

* `exists_dedupe_textKey`: the rows returned are the last rows of each key, in the order in which
  the keys first occur;
* `dedupeLastSeenChunks_exact`: so the cuts do not matter, and deduplicating twice is deduplicating
  once.
-/

open Python Pandas

namespace Ingest

/-- The key of a row whose key cell holds a string. -/
def textKey (key : String) (row : NamedTuple) : String :=
  match cell row.fields row.values key with
  | some (.str s) => s
  | _ => ""

/-- Every row has a string in its key column. -/
def TextKeys (key : String) (rows : List NamedTuple) : Prop :=
  ∀ row ∈ rows, ∃ s, cell row.fields row.values key = some (.str s)

section Cuts

variable {key : String} {rows : List NamedTuple}

/-- On string keys, the dictionary compares the strings. -/
theorem collect_rowKey_eq (h : TextKeys key rows) :
    Recency.collect (rowKey key) rows = Recency.collect (textKey key) rows := by
  apply Recency.collect_congr (g := PyValue.HashKey.text)
  · -- different strings hash to different keys
    intro s _ t _ hst
    exact PyValue.HashKey.text.inj hst
  · intro row hrow
    obtain ⟨s, hs⟩ := h row hrow
    rw [rowKey, textKey, hs]
    rfl

variable [IdentifierTables] {frames : List DataFrame} {columns : List String}

/-- A frame without rows deduplicates to itself. -/
theorem dedupeLastSeenChunks_of_rows_eq_nil {df : DataFrame} (h : df.rows = []) :
    dedupeLastSeenChunks [.ok df] key = .ok df := by
  have htuples : df.itertuples = [] := by
    rw [← List.length_eq_zero_iff, DataFrame.length_itertuples, h]
    rfl
  -- no row is recorded, and the frame is rebuilt from the first chunk's labels
  have hnil : feedRows [df] = [] := by simp [feedRows, htuples]
  have hwidth : ∀ row ∈ feedRows [df], row.fields.length = 0 := by simp [hnil]
  have hcell : ∀ row ∈ feedRows [df],
      ∃ value, cell row.fields row.values key = some value := by simp [hnil]
  obtain ⟨records, hok, hrows, hcols⟩ := exists_dedupeLastSeenChunks_of_width hwidth hcell
  rw [hnil] at hrows hcols
  have hsame : records = df := DataFrame.ext_of hcols (hrows.trans h.symm)
  exact hsame ▸ hok

/-- The rows returned are the last rows of each key, in the order in which the keys first occur,
under the labels of the first chunk. -/
theorem exists_dedupe_textKey (h : Readable columns key)
    (hcolumns : ∀ df ∈ frames, df.columns = columns) (hkeys : TextKeys key (feedRows frames)) :
    ∃ records, dedupeLastSeenChunks (frames.map .ok) key = .ok records ∧
      records.columns = feedColumns frames ∧
      records.itertuples = Recency.collect (textKey key) (feedRows frames) := by
  by_cases hne : frames = []
  · subst hne
    exact ⟨DataFrame.ofColumns [], rfl, rfl, rfl⟩
  · obtain ⟨records, hok, hcols, hrows⟩ := dedupeLastSeenChunks_eq_ok hne hcolumns h
    refine ⟨records, hok, ?_, ?_⟩
    · rw [hcols, feedColumns_of_ne_nil hne hcolumns]
    · rw [hrows, collect_rowKey_eq hkeys]

/-- The frame returned is determined by the labels and the sequence of rows. -/
theorem dedupeLastSeenChunks_congr {frames' : List DataFrame} (h : Readable columns key)
    (hcolumns : ∀ df ∈ frames, df.columns = columns)
    (hcolumns' : ∀ df ∈ frames', df.columns = columns)
    (hnil : frames' = [] ↔ frames = []) (hrows : feedRows frames' = feedRows frames) :
    dedupeLastSeenChunks (frames'.map .ok) key = dedupeLastSeenChunks (frames.map .ok) key := by
  by_cases hne : frames = []
  · rw [hne, hnil.2 hne]
  · obtain ⟨records, hok, hcols, hkept⟩ := dedupeLastSeenChunks_eq_ok hne hcolumns h
    obtain ⟨records', hok', hcols', hkept'⟩ :=
      dedupeLastSeenChunks_eq_ok (hnil.not.2 hne) hcolumns' h
    have hsame : records' = records := by
      apply DataFrame.ext_itertuples (hcols'.trans hcols.symm)
      -- the rows kept depend on the rows alone, not on where they are cut
      rw [hkept', hrows, hkept]
    rw [hok', hok, hsame]

/-- Deduplicating a deduplicated frame returns it unchanged. -/
theorem dedupeLastSeenChunks_idempotent {records : DataFrame} (h : Readable columns key)
    (hcolumns : ∀ df ∈ frames, df.columns = columns)
    (hok : dedupeLastSeenChunks (frames.map .ok) key = .ok records) :
    dedupeLastSeenChunks [.ok records] key = .ok records := by
  by_cases hne : frames = []
  · subst hne
    obtain rfl := Except.ok.inj hok
    exact dedupeLastSeenChunks_of_rows_eq_nil rfl
  · obtain ⟨first, hfirst, hcols, hkept⟩ := dedupeLastSeenChunks_eq_ok hne hcolumns h
    obtain rfl : records = first := Except.ok.inj (hok.symm.trans hfirst)
    have hcolumns' : ∀ df ∈ [records], df.columns = columns :=
      fun df hdf => List.mem_singleton.1 hdf ▸ hcols
    obtain ⟨again, hagain, hcols', hkept'⟩ :=
      dedupeLastSeenChunks_eq_ok (List.cons_ne_nil _ _) hcolumns' h
    -- the second time the feed is one chunk, whose keys are all different
    have hfeed : feedRows [records] = records.itertuples := by simp [feedRows]
    have hsame : again = records := by
      apply DataFrame.ext_itertuples (hcols'.trans hcols.symm)
      rw [hkept', hfeed, hkept, Recency.collect_collect]
    exact hsame ▸ hagain

/-- Deduplicating chunks with the same plain columns and string keys returns the last row of every
key, in the order in which the keys first occur, wherever the rows are cut into chunks; and
deduplicating its result again changes nothing. -/
theorem dedupeLastSeenChunks_exact (h : Readable columns key)
    (hcolumns : ∀ df ∈ frames, df.columns = columns) (hkeys : TextKeys key (feedRows frames)) :
    ∃ records, dedupeLastSeenChunks (frames.map .ok) key = .ok records ∧
      records.columns = feedColumns frames ∧
      -- one row for each key, in first-occurrence order
      (records.itertuples.map (textKey key)).Nodup ∧
      records.itertuples.map (textKey key) = ((feedRows frames).map (textKey key)).eraseDups ∧
      (∀ row, row ∈ records.itertuples ↔ Recency.IsLatest (textKey key) (feedRows frames) row) ∧
      (feedRows frames = [] → records = DataFrame.ofColumns (feedColumns frames)) ∧
      (∀ frames', (∀ df ∈ frames', df.columns = columns) → (frames' = [] ↔ frames = []) →
        feedRows frames' = feedRows frames →
        dedupeLastSeenChunks (frames'.map .ok) key = .ok records) ∧
      dedupeLastSeenChunks [.ok records] key = .ok records := by
  obtain ⟨records, hok, hcols, hrows⟩ := exists_dedupe_textKey h hcolumns hkeys
  refine ⟨records, hok, hcols, ?_, ?_, fun row => ?_, fun hnil => ?_, ?_, ?_⟩
  · rw [hrows]
    exact Recency.nodup_collect _
  · rw [hrows, Recency.map_key_collect]
  · rw [hrows]
    exact Recency.mem_collect
  · apply DataFrame.ext_of hcols
    rw [← DataFrame.map_values_itertuples, hrows, hnil]
    rfl
  · intro frames' hcolumns' hcut hfeed
    rw [dedupeLastSeenChunks_congr h hcolumns hcolumns' hcut hfeed, hok]
  · exact dedupeLastSeenChunks_idempotent h hcolumns hok

end Cuts

/-! ### A feed cut into three chunks -/

/-- A feed with an empty chunk in the middle and a key on both sides of it. -/
def threeChunks : List DataFrame :=
  [[("A", "bolt", 1), ("B", "nut", 2)], [], [("A", "bolt", 3)]].map inventoryFrame

theorem textKeys_inventoryFrame (chunks : List (List (String × String × ℤ))) :
    TextKeys "sku_id" (@feedRows asciiTables (chunks.map inventoryFrame)) := by
  intro row hrow
  obtain ⟨df, hdf, hrow⟩ := List.mem_flatMap.1 hrow
  obtain ⟨rows, -, rfl⟩ := List.mem_map.1 hdf
  have hfields :=
    @fields_of_mem asciiTables (inventoryFrame rows) plainColumns_inventoryFrame row hrow
  obtain ⟨⟨sku, name, price⟩, -, hvalues⟩ :=
    List.mem_map.1 (@DataFrame.mem_itertuples asciiTables _ row |>.1 hrow).2
  refine ⟨sku, ?_⟩
  rw [hfields, ← hvalues]
  rfl

/-- The last row of `A` stands where `A` first occurs. -/
theorem dedupeLastSeenChunks_exact_threeChunks :
    ∃ records, @dedupeLastSeenChunks asciiTables (threeChunks.map .ok) "sku_id" = .ok records ∧
      (@DataFrame.itertuples asciiTables records).map (textKey "sku_id") = ["A", "B"] ∧
      @dedupeLastSeenChunks asciiTables [.ok records] "sku_id" = .ok records := by
  obtain ⟨records, hok, -, -, hkeys, -, -, -, hagain⟩ :=
    @dedupeLastSeenChunks_exact "sku_id" asciiTables threeChunks
      ["sku_id", "item_name", "unit_price"] (@Readable.mk asciiTables _ _
        plainColumns_inventoryFrame (by decide))
      columns_inventoryFrame (textKeys_inventoryFrame _)
  exact ⟨records, hok, hkeys.trans rfl, hagain⟩

end Ingest
