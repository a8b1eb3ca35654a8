import InventorySync.Ingest.Csv

/-!
# What the chunk size of a CSV read decides

Each chunk is typed on its own, so a key text may be read as an integer under one chunk size and as
a string under another. `loadsAlike_iff` says for which feeds the chunk size changes how a
read is cut and nothing else.
-/

open Python Pandas

namespace Ingest

namespace CsvFeed

variable {feed : CsvFeed} {key : String} {n : ℕ}

/-- The rows of the feed, each with the cells it is read as under a chunk size. -/
def readPairs (feed : CsvFeed) (n : ℕ) : List (CsvRow feed.header × List PyValue) :=
  (feed.chunks n).flatMap fun slice =>
    slice.map fun row => (row, readRow (slice.map Subtype.val) row.val)

theorem flatten_chunks (hn : 0 < n) : (feed.chunks n).flatten = feed.rows := by
  unfold chunks
  split
  next hempty => simp [List.isEmpty_iff.1 hempty]
  next => exact flatten_slices hn feed.rows

theorem map_fst_readPairs (hn : 0 < n) : (feed.readPairs n).map Prod.fst = feed.rows := by
  rw [readPairs, List.map_flatMap, ← flatten_chunks hn]
  simp [List.flatMap, List.map_map, Function.comp_def]

theorem map_snd_readPairs : (feed.readPairs n).map Prod.snd = feed.readRows n := by
  rw [readPairs, List.map_flatMap, readRows, frames, List.flatMap_map]
  simp [frame, List.map_map, Function.comp_def]

variable (feed) in
theorem length_readRows (hn : 0 < n) : (feed.readRows n).length = feed.rows.length := by
  rw [← map_snd_readPairs, ← map_fst_readPairs hn, List.length_map, List.length_map]

theorem zip_readRows (hn : 0 < n) : feed.rows.zip (feed.readRows n) = feed.readPairs n := by
  rw [← map_fst_readPairs hn, ← map_snd_readPairs, List.zip_map', List.map_id']

/-- A pair comes from a chunk of rows of the feed. -/
theorem exists_chunk_of_mem (hn : 0 < n) {p : CsvRow feed.header × List PyValue}
    (hp : p ∈ feed.readPairs n) :
    ∃ slice ∈ feed.chunks n, p.1 ∈ slice ∧ p.2 = readRow (slice.map Subtype.val) p.1.val ∧
      ∀ row ∈ slice, row ∈ feed.rows := by
  obtain ⟨slice, hslice, hp⟩ := List.mem_flatMap.1 hp
  obtain ⟨row, hrow, rfl⟩ := List.mem_map.1 hp
  refine ⟨slice, hslice, hrow, rfl, fun r hr => ?_⟩
  rw [← flatten_chunks hn]
  exact List.mem_flatten.2 ⟨slice, hslice, hr⟩

/-! ### How the key cell is read -/

theorem getElem?_idxOf (hkey : key ∈ feed.header) (row : CsvRow feed.header) :
    row.val[feed.header.idxOf key]? = some (feed.text key row) := by
  have hlt : feed.header.idxOf key < row.val.length := by
    rw [row.property]
    exact List.idxOf_lt_length_of_mem hkey
  rw [text, List.getElem?_eq_getElem hlt, Option.getD_some]

/-- The key cell of a row is read from its key text and the key column of its chunk. -/
theorem cell_readRow (hkey : key ∈ feed.header) (slice : List (List String))
    (row : CsvRow feed.header) :
    cell feed.header (readRow slice row.val) key =
      some (readCell slice (feed.header.idxOf key) (feed.text key row)) := by
  have hlength : (readRow slice row.val).length = feed.header.length := by
    rw [readRow, List.length_mapIdx, row.property]
  rw [cell_eq_getElem? hlength, readRow, List.getElem?_mapIdx, getElem?_idxOf hkey]
  rfl

theorem columnIsInteger_iff (hkey : key ∈ feed.header) (slice : List (CsvRow feed.header)) :
    columnIsInteger (slice.map Subtype.val) (feed.header.idxOf key) = true ↔
      ∀ row ∈ slice, ∃ m, integerLiteral? (feed.text key row) = some m := by
  simp only [columnIsInteger, List.all_map, List.all_eq_true, Function.comp_apply,
    getElem?_idxOf hkey, Option.bind_some, Option.isSome_iff_exists]

theorem readCell_of_none {slice : List (List String)} {j : ℕ} {text : String}
    (h : integerLiteral? text = none) : readCell slice j text = .str text := by
  simp [readCell, h]

theorem readCell_of_columnIsInteger {slice : List (List String)} {j : ℕ} {text : String} {m : ℤ}
    (h : integerLiteral? text = some m) (hcolumn : columnIsInteger slice j = true) :
    readCell slice j text = .int m := by
  simp [readCell, h, hcolumn]

theorem readCell_of_not_columnIsInteger {slice : List (List String)} {j : ℕ} {text : String}
    (hcolumn : columnIsInteger slice j = false) : readCell slice j text = .str text := by
  unfold readCell
  split <;> simp [hcolumn]

/-- A key cell is blank exactly when its text is. -/
theorem isBlank_readCell (slice : List (List String)) (j : ℕ) (text : String) :
    isBlank (readCell slice j text) = isBlank (.str text) := by
  cases h : integerLiteral? text with
  | none => rw [readCell_of_none h]
  | some m =>
    cases hcolumn : columnIsInteger slice j with
    | true => rw [readCell_of_columnIsInteger h hcolumn, isBlank_int, isBlank_of_integerLiteral? h]
    | false => rw [readCell_of_not_columnIsInteger hcolumn]

/-! ### Two chunk sizes -/

/-- The key column is read the same way under every chunk size, as `f` of the text, and `f` keeps
different key texts apart. -/
structure ReadsKeyAs (feed : CsvFeed) (key : String) (f : String → PyValue) : Prop where
  cell_eq : ∀ n, 0 < n → ∀ p ∈ feed.readPairs n,
    cell feed.header p.2 key = some (f (feed.text key p.1))
  injective : ∀ r ∈ feed.rows, ∀ s ∈ feed.rows,
    (f (feed.text key r)).hashKey = (f (feed.text key s)).hashKey →
      feed.text key r = feed.text key s

/-- Without integer literals, key cells keep their text. -/
theorem readsKeyAs_str (hkey : key ∈ feed.header)
    (h : ∀ row ∈ feed.rows, integerLiteral? (feed.text key row) = none) :
    feed.ReadsKeyAs key .str := by
  refine ⟨fun n hn p hp => ?_, fun r _ s _ heq => ?_⟩
  · obtain ⟨slice, -, hmem, hp2, hsub⟩ := exists_chunk_of_mem hn hp
    rw [hp2, cell_readRow hkey, readCell_of_none (h _ (hsub _ hmem))]
  · simpa using heq

/-- If all key texts are integer literals and different texts denote different integers, key cells
are those integers. -/
theorem readsKeyAs_int (hkey : key ∈ feed.header)
    (h : ∀ row ∈ feed.rows, ∃ m, integerLiteral? (feed.text key row) = some m)
    (hinj : ∀ r ∈ feed.rows, ∀ s ∈ feed.rows,
      integerLiteral? (feed.text key r) = integerLiteral? (feed.text key s) →
        feed.text key r = feed.text key s) :
    feed.ReadsKeyAs key fun text => .int ((integerLiteral? text).getD 0) := by
  refine ⟨fun n hn p hp => ?_, fun r hr s hs heq => ?_⟩
  · -- every slice of the column is all integers, so each cell is read as one
    obtain ⟨slice, -, hmem, hp2, hsub⟩ := exists_chunk_of_mem hn hp
    obtain ⟨m, hm⟩ := h _ (hsub _ hmem)
    have hcolumn := (columnIsInteger_iff hkey slice).2 fun row hrow => h row (hsub row hrow)
    rw [hp2, cell_readRow hkey, readCell_of_columnIsInteger hm hcolumn, hm, Option.getD_some]
  · obtain ⟨a, ha⟩ := h r hr
    obtain ⟨b, hb⟩ := h s hs
    have hab : a = b := by simpa [ha, hb] using heq
    exact hinj r hr s hs (by rw [ha, hb, hab])

/-! ### Loading the feed -/

variable (feed) in
/-- `read_record_chunks` with a chunk size that `pandas` accepts. -/
theorem read_eq_ok {chunksize : ℤ} (hchunksize : 1 ≤ chunksize) :
    (if chunksize < 1 then
        Except.error (PyException.mk .valueError "'chunksize' must be an integer >=1")
      else .ok ((feed.frames chunksize.toNat).map (Except.ok (ε := PyException)))) =
      .ok ((feed.frames chunksize.toNat).map .ok) :=
  if_neg (by omega)

section Load

variable {mixin : InventoryDomainMixin}

/-- Chunks are valid exactly when no row has a blank key. -/
theorem valid_frames_iff (hn : 0 < n)
    (hrequired : ∀ name ∈ mixin.dedupeKey :: mixin.requiredColumns, name ∈ feed.header) :
    (∀ df ∈ feed.frames n, mixin.Valid df) ↔
      ∀ row ∈ feed.rows, isBlank (.str (feed.text mixin.dedupeKey row)) = false := by
  have hkey := hrequired _ List.mem_cons_self
  constructor
  · intro hvalid row hrow
    -- each row stands in some slice, and reading it keeps a blank cell blank
    rw [← flatten_chunks hn] at hrow
    obtain ⟨slice, hslice, hrow⟩ := List.mem_flatten.1 hrow
    rw [← isBlank_readCell (slice.map Subtype.val) (feed.header.idxOf mixin.dedupeKey)]
    exact (hvalid (feed.frame slice) (List.mem_map_of_mem hslice)).not_blank _
      (List.mem_map_of_mem hrow) _ (cell_readRow hkey _ row)
  · intro hblank df hdf
    obtain ⟨slice, hslice, rfl⟩ := List.mem_map.1 hdf
    refine ⟨hrequired, fun cells hcells value hvalue => ?_⟩
    obtain ⟨row, hrow, rfl⟩ := List.mem_map.1 hcells
    have hcell := cell_readRow hkey (slice.map Subtype.val) row
    obtain rfl := Option.some.inj (hcell.symm.trans hvalue)
    rw [isBlank_readCell]
    exact hblank row (flatten_chunks hn ▸ List.mem_flatten.2 ⟨slice, hslice, hrow⟩)

variable [IdentifierTables]

theorem mem_feedRows {row : NamedTuple} (hrow : row ∈ feedRows (feed.frames n)) :
    row.fields = renameFields feed.header ∧ row.values.length = feed.header.length := by
  obtain ⟨df, hdf, hrow⟩ := List.mem_flatMap.1 hrow
  obtain ⟨slice, -, rfl⟩ := List.mem_map.1 hdf
  have hfields : row.fields = renameFields feed.header := (DataFrame.mem_itertuples.1 hrow).1
  exact ⟨hfields, by rw [row.length_values, hfields, length_renameFields]⟩

/-- A key label that can be a field name is read from its own column. -/
theorem cell_fields_eq (hname : isFieldName key = true) (hkey : key ∈ feed.header)
    {row : NamedTuple} (hrow : row ∈ feedRows (feed.frames n)) :
    cell row.fields row.values key = cell feed.header row.values key := by
  obtain ⟨hfields, hlength⟩ := mem_feedRows hrow
  rw [cell_eq_getElem? row.length_values, cell_eq_getElem? hlength, hfields,
    idxOf_renameFields hname hkey]

variable (feed n) in
theorem map_values_feedRows :
    (feedRows (feed.frames n)).map NamedTuple.values = feed.readRows n := by
  rw [feedRows, List.map_flatMap, readRows]
  simp only [DataFrame.map_values_itertuples]

theorem rows_ne_nil_of_mem (hn : 0 < n) {row : NamedTuple}
    (hrow : row ∈ feedRows (feed.frames n)) : feed.rows ≠ [] := by
  have hmem : row.values ∈ feed.readRows n :=
    map_values_feedRows feed n ▸ List.mem_map_of_mem hrow
  intro hnil
  have hlength := length_readRows feed hn
  rw [hnil, List.length_nil, List.length_eq_zero_iff] at hlength
  simp [hlength] at hmem

/-- A feed without blank keys loads: the latest row of each key, as it was read. -/
theorem exists_loadRecords {chunksize : ℤ} (hchunksize : 1 ≤ chunksize)
    (hname : feed.rows ≠ [] → isFieldName mixin.dedupeKey = true)
    (hrequired : ∀ name ∈ mixin.dedupeKey :: mixin.requiredColumns, name ∈ feed.header)
    (hblank : ∀ row ∈ feed.rows, isBlank (.str (feed.text mixin.dedupeKey row)) = false) :
    ∃ records,
      { mixin with source := feed.source, chunksize := chunksize }.loadRecords = .ok records ∧
      records.rows =
        (Recency.collect (fun p => DataFrame.rowKey mixin.dedupeKey feed.header p.2)
          (feed.readPairs chunksize.toNat)).map Prod.snd := by
  have hn : 0 < chunksize.toNat := by omega
  have hkey := hrequired _ List.mem_cons_self
  have hvalid := (valid_frames_iff hn hrequired).2 hblank
  have hcells : ∀ row ∈ feedRows (feed.frames chunksize.toNat),
      ∃ value, cell row.fields row.values mixin.dedupeKey = some value := by
    intro row hrow
    obtain ⟨value, -, hcell⟩ := exists_cell (mem_feedRows hrow).2 hkey
    have hfield := hname (rows_ne_nil_of_mem hn hrow)
    exact ⟨value, (cell_fields_eq hfield hkey hrow).trans hcell⟩
  -- the key that dedup reads is the cell in the key column
  have hrow : ∀ row ∈ feedRows (feed.frames chunksize.toNat), rowKey mixin.dedupeKey row =
      id (DataFrame.rowKey mixin.dedupeKey feed.header row.values) := by
    intro row hrow
    rw [rowKey, cell_fields_eq (hname (rows_ne_nil_of_mem hn hrow)) hkey hrow]
    rfl
  have hread := read_eq_ok feed hchunksize
  obtain ⟨records, hok, hrows, -⟩ :=
    exists_dedupeLastSeenChunks (fun row hrow => (mem_feedRows hrow).1) hcells
  refine ⟨records, ?_, ?_⟩
  · have hsource : ({ mixin with source := feed.source, chunksize := chunksize } :
        InventoryDomainMixin).source = feed.source := rfl
    exact (InventoryDomainMixin.loadRecords_eq_dedupeLastSeenChunks hsource hread fun df hdf =>
      ⟨(hvalid df hdf).1, (hvalid df hdf).2⟩).trans hok
  · rw [hrows, Recency.collect_congr (g := id) (fun _ _ _ _ h => h) hrow, ← Recency.collect_map,
      map_values_feedRows feed, ← map_snd_readPairs, Recency.collect_map]

end Load

/-! ### Feeds that the chunk size does not change -/

/-- Two reads hold the same feed rows, in the same order and under the same keys. -/
def SameRecords (feed : CsvFeed) (key : String) (n m : ℕ) (a b : DataFrame) : Prop :=
  ∃ kept : List (List PyValue × List PyValue),
    a.rows = kept.map Prod.fst ∧ b.rows = kept.map Prod.snd ∧
      ∀ p ∈ kept, p ∈ (feed.readRows n).zip (feed.readRows m) ∧
        cell feed.header p.1 key = cell feed.header p.2 key

/-- Dedup files two rows under one key exactly when their key cells have the same text. -/
def MergesByText (feed : CsvFeed) (key : String) (n : ℕ) : Prop :=
  ∀ p ∈ feed.rows.zip (feed.readRows n), ∀ q ∈ feed.rows.zip (feed.readRows n),
    DataFrame.rowKey key feed.header p.2 = DataFrame.rowKey key feed.header q.2 ↔
      feed.text key p.1 = feed.text key q.1

theorem ReadsKeyAs.rowKey_eq {f : String → PyValue} (h : feed.ReadsKeyAs key f) (hn : 0 < n)
    {p : CsvRow feed.header × List PyValue} (hp : p ∈ feed.readPairs n) :
    DataFrame.rowKey key feed.header p.2 = (f (feed.text key p.1)).hashKey := by
  rw [DataFrame.rowKey, h.cell_eq n hn p hp]
  rfl

theorem fst_mem_rows (hn : 0 < n) {p : CsvRow feed.header × List PyValue}
    (hp : p ∈ feed.readPairs n) : p.1 ∈ feed.rows := by
  rw [← map_fst_readPairs hn]
  exact List.mem_map_of_mem hp

theorem ReadsKeyAs.mergesByText {f : String → PyValue} (h : feed.ReadsKeyAs key f) (hn : 0 < n) :
    feed.MergesByText key n := by
  intro p hp q hq
  rw [zip_readRows hn] at hp hq
  rw [h.rowKey_eq hn hp, h.rowKey_eq hn hq]
  exact ⟨h.injective _ (fst_mem_rows hn hp) _ (fst_mem_rows hn hq), fun heq => by rw [heq]⟩

/-- The rows of the feed with the cells they are read as under two chunk sizes. -/
def readTriples (feed : CsvFeed) (n m : ℕ) :
    List (CsvRow feed.header × List PyValue × List PyValue) :=
  feed.rows.zip ((feed.readRows n).zip (feed.readRows m))

section Triples

variable {m : ℕ}

variable (feed) in
theorem map_fst_readTriples (hn : 0 < n) (hm : 0 < m) :
    (feed.readTriples n m).map (fun t => (t.1, t.2.1)) = feed.readPairs n := by
  have hfst : ((feed.readRows n).zip (feed.readRows m)).map Prod.fst = feed.readRows n :=
    List.map_fst_zip (by rw [length_readRows feed hn, length_readRows feed hm])
  rw [← zip_readRows hn, ← hfst, List.zip_map_right]
  rfl

variable (feed) in
theorem map_snd_readTriples (hn : 0 < n) (hm : 0 < m) :
    (feed.readTriples n m).map (fun t => (t.1, t.2.2)) = feed.readPairs m := by
  have hsnd : ((feed.readRows n).zip (feed.readRows m)).map Prod.snd = feed.readRows m :=
    List.map_snd_zip (by rw [length_readRows feed hn, length_readRows feed hm])
  rw [← zip_readRows hm, ← hsnd, List.zip_map_right]
  rfl

variable (feed) in
theorem map_cells_readTriples (hn : 0 < n) (hm : 0 < m) :
    (feed.readTriples n m).map Prod.snd = (feed.readRows n).zip (feed.readRows m) :=
  List.map_snd_zip (by simp [length_readRows feed hn, length_readRows feed hm])

theorem mem_readPairs_of_mem_readTriples (hn : 0 < n) (hm : 0 < m)
    {t : CsvRow feed.header × List PyValue × List PyValue} (ht : t ∈ feed.readTriples n m) :
    (t.1, t.2.1) ∈ feed.readPairs n ∧ (t.1, t.2.2) ∈ feed.readPairs m := by
  rw [← map_fst_readTriples feed hn hm, ← map_snd_readTriples feed hn hm]
  exact ⟨List.mem_map_of_mem ht, List.mem_map_of_mem ht⟩

/-- If key cells are read the same way under every chunk size, dedup keeps the rows it would keep
by text, under any two chunk sizes. -/
theorem ReadsKeyAs.sameRecords {f : String → PyValue} (h : feed.ReadsKeyAs key f) (hn : 0 < n)
    (hm : 0 < m) {a b : DataFrame}
    (ha : a.rows = (Recency.collect (fun p => DataFrame.rowKey key feed.header p.2)
      (feed.readPairs n)).map Prod.snd)
    (hb : b.rows = (Recency.collect (fun p => DataFrame.rowKey key feed.header p.2)
      (feed.readPairs m)).map Prod.snd) :
    feed.SameRecords key n m a b := by
  have hfst := map_fst_readTriples feed hn hm
  have hsnd := map_snd_readTriples feed hn hm
  have hpair : ∀ t ∈ feed.readTriples n m,
      (t.1, t.2.1) ∈ feed.readPairs n ∧ (t.1, t.2.2) ∈ feed.readPairs m := fun t ht =>
    mem_readPairs_of_mem_readTriples hn hm ht
  have hinj : ∀ x ∈ (feed.readTriples n m).map (fun t => feed.text key t.1),
      ∀ y ∈ (feed.readTriples n m).map (fun t => feed.text key t.1),
        (f x).hashKey = (f y).hashKey → x = y := by
    rintro x hx y hy heq
    obtain ⟨t, ht, rfl⟩ := List.mem_map.1 hx
    obtain ⟨u, hu, rfl⟩ := List.mem_map.1 hy
    exact h.injective _ (fst_mem_rows hn (hpair t ht).1) _ (fst_mem_rows hn (hpair u hu).1) heq
  -- the rows kept by text, of which each read keeps its own cells
  refine ⟨(Recency.collect (fun t => feed.text key t.1) (feed.readTriples n m)).map Prod.snd,
    ?_, ?_, fun p hp => ?_⟩
  · rw [ha, ← hfst, Recency.collect_map,
      Recency.collect_congr hinj fun t ht => h.rowKey_eq hn (hpair t ht).1, List.map_map,
      List.map_map]
    rfl
  · rw [hb, ← hsnd, Recency.collect_map,
      Recency.collect_congr hinj fun t ht => h.rowKey_eq hm (hpair t ht).2, List.map_map,
      List.map_map]
    rfl
  · obtain ⟨t, ht, rfl⟩ := List.mem_map.1 hp
    have hmem : t ∈ feed.readTriples n m := (Recency.mem_collect.1 ht).mem
    refine ⟨map_cells_readTriples feed hn hm ▸ List.mem_map_of_mem hmem, ?_⟩
    have hn' := h.cell_eq n hn _ (hpair t hmem).1
    have hm' := h.cell_eq m hm _ (hpair t hmem).2
    exact hn'.trans hm'.symm

end Triples

/-- Read as one chunk, a key column with a text that is no literal keeps all its texts. -/
theorem cell_of_one_chunk (hkey : key ∈ feed.header) {row : CsvRow feed.header}
    (hrow : row ∈ feed.rows) (hnone : integerLiteral? (feed.text key row) = none)
    {p : CsvRow feed.header × List PyValue} (hp : p ∈ feed.readPairs feed.rows.length) :
    cell feed.header p.2 key = some (.str (feed.text key p.1)) := by
  have hne : feed.rows ≠ [] := List.ne_nil_of_mem hrow
  have hchunks : feed.chunks feed.rows.length = [feed.rows] := by
    rw [chunks, List.isEmpty_eq_false_iff.2 hne]
    exact slices_length hne
  obtain ⟨slice, hslice, -, hp2, -⟩ :=
    exists_chunk_of_mem (List.length_pos_of_ne_nil hne) hp
  obtain rfl : slice = feed.rows := by simpa [hchunks] using hslice
  -- the text that is no literal is in the one chunk, and so decides the type of the column
  have hcolumn : columnIsInteger (feed.rows.map Subtype.val) (feed.header.idxOf key) = false := by
    rw [Bool.eq_false_iff, Ne, columnIsInteger_iff hkey]
    intro hall
    obtain ⟨m, hm⟩ := hall row hrow
    cases hnone.symm.trans hm
  rw [hp2, cell_readRow hkey, readCell_of_not_columnIsInteger hcolumn]

/-- Read one row at a time, a key that is an integer literal becomes an integer. -/
theorem cell_of_one_row (hkey : key ∈ feed.header) {p : CsvRow feed.header × List PyValue}
    (hp : p ∈ feed.readPairs 1) {m : ℤ} (hm : integerLiteral? (feed.text key p.1) = some m) :
    cell feed.header p.2 key = some (.int m) := by
  obtain ⟨slice, hslice, hmem, hp2, hsub⟩ := exists_chunk_of_mem Nat.one_pos hp
  have hne : feed.rows ≠ [] := List.ne_nil_of_mem (hsub _ hmem)
  have hsingle : ∃ row, slice = [row] := by
    rw [chunks, List.isEmpty_eq_false_iff.2 hne, if_neg Bool.false_ne_true, slices_one] at hslice
    obtain ⟨row, -, rfl⟩ := List.mem_map.1 hslice
    exact ⟨row, rfl⟩
  obtain ⟨row, rfl⟩ := hsingle
  obtain hrow := List.mem_singleton.1 hmem
  -- the chunk holds nothing but the literal
  have hcolumn := (columnIsInteger_iff hkey [row]).2 fun r hr =>
    ⟨m, by rw [List.mem_singleton.1 hr, ← hrow, hm]⟩
  rw [hp2, cell_readRow hkey, readCell_of_columnIsInteger hm hcolumn]

theorem exists_error_of_ne_ok {x : Except PyException DataFrame} (h : ∀ a, x ≠ .ok a) :
    ∃ e, x = .error e := by
  cases x with
  | error e => exact ⟨e, rfl⟩
  | ok a => exact absurd rfl (h a)

section Iff

variable {mixin : InventoryDomainMixin} [IdentifierTables]

/-- A feed with a blank key does not load. -/
theorem loadRecords_ne_ok_of_blank {chunksize : ℤ} (hchunksize : 1 ≤ chunksize)
    (hrequired : ∀ name ∈ mixin.dedupeKey :: mixin.requiredColumns, name ∈ feed.header)
    (hblank : ∃ row ∈ feed.rows, isBlank (.str (feed.text mixin.dedupeKey row)) = true)
    (records : DataFrame) :
    { mixin with source := feed.source, chunksize := chunksize }.loadRecords ≠ .ok records := by
  intro h
  obtain ⟨frames, hdelivers, hvalid⟩ := InventoryDomainMixin.exists_delivers_of_loadRecords h
  have hread : Except.ok (frames.map Except.ok) =
      Except.ok (ε := PyException) ((feed.frames chunksize.toNat).map .ok) :=
    hdelivers.symm.trans (read_eq_ok feed hchunksize)
  obtain rfl : frames = feed.frames chunksize.toNat :=
    List.map_injective_iff.2 (fun a b hab => Except.ok.inj hab) (Except.ok.inj hread)
  -- a feed that was loaded has valid chunks only, and so no blank key
  have hall := (valid_frames_iff (by omega) hrequired).1 fun df hdf =>
    ⟨(hvalid df hdf).1, (hvalid df hdf).2⟩
  obtain ⟨row, hrow, hblank⟩ := hblank
  rw [hall row hrow] at hblank
  cases hblank

/-- A feed with rows does not load if its key label can be no field name. -/
theorem loadRecords_ne_ok_of_unreadable {chunksize : ℤ} (hchunksize : 1 ≤ chunksize)
    (hrows : feed.rows ≠ []) (hname : isFieldName mixin.dedupeKey = false)
    (hhead : mixin.dedupeKey.toList.head? ≠ some '_') (records : DataFrame) :
    { mixin with source := feed.source, chunksize := chunksize }.loadRecords ≠ .ok records := by
  intro h
  have hn : 0 < chunksize.toNat := by omega
  have hread := InventoryDomainMixin.getattr_of_loadRecords rfl (read_eq_ok feed hchunksize) h
  have hne : feedRows (feed.frames chunksize.toNat) ≠ [] := by
    rw [Ne, ← List.length_eq_zero_iff, ← List.length_map (f := NamedTuple.values),
      map_values_feedRows feed, length_readRows feed hn, List.length_eq_zero_iff]
    exact hrows
  obtain ⟨row, hrow⟩ := List.exists_mem_of_ne_nil _ hne
  obtain ⟨value, hvalue⟩ := hread row hrow
  -- the column was renamed, and no attribute of the tuple type has its name
  obtain ⟨e, he⟩ := NamedTuple.getattr_eq_error
    ((mem_feedRows hrow).1 ▸ not_mem_renameFields hname hhead)
    (not_mem_tupleAttributes hname hhead)
  cases hvalue.symm.trans he

/-- The chunk size only cuts the read: any two chunk sizes load the same rows under the same keys,
filed by their key texts, or neither loads. -/
def LoadsAlike (mixin : InventoryDomainMixin) (feed : CsvFeed) : Prop :=
  ∀ c₁ c₂ : ℤ, 1 ≤ c₁ → 1 ≤ c₂ →
    (∃ a b, { mixin with source := feed.source, chunksize := c₁ }.loadRecords = .ok a ∧
      { mixin with source := feed.source, chunksize := c₂ }.loadRecords = .ok b ∧
      feed.SameRecords mixin.dedupeKey c₁.toNat c₂.toNat a b ∧
      feed.MergesByText mixin.dedupeKey c₁.toNat ∧ feed.MergesByText mixin.dedupeKey c₂.toNat) ∨
    ∃ e e', { mixin with source := feed.source, chunksize := c₁ }.loadRecords = .error e ∧
      { mixin with source := feed.source, chunksize := c₂ }.loadRecords = .error e'

theorem loadsAlike_of_ne_ok
    (h : ∀ c : ℤ, 1 ≤ c → ∀ a,
      { mixin with source := feed.source, chunksize := c }.loadRecords ≠ .ok a) :
    feed.LoadsAlike mixin := by
  intro c₁ c₂ h₁ h₂
  obtain ⟨e, he⟩ := exists_error_of_ne_ok (h c₁ h₁)
  obtain ⟨e', he'⟩ := exists_error_of_ne_ok (h c₂ h₂)
  exact .inr ⟨e, e', he, he'⟩

theorem loadsAlike_of_readsKeyAs {f : String → PyValue} (h : feed.ReadsKeyAs mixin.dedupeKey f)
    (hname : feed.rows ≠ [] → isFieldName mixin.dedupeKey = true)
    (hrequired : ∀ name ∈ mixin.dedupeKey :: mixin.requiredColumns, name ∈ feed.header)
    (hblank : ∀ row ∈ feed.rows, isBlank (.str (feed.text mixin.dedupeKey row)) = false) :
    feed.LoadsAlike mixin := by
  intro c₁ c₂ h₁ h₂
  have hn₁ : 0 < c₁.toNat := by omega
  have hn₂ : 0 < c₂.toNat := by omega
  obtain ⟨a, ha, harows⟩ := exists_loadRecords h₁ hname hrequired hblank
  obtain ⟨b, hb, hbrows⟩ := exists_loadRecords h₂ hname hrequired hblank
  exact .inl ⟨a, b, ha, hb, h.sameRecords hn₁ hn₂ harows hbrows, h.mergesByText hn₁,
    h.mergesByText hn₂⟩

/-- A feed whose key texts are partly integer literals does not load alike. -/
theorem not_loadsAlike_of_mixed
    (hname : isFieldName mixin.dedupeKey = true)
    (hrequired : ∀ name ∈ mixin.dedupeKey :: mixin.requiredColumns, name ∈ feed.header)
    (hblank : ∀ row ∈ feed.rows, isBlank (.str (feed.text mixin.dedupeKey row)) = false)
    {r s : CsvRow feed.header} (hr : r ∈ feed.rows) (hs : s ∈ feed.rows) {m : ℤ}
    (hliteral : integerLiteral? (feed.text mixin.dedupeKey r) = some m)
    (hnone : integerLiteral? (feed.text mixin.dedupeKey s) = none) : ¬feed.LoadsAlike mixin := by
  intro halike
  have hkey := hrequired _ List.mem_cons_self
  have hlength : 0 < feed.rows.length := List.length_pos_of_mem hr
  have hchunk : (1 : ℤ) ≤ feed.rows.length := by omega
  obtain ⟨a, ha, harows⟩ := exists_loadRecords hchunk (fun _ => hname) hrequired hblank
  rw [Int.toNat_natCast] at harows
  rcases halike feed.rows.length 1 hchunk le_rfl with ⟨a', b, ha', -, hsame, -, -⟩ | ⟨e, _, he, -⟩
  · obtain rfl : a = a' := Except.ok.inj (ha.symm.trans ha')
    obtain ⟨kept, hkept, -, hcells⟩ := hsame
    rw [Int.toNat_natCast, Int.toNat_one] at hcells
    -- the latest row with the text of `r`, as it was read in one chunk
    have hrpair : ∃ p ∈ feed.readPairs feed.rows.length, p.1 = r := by
      rw [← List.mem_map, map_fst_readPairs hlength]
      exact hr
    obtain ⟨p, hp, hpr⟩ := hrpair
    obtain ⟨q, hq, hqkey⟩ := Recency.exists_isLatest
      (List.mem_map_of_mem (f := fun p => DataFrame.rowKey mixin.dedupeKey feed.header p.2) hp)
    have hqmem := hq.mem
    have htext : feed.text mixin.dedupeKey q.1 = feed.text mixin.dedupeKey r := by
      rw [DataFrame.rowKey, DataFrame.rowKey, cell_of_one_chunk hkey hs hnone hp,
        cell_of_one_chunk hkey hs hnone hqmem, hpr] at hqkey
      simpa using hqkey
    have hqrow : q.2 ∈ kept.map Prod.fst := by
      rw [← hkept, harows]
      exact List.mem_map_of_mem (Recency.mem_collect.2 hq)
    obtain ⟨k, hk, hkq⟩ := List.mem_map.1 hqrow
    obtain ⟨hzip, hcell⟩ := hcells k hk
    rw [← map_cells_readTriples feed hlength Nat.one_pos] at hzip
    obtain ⟨t, ht, rfl⟩ := List.mem_map.1 hzip
    obtain ⟨hpair, hpair'⟩ := mem_readPairs_of_mem_readTriples hlength Nat.one_pos ht
    -- the same row keeps its text in one chunk and becomes an integer on its own
    have hstr := cell_of_one_chunk hkey hs hnone hpair
    have hstr' := cell_of_one_chunk hkey hs hnone hqmem
    have htext' : feed.text mixin.dedupeKey t.1 = feed.text mixin.dedupeKey r := by
      rw [← htext]
      simpa [hkq, hstr'] using hstr.symm
    have hint := cell_of_one_row hkey hpair' (htext' ▸ hliteral)
    rw [hstr, hint] at hcell
    cases hcell
  · cases ha.symm.trans he

/-- A feed with two key texts for one integer does not load alike. -/
theorem not_loadsAlike_of_not_injective
    (hrequired : ∀ name ∈ mixin.dedupeKey :: mixin.requiredColumns, name ∈ feed.header)
    (hname : isFieldName mixin.dedupeKey = true)
    (hblank : ∀ row ∈ feed.rows, isBlank (.str (feed.text mixin.dedupeKey row)) = false)
    {r s : CsvRow feed.header} (hr : r ∈ feed.rows) (hs : s ∈ feed.rows)
    (hall : ∀ row ∈ feed.rows, ∃ m, integerLiteral? (feed.text mixin.dedupeKey row) = some m)
    (heq : integerLiteral? (feed.text mixin.dedupeKey r) =
      integerLiteral? (feed.text mixin.dedupeKey s))
    (hne : feed.text mixin.dedupeKey r ≠ feed.text mixin.dedupeKey s) :
    ¬feed.LoadsAlike mixin := by
  intro halike
  have hkey := hrequired _ List.mem_cons_self
  obtain ⟨a, ha, -⟩ := exists_loadRecords (le_refl (1 : ℤ)) (fun _ => hname)
    hrequired hblank
  rcases halike 1 1 le_rfl le_rfl with ⟨_, _, -, -, -, hmerge, -⟩ | ⟨e, _, he, -⟩
  · rw [Int.toNat_one, MergesByText, zip_readRows Nat.one_pos] at hmerge
    have hpair : ∀ row ∈ feed.rows, ∃ p ∈ feed.readPairs 1, p.1 = row := by
      intro row hrow
      rw [← List.mem_map, map_fst_readPairs Nat.one_pos]
      exact hrow
    obtain ⟨p, hp, rfl⟩ := hpair r hr
    obtain ⟨q, hq, rfl⟩ := hpair s hs
    obtain ⟨m, hm⟩ := hall p.1 hr
    -- read one row at a time, both become the integer `m` and are filed under one key
    refine hne ((hmerge p hp q hq).1 ?_)
    rw [DataFrame.rowKey, DataFrame.rowKey, cell_of_one_row hkey hp hm,
      cell_of_one_row hkey hq (heq ▸ hm)]
  · cases ha.symm.trans he

/-- A CSV feed with the required columns loads alike under all chunk sizes exactly when no key text
is an integer literal, or all are and different texts denote different integers, or the feed does
not load at all: it has a blank key, or its key label can be no field name. -/
theorem loadsAlike_iff
    (hrequired : ∀ name ∈ mixin.dedupeKey :: mixin.requiredColumns, name ∈ feed.header)
    (hhead : mixin.dedupeKey.toList.head? ≠ some '_') :
    feed.LoadsAlike mixin ↔
      (∀ row ∈ feed.rows, integerLiteral? (feed.text mixin.dedupeKey row) = none) ∨
      ((∀ row ∈ feed.rows, ∃ m, integerLiteral? (feed.text mixin.dedupeKey row) = some m) ∧
        ∀ r ∈ feed.rows, ∀ s ∈ feed.rows,
          integerLiteral? (feed.text mixin.dedupeKey r) =
              integerLiteral? (feed.text mixin.dedupeKey s) →
            feed.text mixin.dedupeKey r = feed.text mixin.dedupeKey s) ∨
      (∃ row ∈ feed.rows, isBlank (.str (feed.text mixin.dedupeKey row)) = true) ∨
      isFieldName mixin.dedupeKey = false := by
  have hkey := hrequired _ List.mem_cons_self
  by_cases hblank : ∃ row ∈ feed.rows, isBlank (.str (feed.text mixin.dedupeKey row)) = true
  · exact iff_of_true
      (loadsAlike_of_ne_ok fun c hc => loadRecords_ne_ok_of_blank hc hrequired hblank)
      (.inr (.inr (.inl hblank)))
  have hnotblank : ∀ row ∈ feed.rows, isBlank (.str (feed.text mixin.dedupeKey row)) = false := by
    simpa using hblank
  by_cases hname : isFieldName mixin.dedupeKey = false
  · -- a feed without rows has no row whose attribute could be missing
    refine iff_of_true ?_ (.inr (.inr (.inr hname)))
    by_cases hrows : feed.rows = []
    · exact loadsAlike_of_readsKeyAs (readsKeyAs_str hkey (by simp [hrows])) (absurd hrows)
        hrequired hnotblank
    · exact loadsAlike_of_ne_ok fun c hc => loadRecords_ne_ok_of_unreadable hc hrows hname hhead
  rw [Bool.not_eq_false] at hname
  -- from here on the feed loads under every chunk size
  constructor
  · intro halike
    by_contra hnot
    simp only [not_or] at hnot
    obtain ⟨hliteral, hinj, -, -⟩ := hnot
    obtain ⟨r, hr, hrlit⟩ :
        ∃ r ∈ feed.rows, integerLiteral? (feed.text mixin.dedupeKey r) ≠ none := by
      simpa using hliteral
    obtain ⟨m, hm⟩ := Option.ne_none_iff_exists'.1 hrlit
    by_cases hall : ∀ row ∈ feed.rows, ∃ m, integerLiteral? (feed.text mixin.dedupeKey row) = some m
    · refine hinj ⟨hall, fun p hp q hq heq => ?_⟩
      by_contra hne
      exact not_loadsAlike_of_not_injective hrequired hname hnotblank hp hq hall heq hne halike
    · obtain ⟨s, hs, hsnone⟩ : ∃ s ∈ feed.rows,
          integerLiteral? (feed.text mixin.dedupeKey s) = none := by
        simpa [← Option.eq_none_iff_forall_ne_some] using hall
      exact not_loadsAlike_of_mixed hname hrequired hnotblank hr hs hm hsnone halike
  · rintro (hnone | ⟨hall, hinj⟩ | hb | hb)
    · exact loadsAlike_of_readsKeyAs (readsKeyAs_str hkey hnone) (fun _ => hname) hrequired
        hnotblank
    · exact loadsAlike_of_readsKeyAs (readsKeyAs_int hkey hall hinj) (fun _ => hname) hrequired
        hnotblank
    · exact absurd hb hblank
    · simp [hname] at hb

end Iff

/-! ### A feed that the chunk size changes -/

/-- Three rows of a feed with the shipped header, one key of which is no integer literal. -/
def mixedKeys : CsvFeed where
  header := ["sku_id", "item_name", "unit_price"]
  nodup_header := by decide
  rows := [⟨["1", "bolt", "10"], rfl⟩, ⟨["A", "nut", "20"], rfl⟩, ⟨["1", "bolt", "30"], rfl⟩]

theorem loadsAlike_iff_mixedKeys :
    @LoadsAlike asciiTables { source := mixedKeys.source } mixedKeys ↔
      (∀ row ∈ mixedKeys.rows, integerLiteral? (mixedKeys.text "sku_id" row) = none) ∨
      ((∀ row ∈ mixedKeys.rows, ∃ m, integerLiteral? (mixedKeys.text "sku_id" row) = some m) ∧
        ∀ r ∈ mixedKeys.rows, ∀ s ∈ mixedKeys.rows,
          integerLiteral? (mixedKeys.text "sku_id" r) =
              integerLiteral? (mixedKeys.text "sku_id" s) →
            mixedKeys.text "sku_id" r = mixedKeys.text "sku_id" s) ∨
      (∃ row ∈ mixedKeys.rows, isBlank (.str (mixedKeys.text "sku_id" row)) = true) ∨
      @isFieldName asciiTables "sku_id" = false :=
  @loadsAlike_iff mixedKeys { source := mixedKeys.source } asciiTables (by decide) (by decide)

/-- In chunks of three rows the last row supersedes the first. In chunks of two it is read with an
integer key and does not. -/
theorem loadRecords_mixedKeys_differ :
    (@InventoryDomainMixin.loadRecords { source := mixedKeys.source, chunksize := 3 }
        asciiTables).map DataFrame.rows =
      .ok [[.str "1", .str "bolt", .int 30], [.str "A", .str "nut", .int 20]] ∧
    (@InventoryDomainMixin.loadRecords { source := mixedKeys.source, chunksize := 2 }
        asciiTables).map DataFrame.rows =
      .ok [[.str "1", .str "bolt", .int 10], [.str "A", .str "nut", .int 20],
        [.int 1, .str "bolt", .int 30]] :=
  ⟨rfl, rfl⟩

end CsvFeed

end Ingest
