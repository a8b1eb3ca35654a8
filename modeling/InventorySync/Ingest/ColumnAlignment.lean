import InventorySync.Ingest.LoadRecords

/-!
# Chunks that list their columns in different orders

A chunk passes validation whatever the order of its columns, and the key of a row is read by name.
But the rows kept by `dedupe_last_seen_chunks` are laid side by side by position, under the labels
of the first of them.

* `cell_eq_iff`: when a row laid under other labels still has its own cells;
* `loadRecords_byName_iff`: the records have the cells of the rows they stand for exactly when every
  row kept agrees, position by position, with the labels of the first.
-/

open Python Pandas

namespace Ingest

/-- The cells of a row, by name. -/
def byName (row : NamedTuple) : String → Option PyValue := cell row.fields row.values

/-- Every chunk has the same plain columns, in any order. -/
structure SameNames [IdentifierTables] (frames : List DataFrame) : Prop where
  plain : ∀ df ∈ frames, PlainColumns df.columns
  mem_iff : ∀ df ∈ frames, ∀ df' ∈ frames, ∀ name, name ∈ df.columns ↔ name ∈ df'.columns

/-- `pd.concat(frames)` for frames with the same column names: the labels of the first frame, and
every cell under its own name. -/
def concatByName (frames : List DataFrame) : DataFrame where
  columns := feedColumns frames
  rows := frames.flatMap fun df => df.rows.map fun row =>
    (feedColumns frames).map fun name => (cell df.columns row name).getD .nan
  rectangular := by
    intro row hrow
    obtain ⟨df, -, hrow⟩ := List.mem_flatMap.1 hrow
    obtain ⟨_, -, rfl⟩ := List.mem_map.1 hrow
    exact List.length_map _

/-! ### Rows under other labels -/

section Labels

variable {columns header : List String} {row : List PyValue}

/-- There is no cell under a name that is no label. -/
theorem cell_eq_none {name : String} (hlength : row.length = columns.length)
    (hname : name ∉ columns) : cell columns row name = none := by
  rw [cell_eq_getElem? hlength, List.getElem?_eq_none_iff, hlength, List.idxOf_eq_length hname]

/-- The row that has the value of `f` under every label. -/
theorem cell_map (f : String → PyValue) (name : String) :
    cell header (header.map f) name = if name ∈ header then some (f name) else none := by
  -- a name that is a label reads the value made for it
  by_cases hname : name ∈ header
  · have hlt : header.idxOf name < header.length := List.idxOf_lt_length_of_mem hname
    rw [cell_eq_getElem? (List.length_map f), List.getElem?_map, List.getElem?_eq_getElem hlt,
      List.getElem_idxOf, if_pos hname]
    rfl
  · rw [cell_eq_none (List.length_map f) hname, if_neg hname]

/-- A row laid under other labels has its own cells exactly when, at every position, it holds the
cell that belongs to the label there. -/
theorem cell_eq_iff (hlength : row.length = columns.length) (hnodup : header.Nodup)
    (hheader : header.length = columns.length) (hmem : ∀ name, name ∈ header ↔ name ∈ columns) :
    cell header row = cell columns row ↔
      ∀ (i : ℕ) name, header[i]? = some name → row[i]? = cell columns row name := by
  have hlen : row.length = header.length := hlength.trans hheader.symm
  constructor
  · intro heq i name hi
    obtain ⟨hlt, hget⟩ := List.getElem?_eq_some_iff.1 hi
    rw [← heq, cell_eq_getElem? hlen, ← hget, hnodup.idxOf_getElem]
  · intro h
    ext1 name
    by_cases hname : name ∈ header
    · have hlt : header.idxOf name < header.length := List.idxOf_lt_length_of_mem hname
      rw [cell_eq_getElem? hlen]
      exact h _ name (List.getElem?_eq_some_iff.2 ⟨hlt, List.getElem_idxOf hlt⟩)
    · -- neither list of labels has the name
      rw [cell_eq_none hlen hname, cell_eq_none hlength ((hmem name).not.1 hname)]

end Labels

/-! ### The rows of a feed by name -/

section Feed

variable [IdentifierTables] {frames : List DataFrame} {key : String}

theorem SameNames.fields_of_mem (h : SameNames frames) {row : NamedTuple}
    (hrow : row ∈ feedRows frames) :
    ∃ df ∈ frames, row ∈ df.itertuples ∧ row.fields = df.columns := by
  obtain ⟨df, hdf, hrow⟩ := List.mem_flatMap.1 hrow
  exact ⟨df, hdf, hrow, Ingest.fields_of_mem (h.plain df hdf) hrow⟩

/-- All rows of the feed have the same field names. -/
theorem SameNames.mem_fields_iff (h : SameNames frames) {row row' : NamedTuple}
    (hrow : row ∈ feedRows frames) (hrow' : row' ∈ feedRows frames) (name : String) :
    name ∈ row.fields ↔ name ∈ row'.fields := by
  obtain ⟨df, hdf, -, hfields⟩ := h.fields_of_mem hrow
  obtain ⟨df', hdf', -, hfields'⟩ := h.fields_of_mem hrow'
  rw [hfields, hfields']
  exact h.mem_iff df hdf df' hdf' name

theorem SameNames.nodup_fields (h : SameNames frames) {row : NamedTuple}
    (hrow : row ∈ feedRows frames) : row.fields.Nodup := by
  obtain ⟨df, hdf, -, hfields⟩ := h.fields_of_mem hrow
  exact hfields ▸ (h.plain df hdf).nodup

/-- All rows of the feed are equally wide. -/
theorem SameNames.length_fields_eq (h : SameNames frames) {row row' : NamedTuple}
    (hrow : row ∈ feedRows frames) (hrow' : row' ∈ feedRows frames) :
    row.fields.length = row'.fields.length := by
  -- the same names, each once, so one list is a permutation of the other
  have hperm : row.fields.Perm row'.fields :=
    (List.perm_ext_iff_of_nodup (h.nodup_fields hrow) (h.nodup_fields hrow')).2
      (h.mem_fields_iff hrow hrow')
  exact hperm.length_eq

/-- The names of a row are those of the concatenation. -/
theorem SameNames.mem_feedColumns_iff (h : SameNames frames) {row : NamedTuple}
    (hrow : row ∈ feedRows frames) (name : String) :
    name ∈ feedColumns frames ↔ name ∈ row.fields := by
  obtain ⟨df, hdf, -, hfields⟩ := h.fields_of_mem hrow
  cases frames with
  | nil => cases hdf
  | cons first frames =>
    rw [hfields]
    exact h.mem_iff first List.mem_cons_self df hdf name

/-- The rows of the feed are as wide as its labels. -/
theorem SameNames.length_fields (h : SameNames frames) {row : NamedTuple}
    (hrow : row ∈ feedRows frames) : row.fields.length = (feedColumns frames).length := by
  have hnodup : (feedColumns frames).Nodup := by
    cases frames with
    | nil => exact List.nodup_nil
    | cons df frames => exact (h.plain df List.mem_cons_self).nodup
  have hperm : row.fields.Perm (feedColumns frames) :=
    (List.perm_ext_iff_of_nodup (h.nodup_fields hrow) hnodup).2 fun name =>
      (h.mem_feedColumns_iff hrow name).symm
  exact hperm.length_eq

/-- The row of the concatenation that stands for a row of the feed. -/
def realign (header : List String) (row : NamedTuple) : List PyValue :=
  header.map fun name => (byName row name).getD .nan

theorem rows_concatByName (h : SameNames frames) :
    (concatByName frames).rows = (feedRows frames).map (realign (feedColumns frames)) := by
  have hframe : ∀ df ∈ frames, df.itertuples.map (realign (feedColumns frames)) =
      df.rows.map fun row => (feedColumns frames).map fun name =>
        (cell df.columns row name).getD .nan := by
    intro df hdf
    rw [← DataFrame.map_values_itertuples, List.map_map]
    apply List.map_congr_left
    intro row hrow
    rw [realign, Function.comp, byName, fields_of_mem (h.plain df hdf) hrow]
  rw [feedRows, List.map_flatMap]
  exact (List.flatMap_congr hframe).symm

/-- In the concatenation a row has its own cells. -/
theorem cell_realign (h : SameNames frames) {row : NamedTuple} (hrow : row ∈ feedRows frames) :
    cell (feedColumns frames) (realign (feedColumns frames) row) = byName row := by
  ext1 name
  rw [realign, cell_map]
  by_cases hname : name ∈ row.fields
  · -- every name of the row is a label, so no cell is filled with `nan`
    obtain ⟨value, -, hcell⟩ := exists_cell row.length_values hname
    rw [if_pos ((h.mem_feedColumns_iff hrow name).2 hname), byName, hcell]
    rfl
  · rw [if_neg ((h.mem_feedColumns_iff hrow name).not.2 hname), byName,
      cell_eq_none row.length_values hname]

/-- Deduplicating the concatenation keeps the latest rows of the feed. -/
theorem dedupeLastSeen_concatByName (h : SameNames frames) (hkey : key ∈ feedColumns frames) :
    ∃ whole, dedupeLastSeen (concatByName frames) key = .ok whole ∧
      whole.rows.map (cell whole.columns) =
        (Recency.keepLast (rowKey key) (feedRows frames)).map byName := by
  have hmem : (concatByName frames).columns.contains key = true := by
    simpa [concatByName] using hkey
  rw [dedupeLastSeen, DataFrame.dropDuplicatesLast, if_pos hmem]
  refine ⟨_, rfl, ?_⟩
  change (Recency.keepLast (DataFrame.rowKey key (feedColumns frames))
    (concatByName frames).rows).map (cell (feedColumns frames)) = _
  rw [rows_concatByName h, Recency.keepLast_map, List.map_map]
  -- the key of an aligned row is that of the row it stands for
  have hcongr : Recency.keepLast (fun row => DataFrame.rowKey key (feedColumns frames)
      (realign (feedColumns frames) row)) (feedRows frames) =
      Recency.keepLast (rowKey key) (feedRows frames) := by
    apply Recency.keepLast_congr
    intro row hrow
    rw [DataFrame.rowKey, cell_realign h hrow]
    rfl
  rw [hcongr]
  apply List.map_congr_left
  intro row hrow
  exact cell_realign h (Recency.mem_keepLast.1 hrow).mem

end Feed

/-! ### When the records have their own cells -/

/-- The records are the latest rows of the feed with their cells under their own names, as they are
in the deduplicated concatenation of its chunks. -/
def KeepsNames [IdentifierTables] (mixin : InventoryDomainMixin) (frames : List DataFrame) : Prop :=
  ∃ records, mixin.loadRecords = .ok records ∧
    records.rows.map (cell records.columns) =
      (Recency.collect (rowKey mixin.dedupeKey) (feedRows frames)).map byName ∧
    (frames ≠ [] → ∃ whole,
      dedupeLastSeen (concatByName frames) mixin.dedupeKey = .ok whole ∧
        (records.rows.map (cell records.columns)).Perm (whole.rows.map (cell whole.columns)))

/-- Every latest row holds, at each position, the cell that belongs to the label which the header
has there: the fields of the latest row with the key of the feed's first row. -/
def Aligned [IdentifierTables] (key : String) (frames : List DataFrame) : Prop :=
  ∀ first ∈ (feedRows frames).head?, ∀ header,
    Recency.IsLatest (rowKey key) (feedRows frames) header → rowKey key header = rowKey key first →
    ∀ row, Recency.IsLatest (rowKey key) (feedRows frames) row →
      ∀ (i : ℕ) name, header.fields[i]? = some name → row.values[i]? = byName row name

section Align

variable [IdentifierTables] {frames : List DataFrame} {mixin : InventoryDomainMixin} {key : String}

/-- The labels of the records: the fields of the first row kept, if any. -/
def keptColumns (key : String) (frames : List DataFrame) : List String :=
  ((Recency.collect (rowKey key) (feedRows frames)).head?.map NamedTuple.fields).getD
    (feedColumns frames)

/-- The rows kept, laid under the fields of the first, have their own cells exactly when the feed is
aligned. -/
theorem aligned_iff (h : SameNames frames) :
    Aligned key frames ↔ ∀ row ∈ Recency.collect (rowKey key) (feedRows frames),
      cell (keptColumns key frames) row.values = byName row := by
  unfold keptColumns
  cases hfeed : feedRows frames with
  | nil =>
    -- no row, so nothing to lay anywhere
    constructor
    · intro _ row hrow
      cases hrow
    · intro _ first hfirst
      rw [hfeed] at hfirst
      cases hfirst
  | cons row rows =>
    -- the first row kept is the latest with the key of the feed's first row
    obtain ⟨header, rest, hsplit, hlatest, hkey⟩ :=
      Recency.exists_collect_cons (rowKey key) row rows
    have hheader : header ∈ feedRows frames := hfeed ▸ hlatest.mem
    have hcell : ∀ r ∈ header :: rest, (cell header.fields r.values = byName r ↔
        ∀ (i : ℕ) name, header.fields[i]? = some name → r.values[i]? = byName r name) := by
      intro r hr
      have hmem : r ∈ feedRows frames := hfeed ▸ (Recency.mem_collect.1 (hsplit ▸ hr)).mem
      exact cell_eq_iff r.length_values (h.nodup_fields hheader) (h.length_fields_eq hheader hmem)
        (h.mem_fields_iff hheader hmem)
    rw [hsplit]
    unfold Aligned
    rw [hfeed]
    constructor
    · intro haligned r hr
      have hr' := Recency.mem_collect.1 (hsplit ▸ hr)
      exact (hcell r hr).2 (haligned row rfl header hlatest hkey r hr')
    · rintro hall first ⟨⟩ header' hheader' hkey' r hr
      -- the header is the first row collected
      obtain rfl : header' = header := hheader'.unique hlatest (hkey'.trans hkey.symm)
      have hmem : r ∈ header' :: rest := hsplit ▸ Recency.mem_collect.2 hr
      exact (hcell r hmem).1 (hall r hmem)

theorem SameNames.exists_cell (hnames : SameNames frames)
    (hvalid : ∀ df ∈ frames, mixin.Valid df) :
    ∀ row ∈ feedRows frames,
      ∃ value, cell row.fields row.values mixin.dedupeKey = some value := by
  intro row hrow
  obtain ⟨df, hdf, hrow⟩ := List.mem_flatMap.1 hrow
  exact exists_cell_of_mem ((hvalid df hdf).readable (hnames.plain df hdf)) hrow

/-- The labels of the records are plain, and the same as those of every chunk. -/
theorem SameNames.plain_keptColumns (hnames : SameNames frames) :
    PlainColumns (keptColumns key frames) ∧
      ∀ name, name ∈ keptColumns key frames ↔ name ∈ feedColumns frames := by
  unfold keptColumns
  cases hsplit : Recency.collect (rowKey key) (feedRows frames) with
  | nil =>
    refine ⟨?_, fun name => Iff.rfl⟩
    cases frames with
    | nil => exact ⟨fun name hname => absurd hname List.not_mem_nil, List.nodup_nil⟩
    | cons df frames => exact hnames.plain df List.mem_cons_self
  -- the labels are those of some chunk
  | cons first rest =>
    have hfirst : first ∈ feedRows frames :=
      (Recency.mem_collect.1 (hsplit ▸ List.mem_cons_self)).mem
    obtain ⟨df, hdf, -, hfields⟩ := hnames.fields_of_mem hfirst
    refine ⟨?_, fun name => (hnames.mem_feedColumns_iff hfirst name).symm⟩
    change PlainColumns first.fields
    exact hfields ▸ hnames.plain df hdf

/-- A feed of valid chunks with the same plain columns in any order is accepted, and the records
have those columns. -/
theorem exists_loadRecords (hdelivers : mixin.source.Delivers mixin.chunksize frames)
    (hvalid : ∀ df ∈ frames, mixin.Valid df) (hnames : SameNames frames) :
    ∃ records, mixin.loadRecords = .ok records ∧ PlainColumns records.columns ∧
      ∀ name, name ∈ records.columns ↔ name ∈ feedColumns frames := by
  cases hsource : mixin.source with
  | oneShot readRecords =>
    simp only [RecordSource.Delivers, hsource] at hdelivers
    obtain ⟨df, rfl, rfl⟩ := hdelivers
    have hplain : PlainColumns df.columns := hnames.plain df List.mem_cons_self
    obtain ⟨records, hok, hcols, -⟩ :=
      InventoryDomainMixin.loadRecords_oneShot hsource (hvalid df List.mem_cons_self) hplain
    exact ⟨records, hok, hcols ▸ hplain, fun name => by rw [hcols]; rfl⟩
  | chunked read =>
    simp only [RecordSource.Delivers, hsource] at hdelivers
    obtain ⟨records, hok, -, hcols⟩ := exists_dedupeLastSeenChunks_of_width
      (fun row hrow => hnames.length_fields hrow) (hnames.exists_cell hvalid)
    have hheader : records.columns = keptColumns mixin.dedupeKey frames := hcols
    refine ⟨records, ?_, ?_⟩
    · rw [InventoryDomainMixin.loadRecords_eq_dedupeLastSeenChunks hsource hdelivers hvalid, hok]
    · rw [hheader]
      exact hnames.plain_keptColumns

/-- Over valid chunks with the same plain columns in any order, the records keep the cells of every
row under their own names exactly when the feed is aligned. -/
theorem loadRecords_byName_iff
    {read : ℤ → Except PyException (List (Except PyException DataFrame))}
    (hsource : mixin.source = .chunked read) (hread : read mixin.chunksize = .ok (frames.map .ok))
    (hvalid : ∀ df ∈ frames, mixin.Valid df) (hnames : SameNames frames) :
    KeepsNames mixin frames ↔ Aligned mixin.dedupeKey frames := by
  have hload := InventoryDomainMixin.loadRecords_eq_dedupeLastSeenChunks hsource hread hvalid
  obtain ⟨records, hok, hrows, hcols⟩ := exists_dedupeLastSeenChunks_of_width
    (fun row hrow => hnames.length_fields hrow) (hnames.exists_cell hvalid)
  have hheader : records.columns = keptColumns mixin.dedupeKey frames := hcols
  -- the records are the rows kept, laid under the labels of the first
  rw [aligned_iff hnames]
  constructor
  · rintro ⟨records', hok', hnamed, -⟩
    obtain rfl : records = records' := Except.ok.inj (hok.symm.trans (hload.symm.trans hok'))
    rw [hrows, hheader, List.map_map, List.map_inj_left] at hnamed
    exact hnamed
  · intro hall
    have hnamed : records.rows.map (cell records.columns) =
        (Recency.collect (rowKey mixin.dedupeKey) (feedRows frames)).map byName := by
      rw [hrows, hheader, List.map_map]
      exact List.map_congr_left hall
    refine ⟨records, hload.trans hok, hnamed, fun hne => ?_⟩
    have hkey : mixin.dedupeKey ∈ feedColumns frames := by
      cases frames with
      | nil => exact absurd rfl hne
      | cons df frames => exact (hvalid df List.mem_cons_self).columns_mem _ List.mem_cons_self
    obtain ⟨whole, hwhole, hwholeRows⟩ := dedupeLastSeen_concatByName hnames hkey
    refine ⟨whole, hwhole, ?_⟩
    -- both are the latest rows of the feed, though in different orders
    rw [hnamed, hwholeRows]
    exact (Recency.collect_perm_keepLast _).map byName

/-- A feed whose chunks all list their columns in the same order is aligned. -/
theorem aligned_of_columns_eq {columns : List String} (h : SameNames frames)
    (hcolumns : ∀ df ∈ frames, df.columns = columns) : Aligned key frames := by
  have hfields : ∀ row ∈ feedRows frames, row.fields = columns := by
    intro row hrow
    obtain ⟨df, hdf, -, hfields⟩ := h.fields_of_mem hrow
    exact hfields.trans (hcolumns df hdf)
  rw [aligned_iff h]
  intro row hrow
  have hrow' : row ∈ feedRows frames := (Recency.mem_collect.1 hrow).mem
  -- whichever row is the first kept, its fields are the common labels
  have hkept : keptColumns key frames = columns := by
    unfold keptColumns
    cases hsplit : Recency.collect (rowKey key) (feedRows frames) with
    | nil =>
      rw [hsplit] at hrow
      cases hrow
    | cons first rest =>
      have hfirst : first ∈ Recency.collect (rowKey key) (feedRows frames) := by
        rw [hsplit]
        exact List.mem_cons_self
      exact hfields first (Recency.mem_collect.1 hfirst).mem
  rw [hkept, byName, hfields row hrow']

end Align

/-! ### A feed whose second chunk lists its columns in another order -/

/-- Two chunks with the shipped columns, the last two of which change places. -/
def swappedChunks : List DataFrame :=
  [⟨["sku_id", "item_name", "unit_price"], [[.str "A", .str "bolt", .int 1]], by simp⟩,
    ⟨["sku_id", "unit_price", "item_name"], [[.str "B", .int 2, .str "nut"]], by simp⟩]

/-- A run with the shipped defaults over the two chunks. -/
def swappedMixin : InventoryDomainMixin where
  source := .chunked fun _ => .ok (swappedChunks.map .ok)

theorem valid_swappedChunks : ∀ df ∈ swappedChunks, swappedMixin.Valid df := by
  have hvalid : ∀ df ∈ swappedChunks, swappedMixin.validate df = .ok df := by
    intro df hdf
    simp only [swappedChunks, List.mem_cons, List.not_mem_nil, or_false] at hdf
    rcases hdf with rfl | rfl <;> rfl
  intro df hdf
  exact (InventoryDomainMixin.validate_eq_ok.1 (hvalid df hdf)).2

theorem sameNames_swappedChunks : @SameNames asciiTables swappedChunks := by
  refine @SameNames.mk asciiTables swappedChunks ?_ ?_
  · intro df hdf
    simp only [swappedChunks, List.mem_cons, List.not_mem_nil, or_false] at hdf
    rcases hdf with rfl | rfl <;> decide
  · have hnames : ∀ df ∈ swappedChunks, ∀ name,
        name ∈ df.columns ↔ name = "sku_id" ∨ name = "item_name" ∨ name = "unit_price" := by
      intro df hdf name
      simp only [swappedChunks, List.mem_cons, List.not_mem_nil, or_false] at hdf
      rcases hdf with rfl | rfl
      · simp
      · simp [or_comm]
    intro df hdf df' hdf' name
    rw [hnames df hdf, hnames df' hdf']

theorem loadRecords_byName_iff_swappedChunks :
    @KeepsNames asciiTables swappedMixin swappedChunks ↔
      @Aligned asciiTables "sku_id" swappedChunks :=
  @loadRecords_byName_iff asciiTables swappedChunks swappedMixin _ rfl rfl valid_swappedChunks
    sameNames_swappedChunks

/-- Both chunks pass validation, and the price of `B` ends up under `item_name`. -/
theorem loadRecords_swaps_cells :
    (∀ df ∈ swappedChunks, swappedMixin.Valid df) ∧ @SameNames asciiTables swappedChunks ∧
      ¬@KeepsNames asciiTables swappedMixin swappedChunks := by
  refine ⟨valid_swappedChunks, sameNames_swappedChunks, ?_⟩
  rintro ⟨records, hok, hnamed, -⟩
  have hloaded : (@InventoryDomainMixin.loadRecords swappedMixin asciiTables).map
      (fun df => df.rows.map fun row => cell df.columns row "item_name") =
      .ok [some (.str "bolt"), some (.int 2)] := rfl
  have hown : (Recency.collect (rowKey "sku_id") (@feedRows asciiTables swappedChunks)).map
      (fun row => byName row "item_name") = [some (.str "bolt"), some (.str "nut")] := rfl
  have hread : records.rows.map (fun row => cell records.columns row "item_name") =
      [some (.str "bolt"), some (.int 2)] := by
    rw [hok] at hloaded
    exact Except.ok.inj hloaded
  -- by name, the second row should hold the name it came with
  have hsame := congrArg (List.map fun cells => cells "item_name") hnamed
  rw [List.map_map, List.map_map] at hsame
  have heq : [some (PyValue.str "bolt"), some (.int 2)] = [some (.str "bolt"), some (.str "nut")] :=
    hread.symm.trans (hsame.trans hown)
  simp at heq

end Ingest
