import InventorySync.Sync.Preflight

/-!
# Column names that are no field names

Validation takes column names as plain text, while dedup, key lookup and `build_payload` use them as
attribute names of a named tuple, whose fields `itertuples` renames.

* `columns_dedupeLastSeenChunks`: a chunked feed with rows gets the renamed labels;
* `textColumns_iff`: the names survive to the write phase exactly when the renaming does not touch
  what is used of them.
-/

open Python Pandas Ingest Transport

namespace Sync

/-! ### The labels that chunked dedup returns -/

section Labels

variable [IdentifierTables] {key : String} {frames : List DataFrame} {columns : List String}

/-- Every row in the dictionary has the renamed labels as its fields. -/
def Renamed (columns : List String) (latest : InsertionDict PyValue.HashKey NamedTuple) : Prop :=
  ∀ row ∈ latest.values, row.fields = renameFields columns

theorem renamed_of_recordRow {latest latest' : InsertionDict PyValue.HashKey NamedTuple}
    {row : NamedTuple} (hfields : row.fields = renameFields columns)
    (h : recordRow key latest row = .ok latest') :
    row ∈ latest'.values ∧ (Renamed columns latest → Renamed columns latest') := by
  -- the key was read, and the row is filed under it
  obtain ⟨value, -, hset⟩ := Except.bind_eq_ok.1 h
  obtain rfl := Except.ok.inj hset
  refine ⟨InsertionDict.mem_values_set_self latest _ row, fun hrenamed r hr => ?_⟩
  rcases InsertionDict.eq_or_mem_of_mem_values_set hr with rfl | hr
  · exact hfields
  · exact hrenamed r hr

/-- Recording a chunk keeps the dictionary renamed, and a chunk with a row leaves an entry. -/
theorem renamed_of_recordChunk {df : DataFrame} {seen seen' : Seen} (hdf : df.columns = columns)
    (h : recordChunk key seen (.ok df) = .ok seen') :
    (Renamed columns seen.latestByKey → Renamed columns seen'.latestByKey) ∧
      (seen.latestByKey.values ≠ [] ∨ df.rows ≠ [] → seen'.latestByKey.values ≠ []) := by
  obtain ⟨latest, hfold, hseen⟩ := Except.bind_eq_ok.1 h
  obtain rfl := Except.ok.inj hseen
  have hfields : ∀ row ∈ df.itertuples, row.fields = renameFields columns := fun row hrow =>
    hdf ▸ (DataFrame.mem_itertuples.1 hrow).1
  have hne : ∀ row ∈ df.itertuples, ∀ u v, recordRow key u row = .ok v → v.values ≠ [] :=
    fun row hrow u v huv => List.ne_nil_of_mem (renamed_of_recordRow (hfields row hrow) huv).1
  constructor
  · exact Except.foldlM_invariant hfold fun row hrow u v huv =>
      (renamed_of_recordRow (hfields row hrow) huv).2
  · rintro (hseen | hrows)
    · exact Except.foldlM_invariant (P := fun latest => latest.values ≠ []) hfold
        (fun row hrow u v huv _ => hne row hrow u v huv) hseen
    · -- the row filed for any row of the chunk leaves an entry, and no later row removes one
      have htuples : df.itertuples ≠ [] := by
        rw [Ne, ← List.length_eq_zero_iff, DataFrame.length_itertuples, List.length_eq_zero_iff]
        exact hrows
      obtain ⟨row, hrow⟩ := List.exists_mem_of_ne_nil _ htuples
      exact Except.foldlM_of_mem (P := fun latest => latest.values ≠ []) hfold
        (fun r hr u v huv _ => hne r hr u v huv) hrow (hne row hrow)

/-- A feed with rows gets the renamed labels, whatever its key is. -/
theorem columns_dedupeLastSeenChunks {records : DataFrame}
    (hcolumns : ∀ df ∈ frames, df.columns = columns) (hrows : ∃ df ∈ frames, df.rows ≠ [])
    (h : dedupeLastSeenChunks (frames.map .ok) key = .ok records) :
    records.columns = renameFields columns := by
  obtain ⟨seen, hfold, hfinish⟩ := Except.bind_eq_ok.1 h
  have hrenamed : Renamed columns seen.latestByKey := by
    refine Except.foldlM_invariant (P := fun seen => Renamed columns seen.latestByKey) hfold ?_ ?_
    · intro chunk hchunk u v huv
      obtain ⟨df, hdf, rfl⟩ := List.mem_map.1 hchunk
      exact (renamed_of_recordChunk (hcolumns df hdf) huv).1
    · intro row hrow
      cases hrow
  have hne : seen.latestByKey.values ≠ [] := by
    obtain ⟨df, hdf, hdfRows⟩ := hrows
    refine Except.foldlM_of_mem (P := fun seen => seen.latestByKey.values ≠ []) hfold ?_
      (List.mem_map_of_mem (f := Except.ok) hdf) fun u v huv =>
        (renamed_of_recordChunk (hcolumns df hdf) huv).2 (.inr hdfRows)
    intro chunk hchunk u v huv hu
    obtain ⟨df', hdf', rfl⟩ := List.mem_map.1 hchunk
    exact (renamed_of_recordChunk (hcolumns df' hdf') huv).2 (.inl hu)
  -- the frame gets its labels from the first entry
  obtain ⟨first, rest, hvalues⟩ := List.exists_cons_of_ne_nil hne
  have hfields : ∀ row ∈ first :: rest, row.fields = renameFields columns := hvalues ▸ hrenamed
  have hwidths : ∀ row ∈ first :: rest, row.fields.length = first.fields.length := by
    intro row hrow
    rw [hfields row hrow, hfields first List.mem_cons_self]
  obtain ⟨df, hok, hcols, -⟩ := DataFrame.ofNamedTuples_cons_eq_ok hwidths
  split at hfinish
  next hempty =>
    rw [InsertionDict.values, List.isEmpty_iff.1 hempty] at hne
    exact absurd rfl hne
  next =>
    rw [hvalues, hok] at hfinish
    obtain rfl := Except.ok.inj hfinish
    exact hcols.trans (hfields first List.mem_cons_self)

end Labels

/-! ### Names in the write phase -/

namespace DataverseInventorySyncRunner

variable [IdentifierTables] (self : DataverseInventorySyncRunner)

/-- The records have exactly the feed's columns, and for every one of their rows the key and each
mapped column are read as the row's own cells, of which `build_payload` makes the payload. -/
def NamesSurvive (columns : List String) : Prop :=
  ∃ records, self.mixin.loadRecords = .ok records ∧ records.columns = columns ∧
    ∀ row ∈ records.itertuples,
      (∀ name ∈ self.neededColumns, ∃ value, cell columns row.values name = some value ∧
        row.getattr name = .ok value) ∧
      buildPayload self.fieldMapping row = .ok (InsertionDict.ofPairs
        (self.fieldMapping.entries.map fun field =>
          (field.2, (cell columns row.values field.1).getD .none)))

/-- What the renaming of `itertuples` leaves of the names that are used: in the chunked path all
labels of a feed with rows, in the one-shot path the cells read off the last row of each key. -/
def RenamingHarmless (frames : List DataFrame) (columns : List String) : Prop :=
  match self.source with
  | .chunked _ => (∀ df ∈ frames, df.rows = []) ∨ renameFields columns = columns
  | .oneShot _ => ∀ df ∈ frames, ∀ cells,
      Recency.IsLatest (DataFrame.rowKey self.dedupeKey columns) df.rows cells →
      ∀ name ∈ self.neededColumns, cell (renameFields columns) cells name = cell columns cells name

end DataverseInventorySyncRunner

section Names

variable {runner : DataverseInventorySyncRunner} {frames : List DataFrame} {columns : List String}

/-- If every needed column is read as the row's own cell, so is the payload. -/
theorem buildPayload_of_read {row : NamedTuple}
    (hread : ∀ name ∈ runner.neededColumns, ∃ value, cell columns row.values name = some value ∧
      row.getattr name = .ok value) :
    buildPayload runner.fieldMapping row = .ok (InsertionDict.ofPairs
      (runner.fieldMapping.entries.map fun field =>
        (field.2, (cell columns row.values field.1).getD .none))) := by
  apply buildPayload_eq_ok fun name => (cell columns row.values name).getD .none
  intro field hfield
  obtain ⟨value, hcell, hget⟩ :=
    hread field.1 (List.mem_cons_of_mem _ (List.mem_map_of_mem hfield))
  rw [hget, hcell]
  rfl

variable [IdentifierTables]

/-- A name that can be a field name is read off its own cell. -/
theorem cell_renameFields {name : String} (hname : isFieldName name = true) {cells : List PyValue}
    (hlength : cells.length = columns.length) (hmem : name ∈ columns) :
    cell (renameFields columns) cells name = cell columns cells name := by
  rw [cell_eq_getElem? (hlength.trans (length_renameFields columns).symm),
    cell_eq_getElem? hlength, idxOf_renameFields hname hmem]

/-- If the renaming keeps the labels of a feed with rows, every row of the feed has the feed's
labels. -/
theorem fields_of_labels (hcolumns : ∀ df ∈ frames, df.columns = columns)
    (hlabels : (∀ df ∈ frames, df.rows = []) ∨ renameFields columns = columns) {row : NamedTuple}
    (hrow : row ∈ feedRows frames) : renameFields columns = columns ∧ row.fields = columns := by
  obtain ⟨df, hdf, hrow⟩ := List.mem_flatMap.1 hrow
  obtain ⟨hfields, hvalues⟩ := DataFrame.mem_itertuples.1 hrow
  rcases hlabels with hempty | hkept
  · -- a feed without rows has no row to look at
    rw [hempty df hdf] at hvalues
    cases hvalues
  · exact ⟨hkept, by rw [hfields, hcolumns df hdf, hkept]⟩

/-- In the chunked path the names survive exactly when the feed is valid and has no rows or labels
that the renaming keeps. -/
theorem namesSurvive_chunked_iff
    {read : ℤ → Except PyException (List (Except PyException DataFrame))}
    (hsource : runner.source = .chunked read)
    (hread : read runner.chunksize = .ok (frames.map .ok)) (hne : frames ≠ [])
    (hcolumns : ∀ df ∈ frames, df.columns = columns)
    (hneeded : ∀ name ∈ runner.neededColumns, name ∈ columns) :
    runner.NamesSurvive columns ↔ (∀ df ∈ frames, runner.mixin.Valid df) ∧
      ((∀ df ∈ frames, df.rows = []) ∨ renameFields columns = columns) := by
  have hsource' : runner.mixin.source = .chunked read := hsource
  have hdelivers : runner.mixin.source.Delivers runner.mixin.chunksize frames := by
    simp only [RecordSource.Delivers, hsource']
    exact hread
  constructor
  · rintro ⟨records, hok, hcols, -⟩
    obtain ⟨frames', hdelivers', hvalid⟩ :=
      InventoryDomainMixin.exists_delivers_of_loadRecords hok
    -- loading succeeded, so every chunk is valid
    obtain rfl : frames = frames' := hdelivers.unique hdelivers'
    refine ⟨hvalid, ?_⟩
    by_cases hrows : ∀ df ∈ frames, df.rows = []
    · exact .inl hrows
    · -- with rows, the records get the renamed labels, and these are the feed's
      rw [InventoryDomainMixin.loadRecords_eq_dedupeLastSeenChunks hsource' hread hvalid] at hok
      have hsome : ∃ df ∈ frames, df.rows ≠ [] := by simpa using hrows
      exact .inr ((columns_dedupeLastSeenChunks hcolumns hsome hok).symm.trans hcols)
  · rintro ⟨hvalid, hlabels⟩
    -- what the dictionary files are the renamed rows; either there are none, or none was renamed
    have hfields : ∀ row ∈ feedRows frames, row.fields = columns :=
      fun row hrow => (fields_of_labels hcolumns hlabels hrow).2
    have hcells : ∀ row ∈ feedRows frames,
        ∃ value, cell row.fields row.values runner.dedupeKey = some value := by
      intro row hrow
      have hkey : runner.dedupeKey ∈ row.fields := by
        rw [hfields row hrow]
        exact hneeded _ List.mem_cons_self
      obtain ⟨value, -, hcell⟩ := exists_cell row.length_values hkey
      exact ⟨value, hcell⟩
    obtain ⟨records, hok, hrows, hcols⟩ := exists_dedupeLastSeenChunks hfields hcells
    rw [feedColumns_of_ne_nil hne hcolumns, ite_self] at hcols
    refine ⟨records, ?_, hcols, fun row hrow => ?_⟩
    · rw [InventoryDomainMixin.loadRecords_eq_dedupeLastSeenChunks hsource' hread hvalid]
      exact hok
    · obtain ⟨hrowFields, hvalues⟩ := DataFrame.mem_itertuples.1 hrow
      -- a row of the records is one that was filed
      rw [hrows] at hvalues
      obtain ⟨filed, hfiled, hsame⟩ := List.mem_map.1 hvalues
      have hmem : filed ∈ feedRows frames := (Recency.mem_collect.1 hfiled).mem
      rw [hcols, (fields_of_labels hcolumns hlabels hmem).1] at hrowFields
      have hget : ∀ name ∈ runner.neededColumns,
          ∃ value, cell columns row.values name = some value ∧ row.getattr name = .ok value := by
        intro name hname
        obtain ⟨value, -, hcell⟩ := exists_cell row.length_values
          (hrowFields ▸ hneeded name hname : name ∈ row.fields)
        exact ⟨value, hrowFields ▸ hcell, NamedTuple.getattr_eq_ok hcell⟩
      exact ⟨hget, buildPayload_of_read hget⟩

/-- The one-shot path over a valid frame, whatever its labels are. -/
theorem exists_loadRecords_oneShot {mixin : InventoryDomainMixin} {df : DataFrame}
    (hsource : mixin.source = .oneShot (.ok df)) (hvalid : mixin.Valid df) :
    ∃ records, mixin.loadRecords = .ok records ∧ records.columns = df.columns ∧
      records.rows = Recency.keepLast (DataFrame.rowKey mixin.dedupeKey df.columns) df.rows := by
  have hkey : df.columns.contains mixin.dedupeKey = true := by
    simpa using hvalid.columns_mem _ List.mem_cons_self
  have hload : mixin.loadRecords = df.dropDuplicatesLast mixin.dedupeKey := by
    rw [InventoryDomainMixin.loadRecords, hsource]
    change Except.bind (mixin.validate df) _ = _
    rw [InventoryDomainMixin.validate_eq_ok.2 ⟨rfl, hvalid⟩]
    rfl
  rw [hload, DataFrame.dropDuplicatesLast, if_pos hkey]
  exact ⟨_, rfl, rfl, rfl⟩

/-- The cells of a frame are data, not what a row has besides its cells. -/
def DataCells (df : DataFrame) : Prop :=
  ∀ cells ∈ df.rows, ∀ value ∈ cells,
    (∀ names, value ≠ .fieldNames names) ∧ ∀ name, value ≠ .rowAttribute name

/-- A name is read as the row's own cell exactly when the renamed labels lead to it. -/
theorem getattr_eq_own_iff {df : DataFrame} (hdata : DataCells df) {row : NamedTuple}
    (hfields : row.fields = renameFields df.columns) (hvalues : row.values ∈ df.rows)
    {name : String} (hname : name ∈ df.columns) :
    (∃ value, cell df.columns row.values name = some value ∧ row.getattr name = .ok value) ↔
      cell (renameFields df.columns) row.values name = cell df.columns row.values name := by
  -- the row's own cell, which the renamed labels may hide
  obtain ⟨own, hmem, hown⟩ := exists_cell (df.rectangular _ hvalues) hname
  constructor
  · rintro ⟨value, hcell, hget⟩
    obtain rfl : own = value := Option.some.inj (hown.symm.trans hcell)
    rw [NamedTuple.getattr, hfields] at hget
    rw [hcell]
    cases hfound : cell (renameFields df.columns) row.values name with
    | some found =>
      rw [hfound] at hget
      exact congrArg some (Except.ok.inj hget)
    | none =>
      -- then the attribute is one that the tuple has besides its cells, or there is none
      rw [hfound] at hget
      simp only at hget
      split at hget
      · exact absurd (Except.ok.inj hget).symm ((hdata _ hvalues own hmem).1 _)
      · split at hget
        · exact absurd (Except.ok.inj hget).symm ((hdata _ hvalues own hmem).2 name)
        · cases hget
  · intro heq
    refine ⟨own, hown, NamedTuple.getattr_eq_ok ?_⟩
    rw [hfields, heq, hown]

/-- In the one-shot path the names survive exactly when the feed is valid and the renamed labels
lead to the row's own cells. -/
theorem namesSurvive_oneShot_iff {df : DataFrame} (hsource : runner.source = .oneShot (.ok df))
    (hdata : DataCells df) (hneeded : ∀ name ∈ runner.neededColumns, name ∈ df.columns) :
    runner.NamesSurvive df.columns ↔ runner.mixin.Valid df ∧
      ∀ cells, Recency.IsLatest (DataFrame.rowKey runner.dedupeKey df.columns) df.rows cells →
        ∀ name ∈ runner.neededColumns,
          cell (renameFields df.columns) cells name = cell df.columns cells name := by
  have hsource' : runner.mixin.source = .oneShot (.ok df) := hsource
  have hdelivers : runner.mixin.source.Delivers runner.mixin.chunksize [df] := by
    simp only [RecordSource.Delivers, hsource']
    exact ⟨df, rfl, rfl⟩
  constructor
  · rintro ⟨records, hok, hcols, hread⟩
    obtain ⟨frames', hdelivers', hvalid⟩ :=
      InventoryDomainMixin.exists_delivers_of_loadRecords hok
    obtain rfl : [df] = frames' := hdelivers.unique hdelivers'
    have hdf : runner.mixin.Valid df := hvalid df List.mem_cons_self
    obtain ⟨records', hok', -, hrows⟩ := exists_loadRecords_oneShot hsource' hdf
    obtain rfl : records = records' := Except.ok.inj (hok.symm.trans hok')
    refine ⟨hdf, fun cells hlatest name hname => ?_⟩
    -- the last row of each key is a row of the records
    have hmem : cells ∈ records.itertuples.map NamedTuple.values := by
      rw [DataFrame.map_values_itertuples, hrows]
      exact Recency.mem_keepLast.2 hlatest
    obtain ⟨row, hrow, rfl⟩ := List.mem_map.1 hmem
    have hfields : row.fields = renameFields df.columns :=
      hcols ▸ (DataFrame.mem_itertuples.1 hrow).1
    exact (getattr_eq_own_iff hdata hfields hlatest.mem (hneeded name hname)).1
      ((hread row hrow).1 name hname)
  · rintro ⟨hvalid, hharmless⟩
    obtain ⟨records, hok, hcols, hrows⟩ := exists_loadRecords_oneShot hsource' hvalid
    refine ⟨records, hok, hcols, fun row hrow => ?_⟩
    obtain ⟨hfields, hvalues⟩ := DataFrame.mem_itertuples.1 hrow
    rw [hcols] at hfields
    rw [hrows] at hvalues
    have hlatest := Recency.mem_keepLast.1 hvalues
    have hget : ∀ name ∈ runner.neededColumns,
        ∃ value, cell df.columns row.values name = some value ∧ row.getattr name = .ok value :=
      fun name hname => (getattr_eq_own_iff hdata hfields hlatest.mem (hneeded name hname)).2
        (hharmless _ hlatest name hname)
    exact ⟨hget, buildPayload_of_read hget⟩

/-- Over a feed with the given labels, which include every needed column, the names survive to the
write phase exactly when the feed is valid and the renaming of `itertuples` is harmless. -/
theorem textColumns_iff (hdelivers : runner.source.Delivers runner.chunksize frames)
    (hne : frames ≠ []) (hcolumns : ∀ df ∈ frames, df.columns = columns)
    (hdata : ∀ df ∈ frames, DataCells df)
    (hneeded : ∀ name ∈ runner.neededColumns, name ∈ columns) :
    runner.NamesSurvive columns ↔
      (∀ df ∈ frames, runner.mixin.Valid df) ∧ runner.RenamingHarmless frames columns := by
  unfold DataverseInventorySyncRunner.RenamingHarmless
  cases hsource : runner.source with
  | chunked read =>
    simp only [RecordSource.Delivers, hsource] at hdelivers
    exact namesSurvive_chunked_iff hsource hdelivers hne hcolumns hneeded
  | oneShot readRecords =>
    simp only [RecordSource.Delivers, hsource] at hdelivers
    obtain ⟨df, rfl, rfl⟩ := hdelivers
    obtain rfl : df.columns = columns := hcolumns df List.mem_cons_self
    simpa only [List.forall_mem_singleton] using
      namesSurvive_oneShot_iff hsource (hdata df List.mem_cons_self) hneeded

/-- In the one-shot path the renaming is harmless if every needed column can be a field name. -/
theorem renamingHarmless_of_isFieldName {readRecords : Except PyException DataFrame}
    (hsource : runner.source = .oneShot readRecords)
    (hcolumns : ∀ df ∈ frames, df.columns = columns)
    (hneeded : ∀ name ∈ runner.neededColumns, name ∈ columns ∧ isFieldName name = true) :
    runner.RenamingHarmless frames columns := by
  unfold DataverseInventorySyncRunner.RenamingHarmless
  rw [hsource]
  intro df hdf cells hlatest name hname
  have hlength : cells.length = columns.length :=
    hcolumns df hdf ▸ df.rectangular cells hlatest.mem
  exact cell_renameFields (hneeded name hname).2 hlength (hneeded name hname).1

end Names

/-! ### A column whose name has a space -/

/-- One row under a label that cannot be a field name. -/
def spacedFrame : DataFrame := ⟨["sku_id", "unit price"], [[.str "A", .int 1]], by simp⟩

/-- A runner that requires and maps that column. -/
def spacedRunner (source : RecordSource) : DataverseInventorySyncRunner where
  source := source
  requiredColumns := ["unit price"]
  fieldMapping := InsertionDict.ofPairs [("unit price", "lagsol_unitprice")]

theorem dataCells_spacedFrame : ∀ df ∈ [spacedFrame], DataCells df := by
  intro df hdf cells hcells value hvalue
  obtain rfl := List.mem_singleton.1 hdf
  obtain rfl := List.mem_singleton.1 hcells
  simp only [List.mem_cons, List.not_mem_nil, or_false] at hvalue
  rcases hvalue with rfl | rfl <;> simp

theorem textColumns_iff_spacedFrame :
    @DataverseInventorySyncRunner.NamesSurvive asciiTables
        (spacedRunner (.chunked fun _ => .ok [.ok spacedFrame])) spacedFrame.columns ↔
      (∀ df ∈ [spacedFrame],
        (spacedRunner (.chunked fun _ => .ok [.ok spacedFrame])).mixin.Valid df) ∧
      @DataverseInventorySyncRunner.RenamingHarmless asciiTables
        (spacedRunner (.chunked fun _ => .ok [.ok spacedFrame])) [spacedFrame]
        spacedFrame.columns :=
  @textColumns_iff (spacedRunner (.chunked fun _ => .ok [.ok spacedFrame])) [spacedFrame]
    spacedFrame.columns asciiTables rfl (List.cons_ne_nil _ _)
    (fun _ hdf => List.mem_singleton.1 hdf ▸ rfl) dataCells_spacedFrame (by decide)

/-- Both kinds of source accept the feed. The chunked one returns it under another label, and off
the rows of the other `build_payload` cannot read the column. -/
theorem namesSurvive_fails_spacedFrame :
    spacedFrame.columns.Nodup ∧ "" ∉ spacedFrame.columns ∧
    ¬@DataverseInventorySyncRunner.NamesSurvive asciiTables
      (spacedRunner (.chunked fun _ => .ok [.ok spacedFrame])) spacedFrame.columns ∧
    ¬@DataverseInventorySyncRunner.NamesSurvive asciiTables
      (spacedRunner (.oneShot (.ok spacedFrame))) spacedFrame.columns := by
  refine ⟨by decide, by decide, ?_, ?_⟩
  · -- the records come back under the positional name
    rintro ⟨records, hok, hcols, -⟩
    have hloaded : (@InventoryDomainMixin.loadRecords
        (spacedRunner (.chunked fun _ => .ok [.ok spacedFrame])).mixin asciiTables).map
        DataFrame.columns = .ok ["sku_id", "_1"] := rfl
    rw [hok] at hloaded
    have hrenamed : records.columns = ["sku_id", "_1"] := Except.ok.inj hloaded
    rw [hcols] at hrenamed
    exact absurd hrenamed (by decide)
  · -- the column has its label, but no row has the attribute
    rintro ⟨records, hok, -, hread⟩
    have hloaded : (@InventoryDomainMixin.loadRecords
        (spacedRunner (.oneShot (.ok spacedFrame))).mixin asciiTables).map
        (fun df => (@DataFrame.itertuples asciiTables df).all
          fun row => (row.getattr "unit price").isOk) = .ok false := rfl
    rw [hok] at hloaded
    have hall : ((@DataFrame.itertuples asciiTables records).all
        fun row => (row.getattr "unit price").isOk) = true := by
      rw [List.all_eq_true]
      intro row hrow
      obtain ⟨value, -, hget⟩ := (hread row hrow).1 "unit price" (by decide)
      rw [hget]
      rfl
    cases hall.symm.trans (Except.ok.inj hloaded)

end Sync
