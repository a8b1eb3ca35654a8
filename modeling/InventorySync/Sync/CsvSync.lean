import InventorySync.Ingest.Chunksize
import InventorySync.Sync.Resends
import InventorySync.Sync.RowRecord

/-!
# From the lines of a CSV file to records

A whole run over a CSV feed, told in the words of the file: if it exits with 0, then for each key
the last line with that key is in the destination, each mapped column under its field. What `pandas`
reads a text as is a parameter, since it types a whole column of a chunk at a time, so that one
text may be read as an integer here and as a float or a string there.

* `Recency.IsLatest.exists_of_forall₂`: the last line with a key is read as the latest row with it;
* `linesOf_frames`: the frames of `CsvInventorySource` hold the lines of its file;
* `csv_sync_delivers_last_lines`: what the run did to the destination.
-/

open Python Pandas Ingest Transport ThreadPool PatchStore

namespace Sync

/-! ### Lines and rows -/

/-- The frames hold the lines of a CSV file in order, each cell as something that `pandas` reads the
text of that cell as. -/
def LinesOf (reads : String → PyValue → Prop) (feed : CsvFeed) (frames : List DataFrame) : Prop :=
  List.Forall₂ (fun cells line => List.Forall₂ reads line.val cells)
    (frames.flatMap DataFrame.rows) feed.rows

/-- A text is read as itself or, if it is an integer literal, as the integer. -/
def ReadsInteger (text : String) (value : PyValue) : Prop :=
  value = .str text ∨ ∃ m, integerLiteral? text = some m ∧ value = .int m

/-- The frames of a source over a CSV file hold its lines. -/
theorem linesOf_frames (feed : CsvFeed) {n : ℕ} (hn : 0 < n) :
    LinesOf ReadsInteger feed (feed.frames n) := by
  have hread : ∀ (slice : List (List String)) (texts : List String),
      List.Forall₂ ReadsInteger texts (readRow slice texts) := by
    intro slice texts
    rw [List.forall₂_iff_get]
    refine ⟨List.length_mapIdx.symm, fun i hi _ => ?_⟩
    simp only [List.get_eq_getElem, readRow, List.getElem_mapIdx]
    cases hliteral : integerLiteral? texts[i] with
    | none => exact .inl (CsvFeed.readCell_of_none hliteral)
    | some m =>
      cases hinteger : columnIsInteger slice i with
      | true => exact .inr ⟨m, hliteral, CsvFeed.readCell_of_columnIsInteger hliteral hinteger⟩
      | false => exact .inl (CsvFeed.readCell_of_not_columnIsInteger hinteger)
  rw [LinesOf, List.forall₂_iff_zip]
  refine ⟨CsvFeed.length_readRows feed hn, fun {cells line} hmem => ?_⟩
  have hpair : (line, cells) ∈ feed.readPairs n := by
    rw [← CsvFeed.zip_readRows hn, ← List.zip_swap]
    exact List.mem_map_of_mem hmem
  obtain ⟨slice, -, -, hslice, -⟩ := CsvFeed.exists_chunk_of_mem hn hpair
  have hcells : cells = readRow (slice.map Subtype.val) line.val := hslice
  rw [hcells]
  exact hread _ line.val

/-- A row of a frame is read from a line of the file. -/
structure ReadFrom (reads : String → PyValue → Prop) (feed : CsvFeed) (row : NamedTuple)
    (line : CsvRow feed.header) : Prop where
  fields_eq : row.fields = feed.header
  cells : List.Forall₂ reads line.val row.values

/-- It is filed under the text of the line in the key column. -/
structure FiledFrom (key : String) (reads : String → PyValue → Prop) (feed : CsvFeed)
    (row : NamedTuple) (line : CsvRow feed.header) : Prop extends ReadFrom reads feed row line where
  mem : line ∈ feed.rows
  rowKey_eq : rowKey key row = .text (feed.text key line)

section Lines

variable {reads : String → PyValue → Prop} {feed : CsvFeed} {frames : List DataFrame}

/-- A cell of a row is what the text of its line there is read as. -/
theorem ReadFrom.exists_cell {row : NamedTuple} {line : CsvRow feed.header} {column : String}
    (h : ReadFrom reads feed row line) (hcolumn : column ∈ feed.header) :
    ∃ value, reads (feed.text column line) value ∧
      cell row.fields row.values column = some value := by
  obtain ⟨hlt, htext⟩ := List.getElem?_eq_some_iff.1 (CsvFeed.getElem?_idxOf hcolumn line)
  have hlt' : feed.header.idxOf column < row.values.length := h.cells.length_eq ▸ hlt
  have hreads := h.cells.get hlt hlt'
  simp only [List.get_eq_getElem, htext] at hreads
  refine ⟨_, hreads, ?_⟩
  rw [cell_eq_getElem? row.length_values, h.fields_eq, List.getElem?_eq_getElem hlt']

theorem ReadFrom.exists_getattr {row : NamedTuple} {line : CsvRow feed.header} {column : String}
    (h : ReadFrom reads feed row line) (hcolumn : column ∈ feed.header) :
    ∃ value, reads (feed.text column line) value ∧ row.getattr column = .ok value := by
  obtain ⟨value, hreads, hcell⟩ := h.exists_cell hcolumn
  exact ⟨value, hreads, NamedTuple.getattr_eq_ok hcell⟩

/-- Rows are filed under one key exactly if their lines have the same text there. -/
theorem FiledFrom.rowKey_eq_iff {key : String} {row row' : NamedTuple}
    {line line' : CsvRow feed.header} (h : FiledFrom key reads feed row line)
    (h' : FiledFrom key reads feed row' line') :
    rowKey key row = rowKey key row' ↔ feed.text key line = feed.text key line' := by
  rw [h.rowKey_eq, h'.rowKey_eq]
  exact ⟨PyValue.HashKey.text.inj, congrArg _⟩

/-- The rows of the frames are read from the lines. -/
theorem LinesOf.forall₂_readFrom [IdentifierTables] (h : LinesOf reads feed frames)
    (hcolumns : ∀ df ∈ frames, df.columns = feed.header) (hplain : PlainColumns feed.header) :
    List.Forall₂ (ReadFrom reads feed) (feedRows frames) feed.rows := by
  have hfields : ∀ row ∈ feedRows frames, row.fields = feed.header := by
    intro row hrow
    obtain ⟨df, hdf, hrow⟩ := List.mem_flatMap.1 hrow
    rw [(DataFrame.mem_itertuples.1 hrow).1, hcolumns df hdf, renameFields_of_plain hplain]
  have hvalues : (feedRows frames).map NamedTuple.values = frames.flatMap DataFrame.rows := by
    rw [feedRows, List.map_flatMap]
    simp only [DataFrame.map_values_itertuples]
  rw [LinesOf, ← hvalues, List.forall₂_map_left_iff] at h
  rw [List.forall₂_iff_zip] at h ⊢
  exact ⟨h.1, fun hmem => ⟨hfields _ (List.of_mem_zip hmem).1, h.2 hmem⟩⟩

end Lines

/-! ### Feeds that are read -/

/-- A run over an accepted CSV feed in which keys are read as texts and no two columns are mapped to
the same field. -/
structure CsvRun [IdentifierTables] (runner : DataverseInventorySyncRunner)
    (reads : String → PyValue → Prop) (feed : CsvFeed) (frames : List DataFrame)
    (records : DataFrame) : Prop where
  accepted : AcceptedFeed runner frames feed.header records
  lines : LinesOf reads feed frames
  key_mem : runner.dedupeKey ∈ feed.header
  keys : ∀ line ∈ feed.rows, ∀ value, reads (feed.text runner.dedupeKey line) value →
    value = .str (feed.text runner.dedupeKey line)
  nodup_fields : (runner.fieldMapping.entries.map Prod.snd).Nodup

/-- The record of a line is written over the one that was there: each mapped column under its field,
as its text is read, and no other fields. -/
def WrittenFrom (runner : DataverseInventorySyncRunner) (reads : String → PyValue → Prop)
    (feed : CsvFeed) (line : CsvRow feed.header) (initial final : Destination) : Prop :=
  ∃ record : Record String JsonValue,
    final (feed.text runner.dedupeKey line) =
      some (overwrite record (initial (feed.text runner.dedupeKey line))) ∧
    (∀ field ∈ runner.fieldMapping.entries, ∃ value encoded,
      reads (feed.text field.1 line) value ∧ encodeJsonValue value = .ok encoded ∧
        record field.2 = some encoded) ∧
    ∀ name, name ∉ runner.fieldMapping.entries.map Prod.snd → record name = none

/-- The last line with each key is written, and nothing else. -/
structure CsvDelivered (runner : DataverseInventorySyncRunner) (reads : String → PyValue → Prop)
    (feed : CsvFeed) (initial final : Destination) : Prop where
  fed : ∀ line, Recency.IsLatest (feed.text runner.dedupeKey) feed.rows line →
    WrittenFrom runner reads feed line initial final
  unfed : ∀ key, key ∉ feed.rows.map (feed.text runner.dedupeKey) → final key = initial key

/-- The last lines with some keys are written, and nothing else. -/
def CsvPartlyDelivered (runner : DataverseInventorySyncRunner) (reads : String → PyValue → Prop)
    (feed : CsvFeed) (initial final : Destination) : Prop :=
  ∀ key, final key = initial key ∨
    ∃ line, Recency.IsLatest (feed.text runner.dedupeKey) feed.rows line ∧
      feed.text runner.dedupeKey line = key ∧ WrittenFrom runner reads feed line initial final

namespace CsvRun

variable [IdentifierTables] {runner : DataverseInventorySyncRunner}
  {reads : String → PyValue → Prop} {feed : CsvFeed} {frames : List DataFrame}
  {records : DataFrame} {initial final : Destination}

/-- A row has the key of its line. -/
theorem cell_key (h : CsvRun runner reads feed frames records) {row : NamedTuple}
    {line : CsvRow feed.header} (hread : ReadFrom reads feed row line) (hline : line ∈ feed.rows) :
    cell row.fields row.values runner.dedupeKey =
      some (.str (feed.text runner.dedupeKey line)) := by
  obtain ⟨value, hreads, hcell⟩ := hread.exists_cell h.key_mem
  rw [hcell, h.keys line hline value hreads]

/-- The rows of the frames are read from the lines and filed under their keys. -/
theorem filedFrom (h : CsvRun runner reads feed frames records) :
    List.Forall₂ (FiledFrom runner.dedupeKey reads feed) (feedRows frames) feed.rows := by
  have hrows := List.forall₂_iff_zip.1
    (h.lines.forall₂_readFrom h.accepted.columns_eq h.accepted.plain)
  refine List.forall₂_iff_zip.2 ⟨hrows.1, fun {row line} hmem => ?_⟩
  have hread := hrows.2 hmem
  have hline := (List.of_mem_zip hmem).2
  refine ⟨hread, hline, ?_⟩
  rw [rowKey, h.cell_key hread hline]
  rfl

/-- The request for a row that a line is read as writes the record of the line. -/
theorem writtenFrom_of_requestOf (h : CsvRun runner reads feed frames records) {row : NamedTuple}
    {line : CsvRow feed.header} (hfiled : FiledFrom runner.dedupeKey reads feed row line)
    {key : String} {record : Record String JsonValue}
    (hrequest : runner.odata.requestOf row = some (key, record))
    (hfinal : final key = some (overwrite record (initial key))) :
    feed.text runner.dedupeKey line = key ∧ WrittenFrom runner reads feed line initial final := by
  have hkey : feed.text runner.dedupeKey line = key := by
    have hget := BaseODataSyncRunner.getattr_of_requestOf hrequest
    cases (NamedTuple.getattr_eq_ok (h.cell_key hfiled.toReadFrom hfiled.mem)).symm.trans hget
    rfl
  refine ⟨hkey, record, by rw [hkey, hfinal], fun field hfield => ?_, fun name hname =>
    (eq_none_iff_of_requestOf hrequest name).2 hname⟩
  obtain ⟨value, hreads, hvalue⟩ := hfiled.exists_getattr (h.accepted.mapped_mem field hfield)
  obtain ⟨value', encoded, hvalue', hencoded, hrecord⟩ :=
    exists_encoded_of_requestOf h.nodup_fields hrequest hfield
  cases hvalue.symm.trans hvalue'
  exact ⟨value, encoded, hreads, hencoded, hrecord⟩

theorem delivered (h : CsvRun runner reads feed frames records)
    (hdelivered : Delivered runner frames initial final) :
    CsvDelivered runner reads feed initial final where
  fed line hlatest := by
    obtain ⟨row, hfiled, hlatestRow⟩ := hlatest.exists_of_forall₂ h.filedFrom
      fun _ _ _ _ hrow hrow' => (hrow.rowKey_eq_iff hrow').1
    obtain ⟨key, record, hrequest, hfinal⟩ := hdelivered.fed row hlatestRow
    exact (h.writtenFrom_of_requestOf hfiled hrequest hfinal).2
  unfed key hunfed := by
    refine hdelivered.unfed key fun hmem => hunfed ?_
    obtain ⟨row, hrow, hkey⟩ := List.mem_map.1 hmem
    obtain ⟨line, hline, hfiled⟩ := Recency.exists_of_forall₂_mem h.filedFrom hrow
    rw [hfiled.rowKey_eq] at hkey
    exact PyValue.HashKey.text.inj hkey ▸ List.mem_map_of_mem hline

theorem partlyDelivered (h : CsvRun runner reads feed frames records)
    (hpartly : PartlyDelivered runner frames initial final) :
    CsvPartlyDelivered runner reads feed initial final := by
  intro key
  rcases hpartly key with hkept | ⟨row, record, hlatest, hrequest, hfinal⟩
  · exact .inl hkept
  · obtain ⟨line, hfiled, hlatestLine⟩ := hlatest.exists_of_forall₂ h.filedFrom.flip
      fun _ _ _ _ hrow hrow' => (hrow.rowKey_eq_iff hrow').2
    obtain ⟨hkey, hwritten⟩ := h.writtenFrom_of_requestOf hfiled hrequest hfinal
    exact .inr ⟨line, hlatestLine, hkey, hwritten⟩

/-- A row can be serialised if JSON holds whatever the mapped columns of its line are read as. -/
theorem serialisable (h : CsvRun runner reads feed frames records) {row : NamedTuple}
    {line : CsvRow feed.header} (hread : ReadFrom reads feed row line)
    (hjson : ∀ field ∈ runner.fieldMapping.entries, ∀ value,
      reads (feed.text field.1 line) value → isJson value = true) :
    runner.odata.Serialisable row := by
  obtain ⟨payload, hpayload⟩ : ∃ payload, runner.odata.buildPayload row = .ok payload := by
    apply exists_buildPayload
    intro field hfield
    obtain ⟨value, -, hvalue⟩ := hread.exists_getattr (h.accepted.mapped_mem field hfield)
    exact ⟨value, hvalue⟩
  obtain ⟨json, hencoded⟩ := encodePayload_eq_ok_iff.2 fun value hvalue => by
    obtain ⟨field, hfield, hget⟩ :=
      (mem_values_of_buildPayload h.nodup_fields hpayload value).1 hvalue
    obtain ⟨value', hreads, hvalue'⟩ := hread.exists_getattr (h.accepted.mapped_mem field hfield)
    cases hget.symm.trans hvalue'
    exact hjson field hfield value hreads
  exact ⟨payload, json, hpayload, hencoded⟩

end CsvRun

/-- Every run of the service over an accepted CSV feed whose keys are read as texts exits with 0 or
1 and has written no more than the last lines of their keys. If it exits with 0, it has written all
of them. It does exit with 0 if every hook returns, every request recovers and JSON holds whatever
the mapped columns are read as. -/
theorem csv_sync_delivers_last_lines [IdentifierTables] {S : Type}
    (self : EffectfulRunner S ODataClient Wire) (runner : DataverseInventorySyncRunner)
    (hingest : self.ingest = runner.mixin) (reads : String → PyValue → Prop) (feed : CsvFeed)
    (frames : List DataFrame) (records : DataFrame)
    (hcsv : CsvRun runner reads feed frames records) (logger : Logger)
    (adapter : StatusAdapter Wire) (token : String) (sending : ℕ → ℕ → Sending)
    (effects : Effects Wire)
    (hsync : ∀ client, self.Prepared client records →
      runner.odata.SyncRuns logger (runner.odata.upsertOver client adapter token sending)
        records.itertuples (effects.pull self.ingest.pulledChunks)
        ((self.syncRecords client records).run (effects.pull self.ingest.pulledChunks))) :
    ∃ code effects', (self.run logger).run effects = .ok code effects' ∧
      (code = 0 ∨ code = 1) ∧
      CsvPartlyDelivered runner reads feed effects.world.destination effects'.world.destination ∧
      (code = 0 →
        CsvDelivered runner reads feed effects.world.destination effects'.world.destination) ∧
      ((∃ client, self.Prepared client records) → 1 ≤ runner.maxWorkers →
        (∀ line ∈ feed.rows, ∀ field ∈ runner.fieldMapping.entries, ∀ value,
          reads (feed.text field.1 line) value → isJson value = true) →
        (∀ i, Recovers (sending i)) → code = 0) := by
  have hfeed := hcsv.accepted
  have hloaded : self.ingest.loadRecords = .ok records := by rw [hingest, hfeed.loaded]
  have hcommits : ∀ client, runner.odata.Commits Wire.destination
      (runner.odata.upsertOver client adapter token sending) records.itertuples :=
    fun client => BaseODataSyncRunner.requests_upsertOver.commits
      (BaseODataSyncRunner.distinct_of_acceptedFeed hfeed)
  obtain ⟨code, effects', hrun, hends⟩ := EffectfulRunner.runEnds_of_run hloaded hsync
  obtain ⟨hcode, hpartly, hdelivered⟩ := hends.delivered hfeed fun client _ => hcommits client
  refine ⟨code, effects', hrun, hcode, hcsv.partlyDelivered hpartly,
    fun hzero => hcsv.delivered (hdelivered hzero), ?_⟩
  intro hprepared hworkers hjson hrecovers
  have hwritable := BaseODataSyncRunner.writable_of_acceptedFeed hfeed fun row hrow => by
    obtain ⟨line, hline, hfiled⟩ :=
      Recency.exists_of_forall₂_mem hcsv.filedFrom (hfeed.mem_feedRows hrow)
    exact hcsv.serialisable hfiled.toReadFrom (hjson line hline)
  exact hends.eq_zero_of_alwaysAnswers
    (fun _ _ => BaseODataSyncRunner.alwaysAnswers_of_recovers hwritable hrecovers)
    hprepared hworkers

theorem nodup_pricedHeader : ["sku_id", "item_name", "unit_price"].Nodup := by decide

/-- The lines of a file in which a price is corrected. -/
def correctedLines : CsvFeed where
  header := ["sku_id", "item_name", "unit_price"]
  nodup_header := nodup_pricedHeader
  rows := [⟨["SKU-1", "Bolt", "3"], rfl⟩, ⟨["SKU-2", "Nut", "2"], rfl⟩,
    ⟨["SKU-1", "Bolt", "4"], rfl⟩]

/-- A run over these lines, two at a time, with the shipped defaults otherwise. -/
def correctedLinesRunner : DataverseInventorySyncRunner where
  source := correctedLines.source
  chunksize := 2

theorem csvRun_correctedLines :
    @CsvRun asciiTables correctedLinesRunner ReadsInteger correctedLines (correctedLines.frames 2)
      (shippedFrame [("SKU-1", .str "Bolt", .int 4), ("SKU-2", .str "Nut", .int 2)]) := by
  have hnone : (correctedLines.rows.map (correctedLines.text "sku_id")).map integerLiteral? =
      [none, none, none] := rfl
  have hkeys : ∀ line ∈ correctedLines.rows, ∀ value,
      ReadsInteger (correctedLines.text "sku_id" line) value →
        value = .str (correctedLines.text "sku_id" line) := by
    rintro line hline value (rfl | ⟨m, hm, -⟩)
    · rfl
    · have hmem := List.mem_map_of_mem (f := integerLiteral?)
        (List.mem_map_of_mem (f := correctedLines.text "sku_id") hline)
      rw [hnone, hm] at hmem
      simp at hmem
  have hstrings : ∀ df ∈ correctedLines.frames 2, ∀ row ∈ df.rows, ∀ value,
      cell ["sku_id", "item_name", "unit_price"] row "sku_id" = some value →
        ∃ text, value = .str text := by
    intro df hdf row hrow value hvalue
    have hmem : row ∈ [[PyValue.str "SKU-1", .str "Bolt", .int 3],
        [.str "SKU-2", .str "Nut", .int 2], [.str "SKU-1", .str "Bolt", .int 4]] :=
      List.mem_flatMap.2 ⟨df, hdf, hrow⟩
    simp only [List.mem_cons, List.not_mem_nil, or_false] at hmem
    rcases hmem with rfl | rfl | rfl <;> exact ⟨_, (Option.some.inj hvalue).symm⟩
  refine @CsvRun.mk asciiTables _ _ _ _ _ (@AcceptedFeed.mk asciiTables _ _ _ _ rfl
    (fun df hdf => ?_) (by decide) (by decide) hstrings rfl)
    (linesOf_frames correctedLines (by decide)) (by decide) hkeys (by decide)
  obtain ⟨slice, -, rfl⟩ := List.mem_map.1 hdf
  rfl

open BaseODataSyncRunner in
/-- A run over these lines in which the answer to every first send is lost. -/
theorem csv_sync_delivers_last_lines_correctedLines :
    ∃ (self : EffectfulRunner Unit ODataClient Wire) (effects' : Effects Wire),
      (@EffectfulRunner.run asciiTables _ _ _ self standardLogger).run ⟨⟨stocked, 0⟩, [], 0⟩ =
        .ok 0 effects' ∧
      CsvDelivered correctedLinesRunner ReadsInteger correctedLines stocked
        effects'.world.destination := by
  have hcsv := csvRun_correctedLines
  have hloaded : @InventoryDomainMixin.loadRecords correctedLinesRunner.mixin asciiTables =
      .ok (shippedFrame [("SKU-1", .str "Bolt", .int 4), ("SKU-2", .str "Nut", .int 2)]) := rfl
  obtain ⟨self, hingest, hprepared, hsync⟩ := @EffectfulRunner.exists_prepared asciiTables _ _ Unit
    _ _ dataverseClient correctedLinesRunner.odata (by decide) standardLogger
    (fun client => correctedLinesRunner.odata.upsertOver client wireAdapter "token"
      firstAnswerLost) _ hloaded ⟨⟨stocked, 0⟩, [], 0⟩
  obtain ⟨code, effects', hrun, -, -, hdelivered, hzero⟩ :=
    @csv_sync_delivers_last_lines asciiTables _ self correctedLinesRunner hingest ReadsInteger
      correctedLines _ _ hcsv standardLogger wireAdapter "token" firstAnswerLost
      ⟨⟨stocked, 0⟩, [], 0⟩ fun client hclient => (hsync client hclient).2
  have hjson : ∀ text value, ReadsInteger text value → isJson value = true := by
    rintro text value (rfl | ⟨m, -, rfl⟩)
    · rfl
    · rfl
  obtain rfl := hzero ⟨dataverseClient, hprepared⟩ (by decide)
    (fun _ _ _ _ => hjson _) recovers_firstAnswerLost
  exact ⟨self, effects', hrun, hdelivered rfl⟩

end Sync
