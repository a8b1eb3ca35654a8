import InventorySync.Ingest.SourceAgnostic

/-!
# Validation while streaming

The chunks of a chunked source are validated one by one, each as the dedup loop pulls it from the
generator. So the loop stops at the first chunk that is invalid, and no later chunk is read.

* `exists_first_invalid`: what a rejected feed looks like, and how much of it was read;
* `loadRecords_validation_agrees`: chunk-wise validation rejects a feed exactly when validation of
  the whole feed does.
-/

open Python Pandas

namespace Ingest

/-- How many chunks `load_records` pulls from its source. The loop of `dedupe_last_seen_chunks` asks
the validating generator for one chunk at a time, and stops at the first that raises. -/
def InventoryDomainMixin.pulledChunks [IdentifierTables] (self : InventoryDomainMixin) : ℕ :=
  match self.source with
  | .chunked readRecordChunks =>
    match readRecordChunks self.chunksize with
    | .ok chunks => Except.foldlTaken (recordChunk self.dedupeKey) ⟨none, InsertionDict.empty⟩
        (self.validatedChunks chunks)
    | .error _ => 0
  | .oneShot _ => 0

/-! ### What validation raises -/

section Validation

variable {records : DataFrame}

theorem requireColumns_eq_error {required : List String} {e : PyException}
    (h : requireColumns records required = .error e) : e.cls = .recordValidationError := by
  unfold requireColumns at h
  simp only at h
  split at h
  next => cases h
  next => exact (Except.error.inj h) ▸ rfl

theorem requireNonNull_eq_error {column : String} {e : PyException}
    (hcolumn : column ∈ records.columns) (h : requireNonNull records column = .error e) :
    e.cls = .recordValidationError := by
  have hvalues : records.column column =
      .ok (records.rows.filterMap fun row => cell records.columns row column) := by
    simp [DataFrame.column, hcolumn]
  rw [requireNonNull, hvalues] at h
  change (if _ then _ else _) = _ at h
  split at h
  next => cases h
  next => exact (Except.error.inj h) ▸ rfl

namespace InventoryDomainMixin

variable {self : InventoryDomainMixin}

/-- Whatever validation raises is a `RecordValidationError`. -/
theorem validate_eq_error {e : PyException} (h : self.validate records = .error e) :
    e.cls = .recordValidationError := by
  rcases Except.bind_eq_error.1 h with hrequired | ⟨⟨⟩, hrequired, hrest⟩
  · exact requireColumns_eq_error hrequired
  · -- the key column is there once the column check has passed
    have hkey := requireColumns_eq_ok.1 hrequired self.dedupeKey List.mem_cons_self
    rcases Except.bind_eq_error.1 hrest with hnonnull | ⟨_, -, hreturn⟩
    · exact requireNonNull_eq_error hkey hnonnull
    · cases hreturn

theorem exists_validate_eq_error (h : ¬self.Valid records) :
    ∃ message, self.validate records = .error ⟨.recordValidationError, message⟩ := by
  cases hvalidate : self.validate records with
  | ok records' => exact absurd (validate_eq_ok.1 hvalidate).2 h
  | error e =>
    obtain ⟨cls, message⟩ := e
    obtain rfl : cls = .recordValidationError := validate_eq_error hvalidate
    exact ⟨message, rfl⟩

end InventoryDomainMixin

end Validation

/-! ### The first invalid chunk -/

section Stream

variable [IdentifierTables] {self : InventoryDomainMixin} {frames : List DataFrame}

namespace InventoryDomainMixin

/-- A fold over validated chunks that succeeds has seen valid chunks only. -/
theorem valid_of_foldlM {seen seen' : Seen}
    (h : (self.validatedChunks (frames.map .ok)).foldlM (recordChunk self.dedupeKey) seen =
      .ok seen') : ∀ df ∈ frames, self.Valid df := by
  intro df hdf
  -- each chunk was validated by a pass of the loop that succeeded
  have hmem : self.validate df ∈ self.validatedChunks (frames.map .ok) :=
    List.mem_map_of_mem (f := fun chunk => chunk.bind self.validate)
      (List.mem_map_of_mem (f := Except.ok) hdf)
  obtain ⟨u, v, hstep⟩ := Except.exists_ok_of_foldlM h _ hmem
  obtain ⟨df', hvalid, -⟩ := Except.bind_eq_ok.1 hstep
  exact (validate_eq_ok.1 hvalid).2

/-- A chunk that the loop fails at is invalid, if its columns are plain. -/
theorem not_valid_of_recordChunk {df : DataFrame} (hplain : PlainColumns df.columns) {seen : Seen}
    {e : PyException} (h : recordChunk self.dedupeKey seen (self.validate df) = .error e) :
    ¬self.Valid df ∧ self.validate df = .error e := by
  rcases Except.bind_eq_error.1 h with hvalidate | ⟨df', hvalidate, hrest⟩
  · refine ⟨fun hvalid => ?_, hvalidate⟩
    rw [validate_eq_ok.2 ⟨rfl, hvalid⟩] at hvalidate
    cases hvalidate
  · -- a valid chunk with plain columns is recorded without failing
    obtain ⟨rfl, hvalid⟩ := validate_eq_ok.1 hvalidate
    have hrecord := recordChunk_eq_ok (fun row hrow =>
      exists_cell_of_mem (hvalid.readable hplain) hrow) seen
    cases hrecord.symm.trans hrest

/-- If some chunk is invalid, loading raises at the first such chunk, and has pulled the chunks up
to and including it. -/
theorem exists_first_invalid {read : ℤ → Except PyException (List (Except PyException DataFrame))}
    (hsource : self.source = .chunked read) (hread : read self.chunksize = .ok (frames.map .ok))
    (hplain : ∀ df ∈ frames, PlainColumns df.columns) (hinvalid : ¬∀ df ∈ frames, self.Valid df) :
    ∃ p df q message, frames = p ++ df :: q ∧ (∀ d ∈ p, self.Valid d) ∧ ¬self.Valid df ∧
      self.loadRecords = .error ⟨.recordValidationError, message⟩ ∧
      self.pulledChunks = p.length + 1 := by
  cases hfold : (self.validatedChunks (frames.map .ok)).foldlM (recordChunk self.dedupeKey)
      ⟨none, InsertionDict.empty⟩ with
  | ok seen => exact absurd (valid_of_foldlM hfold) hinvalid
  | error e =>
    obtain ⟨before, chunk, after, seen, hsplit, hbefore, hchunk, htaken⟩ :=
      Except.exists_split_of_foldlM hfold
    -- the split of the validated chunks is a split of the frames
    rw [validatedChunks, List.map_map] at hsplit
    obtain ⟨p, rest, rfl, rfl, hrest⟩ := List.map_eq_append_iff.1 hsplit
    obtain ⟨df, q, rfl, rfl, rfl⟩ := List.map_eq_cons_iff.1 hrest
    have hdf : df ∈ p ++ df :: q := List.mem_append_right p List.mem_cons_self
    obtain ⟨hnot, hvalidate⟩ := not_valid_of_recordChunk (hplain df hdf) hchunk
    obtain ⟨cls, message⟩ := e
    obtain rfl : cls = .recordValidationError := validate_eq_error hvalidate
    -- loading raises what the loop did
    have hload : self.loadRecords = .error ⟨.recordValidationError, message⟩ := by
      rw [loadRecords, hsource]
      change Except.bind (read self.chunksize) _ = _
      rw [hread]
      change dedupeLastSeenChunks (self.validatedChunks _) self.dedupeKey = _
      exact Except.bind_eq_error.2 (.inl hfold)
    have hpulled : self.pulledChunks = p.length + 1 := by
      rw [pulledChunks, hsource]
      simp only [hread]
      rw [htaken, List.length_map]
    rw [← List.map_map] at hbefore
    exact ⟨p, df, q, message, rfl, valid_of_foldlM hbefore, hnot, hload, hpulled⟩

end InventoryDomainMixin

end Stream

/-! ### Chunk-wise and whole-feed validation -/

section Agree

variable {mixin : InventoryDomainMixin} {columns : List String} {frames : List DataFrame}

/-- Whether a frame is valid does not depend on the source. -/
theorem InventoryDomainMixin.valid_source_iff {source : RecordSource} {df : DataFrame} :
    { mixin with source }.Valid df ↔ mixin.Valid df :=
  ⟨fun h => ⟨h.1, h.2⟩, fun h => ⟨h.1, h.2⟩⟩

/-- A concatenation is valid exactly when all its parts are. -/
theorem valid_concat_iff (hne : frames ≠ []) (hcolumns : ∀ df ∈ frames, df.columns = columns) :
    mixin.Valid (concat columns frames hcolumns) ↔ ∀ df ∈ frames, mixin.Valid df := by
  refine ⟨fun h df hdf => ⟨fun name hname => ?_, fun row hrow value hvalue => ?_⟩,
    valid_concat hcolumns hne⟩
  · -- a part has the labels of the whole, and its rows are rows of the whole
    rw [hcolumns df hdf]
    exact h.columns_mem name hname
  · rw [hcolumns df hdf] at hvalue
    exact h.not_blank row (List.mem_flatMap.2 ⟨df, hdf, hrow⟩) value hvalue

variable [IdentifierTables]

/-- Loading an invalid frame from a one-shot source raises `RecordValidationError`. -/
theorem loadRecords_oneShot_invalid {df : DataFrame} (hsource : mixin.source = .oneShot (.ok df))
    (h : ¬mixin.Valid df) :
    ∃ message, mixin.loadRecords = .error ⟨.recordValidationError, message⟩ := by
  obtain ⟨message, hvalidate⟩ := InventoryDomainMixin.exists_validate_eq_error h
  refine ⟨message, ?_⟩
  rw [InventoryDomainMixin.loadRecords, hsource]
  change Except.bind (mixin.validate df) _ = _
  rw [hvalidate]
  rfl

/-- The records have the columns of the feed. -/
theorem columns_of_loadRecords {records : DataFrame} (h : mixin.loadRecords = .ok records)
    (hdelivers : mixin.source.Delivers mixin.chunksize frames) (hne : frames ≠ [])
    (hcolumns : ∀ df ∈ frames, df.columns = columns) (hplain : PlainColumns columns) :
    records.columns = columns := by
  obtain ⟨frames', hdelivers', hvalid⟩ :=
    InventoryDomainMixin.exists_delivers_of_loadRecords h
  obtain rfl : frames = frames' := hdelivers.unique hdelivers'
  cases hsource : mixin.source with
  | oneShot readRecords =>
    simp only [RecordSource.Delivers, hsource] at hdelivers
    obtain ⟨df, rfl, rfl⟩ := hdelivers
    have hdf : df.columns = columns := hcolumns df List.mem_cons_self
    obtain ⟨records', hok, hcols, -⟩ := InventoryDomainMixin.loadRecords_oneShot hsource
      (hvalid df List.mem_cons_self) (hdf ▸ hplain)
    obtain rfl : records = records' := Except.ok.inj (h.symm.trans hok)
    exact hcols.trans hdf
  | chunked read =>
    simp only [RecordSource.Delivers, hsource] at hdelivers
    obtain ⟨records', hok, hcols, -⟩ :=
      InventoryDomainMixin.loadRecords_chunked hsource hdelivers hvalid hne hcolumns hplain
    obtain rfl : records = records' := Except.ok.inj (h.symm.trans hok)
    exact hcols

/-- The key of every loaded row is neither missing nor blank. -/
theorem not_blank_of_loadRecords {records : DataFrame} (h : mixin.loadRecords = .ok records)
    (hdelivers : mixin.source.Delivers mixin.chunksize frames) (hne : frames ≠ [])
    (hcolumns : ∀ df ∈ frames, df.columns = columns) (hplain : PlainColumns columns) :
    ∀ row ∈ records.rows, ∃ value, cell records.columns row mixin.dedupeKey = some value ∧
      value.isna = false ∧ strip value.text ≠ "" := by
  obtain ⟨frames', hdelivers', hvalid⟩ :=
    InventoryDomainMixin.exists_delivers_of_loadRecords h
  obtain rfl : frames = frames' := hdelivers.unique hdelivers'
  intro row hrow
  rw [columns_of_loadRecords h hdelivers hne hcolumns hplain]
  rw [← DataFrame.map_values_itertuples] at hrow
  obtain ⟨tuple, htuple, rfl⟩ := List.mem_map.1 hrow
  -- the row is one of a valid chunk
  have hlatest := InventoryDomainMixin.loadRecords_latest h hdelivers hcolumns hplain
  obtain ⟨df, hdf, htuple⟩ := List.mem_flatMap.1 ((hlatest.1 tuple).1 htuple).mem
  have hvalues : tuple.values ∈ df.rows := (DataFrame.mem_itertuples.1 htuple).2
  have hkey : mixin.dedupeKey ∈ df.columns := (hvalid df hdf).columns_mem _ List.mem_cons_self
  obtain ⟨value, -, hcell⟩ := exists_cell (df.rectangular _ hvalues) hkey
  have hblank : isBlank value = false := (hvalid df hdf).not_blank _ hvalues value hcell
  rw [isBlank, Bool.or_eq_false_iff, beq_eq_false_iff_ne] at hblank
  exact ⟨value, hcolumns df hdf ▸ hcell, hblank⟩

/-- Over chunks with the same plain columns, loading them one by one is rejected exactly when
loading their concatenation is; a rejected stream is read up to its first invalid chunk; and the
rows of an accepted feed have keys that are neither missing nor blank. -/
theorem loadRecords_validation_agrees (hne : frames ≠ [])
    (hcolumns : ∀ df ∈ frames, df.columns = columns) (hplain : PlainColumns columns) :
    let chunked := { mixin with source := .chunked fun _ => .ok (frames.map .ok) }
    let whole := { mixin with source := .oneShot (.ok (concat columns frames hcolumns)) }
    ((∃ message, chunked.loadRecords = .error ⟨.recordValidationError, message⟩) ↔
      ∃ message, whole.loadRecords = .error ⟨.recordValidationError, message⟩) ∧
    (∀ e, chunked.loadRecords = .error e → e.cls = .recordValidationError ∧
      ∃ p df q, frames = p ++ df :: q ∧ (∀ d ∈ p, mixin.Valid d) ∧ ¬mixin.Valid df ∧
        chunked.pulledChunks = p.length + 1) ∧
    (∀ records, chunked.loadRecords = .ok records ∨ whole.loadRecords = .ok records →
      ∀ row ∈ records.rows, ∃ value, cell records.columns row mixin.dedupeKey = some value ∧
        value.isna = false ∧ strip value.text ≠ "") := by
  intro chunked whole
  have hchunked : chunked.source = .chunked fun _ => .ok (frames.map .ok) := rfl
  have hwhole : whole.source = .oneShot (.ok (concat columns frames hcolumns)) := rfl
  have hplains : ∀ df ∈ frames, PlainColumns df.columns := fun df hdf => hcolumns df hdf ▸ hplain
  have hsame : (∀ df ∈ frames, chunked.Valid df) ↔ ∀ df ∈ frames, mixin.Valid df :=
    forall₂_congr fun _ _ => InventoryDomainMixin.valid_source_iff
  have hconcat : whole.Valid (concat columns frames hcolumns) ↔ ∀ df ∈ frames, chunked.Valid df :=
    InventoryDomainMixin.valid_source_iff.trans ((valid_concat_iff hne hcolumns).trans hsame.symm)
  refine ⟨?_, ?_, ?_⟩
  · by_cases hvalid : ∀ df ∈ frames, chunked.Valid df
    · -- every chunk is valid, and so is their concatenation: both are accepted
      obtain ⟨records, hok, -⟩ :=
        InventoryDomainMixin.loadRecords_chunked hchunked rfl hvalid hne hcolumns hplain
      obtain ⟨records', hok', -⟩ :=
        InventoryDomainMixin.loadRecords_oneShot hwhole (hconcat.2 hvalid) hplain
      rw [hok, hok']
      simp
    · -- some chunk is invalid, and so is the concatenation: both are rejected
      obtain ⟨p, df, q, message, -, -, -, herror, -⟩ :=
        InventoryDomainMixin.exists_first_invalid hchunked rfl hplains hvalid
      have hnot : ¬whole.Valid (concat columns frames hcolumns) := fun h => hvalid (hconcat.1 h)
      obtain ⟨message', herror'⟩ := loadRecords_oneShot_invalid hwhole hnot
      exact ⟨fun _ => ⟨message', herror'⟩, fun _ => ⟨message, herror⟩⟩
  · -- a feed that was rejected has an invalid chunk
    intro e he
    by_cases hvalid : ∀ df ∈ frames, chunked.Valid df
    · obtain ⟨records, hok, -⟩ :=
        InventoryDomainMixin.loadRecords_chunked hchunked rfl hvalid hne hcolumns hplain
      cases hok.symm.trans he
    · obtain ⟨p, df, q, message, hsplit, hbefore, hnot, herror, hpulled⟩ :=
        InventoryDomainMixin.exists_first_invalid hchunked rfl hplains hvalid
      obtain rfl := Except.error.inj (herror.symm.trans he)
      exact ⟨rfl, p, df, q, hsplit, fun d hd =>
        InventoryDomainMixin.valid_source_iff.1 (hbefore d hd),
        fun h => hnot (InventoryDomainMixin.valid_source_iff.2 h), hpulled⟩
  · rintro records (hok | hok)
    · have hdelivers : chunked.source.Delivers chunked.chunksize frames := rfl
      have hkeys := not_blank_of_loadRecords hok hdelivers hne hcolumns hplain
      exact hkeys
    · -- the concatenation is a feed of one chunk
      have hdelivers : whole.source.Delivers whole.chunksize [concat columns frames hcolumns] :=
        ⟨_, rfl, rfl⟩
      have hkeys := not_blank_of_loadRecords hok hdelivers (List.cons_ne_nil _ _)
        (fun df hdf => List.mem_singleton.1 hdf ▸ rfl) hplain
      exact hkeys

end Agree

/-! ### A feed with a blank key in its second chunk -/

/-- Three chunks, the second of which has a row without a key. -/
def blankKeyChunks : List DataFrame :=
  [[("A", "bolt", 1)], [("B", "nut", 2), (" ", "washer", 3)], [("C", "cap", 4)]].map inventoryFrame

/-- Both ways of loading the feed reject it, and the third chunk is never read. -/
theorem loadRecords_validation_agrees_blankKey :
    ((∃ message, @InventoryDomainMixin.loadRecords
        (shippedMixin (.chunked fun _ => .ok (blankKeyChunks.map .ok))) asciiTables =
          .error ⟨.recordValidationError, message⟩) ↔
      ∃ message, @InventoryDomainMixin.loadRecords
        (shippedMixin (.oneShot (.ok (concat ["sku_id", "item_name", "unit_price"] blankKeyChunks
          columns_inventoryFrame)))) asciiTables = .error ⟨.recordValidationError, message⟩) ∧
    @InventoryDomainMixin.pulledChunks asciiTables
      (shippedMixin (.chunked fun _ => .ok (blankKeyChunks.map .ok))) = 2 :=
  ⟨(@loadRecords_validation_agrees (shippedMixin (.chunked fun _ => .ok [])) _ blankKeyChunks
    asciiTables (List.cons_ne_nil _ _) columns_inventoryFrame plainColumns_inventoryFrame).1, rfl⟩

end Ingest
