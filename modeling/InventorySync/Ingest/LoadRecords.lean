import InventorySync.Ingest.Dedupe
import InventorySync.Ingest.Validation

/-!
# Loading the records of a run

`InventoryDomainMixin`: read the source feed, validate it, and collapse it to the last-seen row of
each key. A source either delivers one frame or streams chunks.

* `exists_delivers_of_loadRecords`: an accepted feed was delivered without failing, and every frame
  of it is valid;
* `loadRecords_latest`: for either kind of source, the records of a run are the latest rows of the
  feed, one for each key.
-/

open Python Pandas

namespace Ingest

/-- A component supplying raw records. Reading may raise, and so may reading any chunk. -/
inductive RecordSource
  /-- A source with `read_records` only. -/
  | oneShot (readRecords : Except PyException DataFrame)
  /-- A source that also satisfies `ChunkedRecordSource`. -/
  | chunked (readRecordChunks : ℤ → Except PyException (List (Except PyException DataFrame)))

/-- The source feed of a run and its business-key column. -/
structure InventoryDomainMixin where
  source : RecordSource
  dedupeKey : String := "sku_id"
  chunksize : ℤ := 10000
  requiredColumns : List String := ["item_name", "unit_price"]

namespace InventoryDomainMixin

variable (self : InventoryDomainMixin)

/-- Check one batch of raw records against this run's schema. -/
def validate (records : DataFrame) : Except PyException DataFrame := do
  requireColumns records (self.dedupeKey :: self.requiredColumns)
  requireNonNull records self.dedupeKey
  return records

/-- Validate each chunk of a chunked read as it arrives. -/
def validatedChunks (chunks : List (Except PyException DataFrame)) :
    List (Except PyException DataFrame) :=
  chunks.map fun chunk => chunk.bind self.validate

/-- Read this run's source feed and collapse duplicate SKU rows. -/
def loadRecords [IdentifierTables] : Except PyException DataFrame :=
  -- `isinstance(self.source, ChunkedRecordSource)`
  match self.source with
  | .chunked readRecordChunks => do
    let chunks ← readRecordChunks self.chunksize
    dedupeLastSeenChunks (self.validatedChunks chunks) self.dedupeKey
  | .oneShot readRecords => do
    let records ← readRecords
    let records ← self.validate records
    dedupeLastSeen records self.dedupeKey

end InventoryDomainMixin

/-- What `validate` requires of a frame. -/
structure InventoryDomainMixin.Valid (mixin : InventoryDomainMixin) (records : DataFrame) :
    Prop where
  columns_mem : ∀ name ∈ mixin.dedupeKey :: mixin.requiredColumns, name ∈ records.columns
  not_blank : ∀ row ∈ records.rows, ∀ value,
    cell records.columns row mixin.dedupeKey = some value → isBlank value = false

namespace InventoryDomainMixin

variable {self : InventoryDomainMixin}

/-- Validation returns the frame it was given, and only if the frame is valid. -/
theorem validate_eq_ok {records records' : DataFrame} :
    self.validate records = .ok records' ↔ records' = records ∧ self.Valid records := by
  change Except.bind _ (fun _ => Except.bind _ fun _ => Except.ok records) = _ ↔ _
  simp only [Except.bind_eq_ok]
  constructor
  · rintro ⟨⟨⟩, hrequired, ⟨⟩, hnonnull, heq⟩
    have hcolumns := requireColumns_eq_ok.1 hrequired
    have hkey := hcolumns self.dedupeKey List.mem_cons_self
    exact ⟨(Except.ok.inj heq).symm, hcolumns, (requireNonNull_eq_ok hkey).1 hnonnull⟩
  · rintro ⟨rfl, hcolumns, hblank⟩
    have hkey := hcolumns self.dedupeKey List.mem_cons_self
    exact ⟨(), requireColumns_eq_ok.2 hcolumns, (), (requireNonNull_eq_ok hkey).2 hblank, rfl⟩

end InventoryDomainMixin

/-- The source delivers these frames, in order, and nothing fails. -/
def RecordSource.Delivers (source : RecordSource) (chunksize : ℤ) (frames : List DataFrame) :
    Prop :=
  match source with
  | .oneShot readRecords => ∃ df, readRecords = .ok df ∧ frames = [df]
  | .chunked readRecordChunks => readRecordChunks chunksize = .ok (frames.map .ok)

/-- What a source delivers is determined by the source. -/
theorem RecordSource.Delivers.unique {source : RecordSource} {chunksize : ℤ}
    {frames frames' : List DataFrame} (h : source.Delivers chunksize frames)
    (h' : source.Delivers chunksize frames') : frames = frames' := by
  cases source with
  | oneShot readRecords =>
    obtain ⟨df, rfl, rfl⟩ := h
    obtain ⟨df', hdf', rfl⟩ := h'
    rw [Except.ok.inj hdf']
  | chunked read =>
    have hmap : frames.map Except.ok = frames'.map (Except.ok (ε := PyException)) :=
      Except.ok.inj (Eq.trans (Eq.symm h) h')
    exact List.map_injective_iff.2 (fun a b hab => Except.ok.inj hab) hmap

theorem exists_map_ok {chunks : List (Except PyException DataFrame)}
    (h : ∀ chunk ∈ chunks, ∃ df, chunk = .ok df) :
    ∃ frames : List DataFrame, chunks = frames.map .ok := by
  induction chunks with
  | nil => exact ⟨[], rfl⟩
  | cons chunk chunks ih =>
    obtain ⟨df, rfl⟩ := h chunk List.mem_cons_self
    obtain ⟨frames, rfl⟩ := ih fun c hc => h c (List.mem_cons_of_mem _ hc)
    exact ⟨df :: frames, rfl⟩

namespace InventoryDomainMixin

variable {self : InventoryDomainMixin}

/-- Valid chunks pass validation unchanged. -/
theorem validatedChunks_map_ok {frames : List DataFrame} (h : ∀ df ∈ frames, self.Valid df) :
    self.validatedChunks (frames.map .ok) = frames.map .ok := by
  rw [validatedChunks, List.map_map]
  apply List.map_congr_left
  intro df hdf
  exact validate_eq_ok.2 ⟨rfl, h df hdf⟩

variable [IdentifierTables]

theorem Valid.readable {records : DataFrame} (h : self.Valid records)
    (hplain : PlainColumns records.columns) : Readable records.columns self.dedupeKey :=
  ⟨hplain, h.columns_mem _ List.mem_cons_self⟩

/-- An accepted feed was delivered without failing, and every frame of it is valid. -/
theorem exists_delivers_of_loadRecords {records : DataFrame} (h : self.loadRecords = .ok records) :
    ∃ frames, self.source.Delivers self.chunksize frames ∧ ∀ df ∈ frames, self.Valid df := by
  unfold loadRecords at h
  split at h
  next readRecordChunks hsource =>
    obtain ⟨chunks, hread, hdedupe⟩ := Except.bind_eq_ok.1 h
    obtain ⟨seen, hfold, -⟩ := Except.bind_eq_ok.1 hdedupe
    -- the fold went past each chunk, so it was read and passed validation
    have hall : ∀ chunk ∈ chunks, ∃ df, chunk = .ok df ∧ self.Valid df := by
      intro chunk hchunk
      obtain ⟨u, v, hstep⟩ := Except.exists_ok_of_foldlM hfold _ (List.mem_map_of_mem hchunk)
      obtain ⟨df', hvalid, -⟩ := Except.bind_eq_ok.1 hstep
      obtain ⟨df, rfl, hvalid⟩ := Except.bind_eq_ok.1 hvalid
      exact ⟨df, rfl, (validate_eq_ok.1 hvalid).2⟩
    obtain ⟨frames, rfl⟩ := exists_map_ok fun c hc => (hall c hc).imp fun df hdf => hdf.1
    refine ⟨frames, by simpa only [RecordSource.Delivers, hsource] using hread, fun df hdf => ?_⟩
    obtain ⟨df', heq, hvalid⟩ := hall (.ok df) (List.mem_map_of_mem hdf)
    exact Except.ok.inj heq ▸ hvalid
  next readRecords hsource =>
    obtain ⟨df, hread, hrest⟩ := Except.bind_eq_ok.1 h
    obtain ⟨df', hvalid, -⟩ := Except.bind_eq_ok.1 hrest
    refine ⟨[df], ?_, ?_⟩
    · simp only [RecordSource.Delivers, hsource]
      exact ⟨df, hread, rfl⟩
    · intro d hd
      exact List.mem_singleton.1 hd ▸ (validate_eq_ok.1 hvalid).2

variable {frames : List DataFrame} {columns : List String}

/-- The chunked path over valid frames. -/
theorem loadRecords_eq_dedupeLastSeenChunks
    {read : ℤ → Except PyException (List (Except PyException DataFrame))}
    (hsource : self.source = .chunked read) (hread : read self.chunksize = .ok (frames.map .ok))
    (hvalid : ∀ df ∈ frames, self.Valid df) :
    self.loadRecords = dedupeLastSeenChunks (frames.map .ok) self.dedupeKey := by
  rw [loadRecords, hsource]
  change Except.bind (read self.chunksize) _ = _
  rw [hread, Except.bind, validatedChunks_map_ok hvalid]

/-- If the chunked path returns, it has read the key of every row. -/
theorem getattr_of_loadRecords {records : DataFrame}
    {read : ℤ → Except PyException (List (Except PyException DataFrame))}
    (hsource : self.source = .chunked read) (hread : read self.chunksize = .ok (frames.map .ok))
    (h : self.loadRecords = .ok records) :
    ∀ row ∈ feedRows frames, ∃ value, row.getattr self.dedupeKey = .ok value := by
  intro row hrow
  obtain ⟨df, hdf, hrow⟩ := List.mem_flatMap.1 hrow
  rw [loadRecords, hsource] at h
  change Except.bind (read self.chunksize) _ = _ at h
  rw [hread, Except.bind] at h
  obtain ⟨seen, hfold, -⟩ := Except.bind_eq_ok.1 h
  -- the outer fold went past the chunk of `row`, and the inner one past `row` itself
  have hmem : (Except.ok df).bind self.validate ∈ self.validatedChunks (frames.map .ok) :=
    List.mem_map_of_mem (List.mem_map_of_mem hdf)
  obtain ⟨u, v, hstep⟩ := Except.exists_ok_of_foldlM hfold _ hmem
  obtain ⟨df', hvalid, hrows⟩ := Except.bind_eq_ok.1 hstep
  obtain ⟨rfl, -⟩ := validate_eq_ok.1 hvalid
  obtain ⟨latest, hlatest, -⟩ := Except.bind_eq_ok.1 hrows
  obtain ⟨d, d', hrecord⟩ := Except.exists_ok_of_foldlM hlatest row hrow
  obtain ⟨value, hvalue, -⟩ := Except.bind_eq_ok.1 hrecord
  exact ⟨value, hvalue⟩

/-- The chunked path over valid frames with the same plain labels. -/
theorem loadRecords_chunked {read : ℤ → Except PyException (List (Except PyException DataFrame))}
    (hsource : self.source = .chunked read) (hread : read self.chunksize = .ok (frames.map .ok))
    (hvalid : ∀ df ∈ frames, self.Valid df) (hne : frames ≠ [])
    (hcolumns : ∀ df ∈ frames, df.columns = columns) (hplain : PlainColumns columns) :
    ∃ records, self.loadRecords = .ok records ∧ records.columns = columns ∧
      records.itertuples = Recency.collect (rowKey self.dedupeKey) (feedRows frames) := by
  obtain ⟨df, hdf⟩ := List.exists_mem_of_ne_nil frames hne
  have hkey : self.dedupeKey ∈ columns :=
    hcolumns df hdf ▸ (hvalid df hdf).columns_mem _ List.mem_cons_self
  rw [loadRecords_eq_dedupeLastSeenChunks hsource hread hvalid]
  exact dedupeLastSeenChunks_eq_ok hne hcolumns ⟨hplain, hkey⟩

/-- The one-shot path over a valid frame with plain labels. -/
theorem loadRecords_oneShot {df : DataFrame} (hsource : self.source = .oneShot (.ok df))
    (hvalid : self.Valid df) (hplain : PlainColumns df.columns) :
    ∃ records, self.loadRecords = .ok records ∧ records.columns = df.columns ∧
      records.itertuples = Recency.keepLast (rowKey self.dedupeKey) df.itertuples := by
  obtain ⟨records, hok, hcols, hrows⟩ := dedupeLastSeen_eq_ok (hvalid.readable hplain)
  refine ⟨records, ?_, hcols, hrows⟩
  rw [loadRecords, hsource]
  change Except.bind (self.validate df) _ = _
  rw [validate_eq_ok.2 ⟨rfl, hvalid⟩]
  exact hok

/-- The records of a run are the latest rows of its feed, one for each key. -/
theorem loadRecords_latest {records : DataFrame} (h : self.loadRecords = .ok records)
    (hdelivers : self.source.Delivers self.chunksize frames)
    (hcolumns : ∀ df ∈ frames, df.columns = columns) (hplain : PlainColumns columns) :
    (∀ row, row ∈ records.itertuples ↔
        Recency.IsLatest (rowKey self.dedupeKey) (feedRows frames) row) ∧
      (records.itertuples.map (rowKey self.dedupeKey)).Nodup := by
  obtain ⟨frames', hdelivers', hvalid⟩ := exists_delivers_of_loadRecords h
  obtain rfl : frames = frames' := hdelivers.unique hdelivers'
  cases hsource : self.source with
  | oneShot readRecords =>
    simp only [RecordSource.Delivers, hsource] at hdelivers
    obtain ⟨df, rfl, rfl⟩ := hdelivers
    have hdf : df.columns = columns := hcolumns df List.mem_cons_self
    obtain ⟨records', hok, -, hrows⟩ :=
      loadRecords_oneShot hsource (hvalid df List.mem_cons_self) (hdf ▸ hplain)
    obtain rfl : records = records' := Except.ok.inj (h.symm.trans hok)
    have hfeed : feedRows [df] = df.itertuples := by simp [feedRows]
    rw [hrows, hfeed]
    exact ⟨fun row => Recency.mem_keepLast, Recency.nodup_keepLast _⟩
  | chunked read =>
    simp only [RecordSource.Delivers, hsource] at hdelivers
    by_cases hne : frames = []
    · -- no chunk at all: the records are an empty frame without columns
      subst hne
      have hempty : self.loadRecords = .ok (DataFrame.ofColumns []) := by
        rw [loadRecords, hsource]
        change Except.bind (read self.chunksize) _ = _
        rw [hdelivers]
        rfl
      obtain rfl : records = DataFrame.ofColumns [] := Except.ok.inj (h.symm.trans hempty)
      have hnone : (DataFrame.ofColumns []).itertuples = [] := rfl
      rw [hnone]
      refine ⟨fun row => ?_, List.nodup_nil⟩
      simpa [feedRows] using Recency.not_isLatest_nil row
    · obtain ⟨records', hok, -, hrows⟩ :=
        loadRecords_chunked hsource hdelivers hvalid hne hcolumns hplain
      obtain rfl : records = records' := Except.ok.inj (h.symm.trans hok)
      rw [hrows]
      exact ⟨fun row => Recency.mem_collect, Recency.nodup_collect _⟩

end InventoryDomainMixin

end Ingest
