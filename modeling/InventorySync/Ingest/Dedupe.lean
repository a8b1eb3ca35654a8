import InventorySync.Foundations.Except
import InventorySync.Pandas.DataFrame

/-!
# Dedup to the last-seen row of each key

`dedupe_last_seen` over one frame and `dedupe_last_seen_chunks` over a stream of frames. Under
plain column labels the first is `Recency.keepLast` on the rows (`dedupeLastSeen_eq_ok`) and
the second is `Recency.collect` on them (`dedupeLastSeenChunks_eq_ok`), so both keep the same
rows.
-/

open Python Pandas

namespace Ingest

/-- `records.drop_duplicates(subset=key, keep="last")` -/
def dedupeLastSeen (records : DataFrame) (key : String) : Except PyException DataFrame :=
  records.dropDuplicatesLast key

/-- The local variables of `dedupe_last_seen_chunks`. -/
structure Seen where
  columns : Option (List String)
  latestByKey : InsertionDict PyValue.HashKey NamedTuple

/-- `latest_by_key[getattr(row, key)] = row` -/
def recordRow (key : String) (latest : InsertionDict PyValue.HashKey NamedTuple)
    (row : NamedTuple) : Except PyException (InsertionDict PyValue.HashKey NamedTuple) := do
  let value ← row.getattr key
  -- an entry that is there keeps its place
  return latest.set value.hashKey row

/-- One pass of the loop over `chunks`, where reading the chunk may itself raise. -/
def recordChunk [IdentifierTables] (key : String) (seen : Seen)
    (chunk : Except PyException DataFrame) : Except PyException Seen := do
  let chunk ← chunk
  let latest ← chunk.itertuples.foldlM (recordRow key) seen.latestByKey
  -- `if columns is None: columns = list(chunk.columns)`
  return ⟨some (seen.columns.getD chunk.columns), latest⟩

/-- Collapse duplicate rows to their last-seen value across many chunks. -/
def dedupeLastSeenChunks [IdentifierTables] (chunks : List (Except PyException DataFrame))
    (key : String) : Except PyException DataFrame := do
  let seen ← chunks.foldlM (recordChunk key) ⟨none, InsertionDict.empty⟩
  if seen.latestByKey.entries.isEmpty then
    return DataFrame.ofColumns (seen.columns.getD [])
  else
    DataFrame.ofNamedTuples seen.latestByKey.values

/-! ### The rows a dedup files -/

/-- The key that dedup files a row under. -/
def rowKey (key : String) (row : NamedTuple) : PyValue.HashKey :=
  ((cell row.fields row.values key).map PyValue.hashKey).getD .none

/-- Overwrite the entry of the row's key. -/
def fileRow (key : String) (latest : InsertionDict PyValue.HashKey NamedTuple)
    (row : NamedTuple) : InsertionDict PyValue.HashKey NamedTuple :=
  latest.set (rowKey key row) row

theorem recordRow_eq_ok {key : String} {row : NamedTuple} {value : PyValue}
    (h : cell row.fields row.values key = some value)
    (latest : InsertionDict PyValue.HashKey NamedTuple) :
    recordRow key latest row = .ok (fileRow key latest row) := by
  rw [recordRow, NamedTuple.getattr_eq_ok h, fileRow, rowKey, h]
  rfl

/-- Filing rows in order leaves the last row of each key, in first-occurrence order. -/
theorem values_foldl_fileRow (key : String) (rows : List NamedTuple) :
    (rows.foldl (fileRow key) InsertionDict.empty).values = Recency.collect (rowKey key) rows := by
  rw [Recency.collect, InsertionDict.ofPairs, List.foldl_map]
  rfl

/-- The labels of a feed: those of its first chunk. -/
def feedColumns (frames : List DataFrame) : List String :=
  (frames.head?.map DataFrame.columns).getD []

theorem feedColumns_of_ne_nil {frames : List DataFrame} {columns : List String}
    (hne : frames ≠ []) (hcolumns : ∀ df ∈ frames, df.columns = columns) :
    feedColumns frames = columns := by
  cases frames with
  | nil => exact absurd rfl hne
  | cons df frames => exact hcolumns df List.mem_cons_self

/-- The labels recorded at the first chunk stay. -/
theorem getD_foldl_columns (frames : List DataFrame) :
    (frames.foldl (fun columns df => some (columns.getD df.columns)) none).getD [] =
      feedColumns frames := by
  have hsome : ∀ columns, frames.foldl (fun columns df => some (columns.getD df.columns))
      (some columns) = some columns := by
    intro columns
    induction frames with
    | nil => rfl
    | cons df frames ih => exact ih
  cases frames with
  | nil => rfl
  | cons df frames =>
    rw [List.foldl_cons, Option.getD_none]
    exact congrArg (Option.getD · []) (hsome df.columns)

/-! ### What the two functions keep -/

section Kept

variable [IdentifierTables] {key : String}

/-- Plain labels, one of which is the key column. -/
structure Readable (columns : List String) (key : String) : Prop where
  plain : PlainColumns columns
  key_mem : key ∈ columns

/-- The rows of a feed, in file order. -/
def feedRows (frames : List DataFrame) : List NamedTuple := frames.flatMap DataFrame.itertuples

theorem fields_of_mem {df : DataFrame} (hplain : PlainColumns df.columns) {row : NamedTuple}
    (hrow : row ∈ df.itertuples) : row.fields = df.columns := by
  rw [(DataFrame.mem_itertuples.1 hrow).1, renameFields_of_plain hplain]

theorem exists_cell_of_mem {df : DataFrame} (h : Readable df.columns key) {row : NamedTuple}
    (hrow : row ∈ df.itertuples) : ∃ value, cell row.fields row.values key = some value := by
  obtain ⟨value, -, hcell, -⟩ := DataFrame.getattr_itertuple h.plain hrow h.key_mem
  exact ⟨value, fields_of_mem h.plain hrow ▸ hcell⟩

/-- Under plain labels, a frame is determined by its rows. -/
theorem itertuples_eq {df : DataFrame} {rows : List NamedTuple} (hplain : PlainColumns df.columns)
    (hfields : ∀ row ∈ rows, row.fields = df.columns)
    (hrows : df.rows = rows.map NamedTuple.values) :
    df.itertuples = rows := by
  have hvalues : df.itertuples.map NamedTuple.values = rows.map NamedTuple.values := by
    rw [DataFrame.map_values_itertuples, hrows]
  refine List.ext_getElem (by simpa using congrArg List.length hvalues) fun i hi hi' => ?_
  refine NamedTuple.ext' ?_ ?_
  · rw [fields_of_mem hplain (List.getElem_mem hi), hfields _ (List.getElem_mem hi')]
  · have hi'' : i < (df.itertuples.map NamedTuple.values).length := by simpa using hi
    simpa using List.getElem_of_eq hvalues hi''

/-- Deduplicating one frame keeps its latest rows, in last-occurrence order. -/
theorem dedupeLastSeen_eq_ok {df : DataFrame} (h : Readable df.columns key) :
    ∃ records, dedupeLastSeen df key = .ok records ∧ records.columns = df.columns ∧
      records.itertuples = Recency.keepLast (rowKey key) df.itertuples := by
  have hmem : df.columns.contains key = true := by simpa using h.key_mem
  rw [dedupeLastSeen, DataFrame.dropDuplicatesLast, if_pos hmem]
  refine ⟨_, rfl, rfl, itertuples_eq h.plain (fun row hrow => ?_) ?_⟩
  · exact fields_of_mem h.plain (Recency.mem_keepLast.1 hrow).mem
  · change Recency.keepLast (DataFrame.rowKey key df.columns) df.rows = _
    rw [← DataFrame.map_values_itertuples, Recency.keepLast_map]
    refine congrArg _ (Recency.keepLast_congr fun row hrow => ?_)
    rw [DataFrame.rowKey, rowKey, fields_of_mem h.plain hrow]

theorem recordChunk_eq_ok {df : DataFrame}
    (h : ∀ row ∈ df.itertuples, ∃ value, cell row.fields row.values key = some value)
    (seen : Seen) :
    recordChunk key seen (.ok df) =
      .ok ⟨some (seen.columns.getD df.columns),
        df.itertuples.foldl (fileRow key) seen.latestByKey⟩ := by
  have hrows : df.itertuples.foldlM (recordRow key) seen.latestByKey =
      .ok (df.itertuples.foldl (fileRow key) seen.latestByKey) := by
    apply Except.foldlM_eq_foldl _
    intro row hrow latest
    -- every row has a key cell, so filing it does not fail
    obtain ⟨value, hcell⟩ := h row hrow
    exact recordRow_eq_ok hcell latest
  change Except.bind (df.itertuples.foldlM (recordRow key) seen.latestByKey) _ = _
  rw [hrows]
  rfl

/-- The loop over chunks files all rows of the feed, in file order. -/
theorem foldlM_recordChunk {frames : List DataFrame}
    (h : ∀ row ∈ feedRows frames, ∃ value, cell row.fields row.values key = some value)
    (seen : Seen) :
    (frames.map Except.ok).foldlM (recordChunk key) seen =
      .ok ⟨frames.foldl (fun columns df => some (columns.getD df.columns)) seen.columns,
        (feedRows frames).foldl (fileRow key) seen.latestByKey⟩ := by
  induction frames generalizing seen with
  | nil => rfl
  | cons df frames ih =>
    have hsplit : feedRows (df :: frames) = df.itertuples ++ feedRows frames := by simp [feedRows]
    -- the rows of the first chunk are filed before those of the others
    rw [hsplit] at h ⊢
    rw [List.map_cons, Except.foldlM_cons_eq_ok]
    refine ⟨_, recordChunk_eq_ok (fun row hrow => h row (List.mem_append_left _ hrow)) seen, ?_⟩
    rw [ih fun row hrow => h row (List.mem_append_right _ hrow), List.foldl_append]
    rfl

/-- Deduplicating a stream of frames whose rows are equally wide and have a key cell keeps the
latest rows in first-occurrence order of their keys, under the fields of the first of them. -/
theorem exists_dedupeLastSeenChunks_of_width {frames : List DataFrame} {width : ℕ}
    (hwidth : ∀ row ∈ feedRows frames, row.fields.length = width)
    (h : ∀ row ∈ feedRows frames, ∃ value, cell row.fields row.values key = some value) :
    ∃ records, dedupeLastSeenChunks (frames.map .ok) key = .ok records ∧
      records.rows = (Recency.collect (rowKey key) (feedRows frames)).map NamedTuple.values ∧
      records.columns = ((Recency.collect (rowKey key) (feedRows frames)).head?.map
        NamedTuple.fields).getD (feedColumns frames) := by
  have hvalues := values_foldl_fileRow key (feedRows frames)
  change ∃ records, Except.bind _ _ = _ ∧ _
  rw [foldlM_recordChunk h, Except.bind]
  cases hfeed : feedRows frames with
  | nil =>
    -- no row at all: the frame has the labels seen and no rows
    exact ⟨_, rfl, rfl, getD_foldl_columns frames⟩
  | cons row rows =>
    rw [hfeed] at hvalues hwidth
    obtain ⟨first, rest, hsplit, -, -⟩ := Recency.exists_collect_cons (rowKey key) row rows
    rw [hsplit] at hvalues ⊢
    have hentries : ((row :: rows).foldl (fileRow key) InsertionDict.empty).entries ≠ [] := by
      intro hempty
      rw [InsertionDict.values, hempty] at hvalues
      cases hvalues
    -- every row kept is a row of the feed, and so as wide as the first
    have hkept : ∀ r ∈ first :: rest, r.fields.length = width := fun r hr =>
      hwidth r (Recency.mem_collect.1 (hsplit ▸ hr)).mem
    have hwidths : ∀ r ∈ first :: rest, r.fields.length = first.fields.length := fun r hr =>
      (hkept r hr).trans (hkept first List.mem_cons_self).symm
    obtain ⟨records, hok, hcols, hrows⟩ := DataFrame.ofNamedTuples_cons_eq_ok hwidths
    simp only [List.isEmpty_iff, hentries, hvalues, if_false]
    exact ⟨records, hok, hrows, hcols⟩

/-- Deduplicating a stream of frames whose rows share their fields, one of which is the key, keeps
the latest rows in first-occurrence order of their keys. -/
theorem exists_dedupeLastSeenChunks {frames : List DataFrame} {fields : List String}
    (hfields : ∀ row ∈ feedRows frames, row.fields = fields)
    (h : ∀ row ∈ feedRows frames, ∃ value, cell row.fields row.values key = some value) :
    ∃ records, dedupeLastSeenChunks (frames.map .ok) key = .ok records ∧
      records.rows = (Recency.collect (rowKey key) (feedRows frames)).map NamedTuple.values ∧
      records.columns = if feedRows frames = [] then feedColumns frames else fields := by
  obtain ⟨records, hok, hrows, hcols⟩ :=
    exists_dedupeLastSeenChunks_of_width (fun row hrow => congrArg List.length (hfields row hrow)) h
  refine ⟨records, hok, hrows, hcols.trans ?_⟩
  -- the frame has the labels of its first row, if it has one
  cases hfeed : feedRows frames with
  | nil => rfl
  | cons row rows =>
    obtain ⟨first, rest, hsplit, hfirst, -⟩ :=
      Recency.exists_collect_cons (rowKey key) row rows
    rw [hsplit, if_neg (List.cons_ne_nil row rows)]
    exact hfields first (hfeed ▸ hfirst.mem)

/-- Deduplicating a nonempty stream of frames with the same plain labels keeps its latest rows, in
first-occurrence order of their keys. -/
theorem dedupeLastSeenChunks_eq_ok {frames : List DataFrame} {columns : List String}
    (hne : frames ≠ []) (hcolumns : ∀ df ∈ frames, df.columns = columns)
    (h : Readable columns key) :
    ∃ records, dedupeLastSeenChunks (frames.map .ok) key = .ok records ∧
      records.columns = columns ∧
      records.itertuples = Recency.collect (rowKey key) (feedRows frames) := by
  have hfeed : ∀ row ∈ feedRows frames, row.fields = columns ∧
      ∃ value, cell row.fields row.values key = some value := by
    intro row hrow
    obtain ⟨df, hdf, hrow⟩ := List.mem_flatMap.1 hrow
    have hreadable : Readable df.columns key := hcolumns df hdf ▸ h
    exact ⟨(fields_of_mem hreadable.plain hrow).trans (hcolumns df hdf),
      exists_cell_of_mem hreadable hrow⟩
  obtain ⟨records, hok, hrows, hcols⟩ :=
    exists_dedupeLastSeenChunks (fun row hrow => (hfeed row hrow).1) fun row hrow =>
      (hfeed row hrow).2
  -- with plain columns the fields are the labels, so the frame's rows are the rows filed
  rw [feedColumns_of_ne_nil hne hcolumns, ite_self] at hcols
  refine ⟨records, hok, hcols, itertuples_eq (hcols ▸ h.plain) (fun row hrow => ?_) hrows⟩
  exact (hfeed row (Recency.mem_collect.1 hrow).mem).1.trans hcols.symm

end Kept

end Ingest
