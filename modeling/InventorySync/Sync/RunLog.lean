import InventorySync.Logs.Reading
import InventorySync.Sync.Resends

/-!
# The log accounts for every record

A run whose `sync_records` returns has logged what became of its records, whatever the schedule and
whatever became of the requests: a reader of its lines finds the counts in the last one, a line with
the key of each record that failed, and a line about the breaker if it left any record out. Every
other record is in the destination.

* `Tells`: what the lines of a run tell of it;
* `log_accounts_for_every_record`: the lines of every run do.
-/

open Python Pandas Ingest Transport ThreadPool PatchStore Logs

namespace Sync

/-- What the service's own loggers log in a run whose `sync_records` returned, at level `INFO`: the
calls of its workers, in the order in which they were made, and the summary. -/
def runLog (records : DataFrame) {ω : Type}
    (s : WriteLoop NamedTuple Stage (Shared ω × List (ℕ × LogCall))) : List LogCall :=
  s.pool.shared.2.map Prod.snd ++ [BaseSyncRunner.summary s.result.toDict records.rows.length
    (s.result .created) (s.result .updated) (s.result .failed)]

/-- The record with the given number failed, and has this key. -/
def BaseODataSyncRunner.FailedWithKey (runner : BaseODataSyncRunner) (records : List NamedTuple)
    (results : List (Option (Except PyException Outcome))) (i : ℕ) (key : String) : Prop :=
  results[i]? = some (some (.ok .failed)) ∧
    ∃ row, records[i]? = some row ∧ row.getattr runner.dedupeKey = .ok (.str key)

/-- What the lines of a run over a feed tell of its counts and of what it did to the destination. -/
structure Tells [IdentifierTables] (runner : DataverseInventorySyncRunner)
    (frames : List DataFrame) (records : DataFrame)
    (results : List (Option (Except PyException Outcome))) (result : Result)
    (initial final : Destination) (lines : List String) : Prop where
  /-- The last line has the counts, and they add up. -/
  counts : ∃ last, lines.getLast? = some last ∧
    reported "records_created" last = some (result .created : ℤ) ∧
    reported "records_updated" last = some (result .updated : ℤ) ∧
    reported "records_failed" last = some (result .failed : ℤ) ∧
    reported "records_skipped" last = some (result .skipped : ℤ) ∧
    reported "total_records" last = some (result.total : ℤ)
  total : result.total = records.rows.length
  /-- The lines of failures name the records that failed and no others. -/
  named : ∀ key, key ∈ lines.filterMap (failedKey runner.dedupeKey) ↔
    ∃ i, runner.odata.FailedWithKey records.itertuples results i key
  /-- There is one line for each of them. -/
  failed : (lines.filterMap (failedKey runner.dedupeKey)).length = result .failed
  nodup : (lines.filterMap (failedKey runner.dedupeKey)).Nodup
  fed : ∀ key ∈ lines.filterMap (failedKey runner.dedupeKey),
    .text key ∈ (feedRows frames).map (rowKey runner.dedupeKey)
  /-- One line at most about the breaker, and one if any record was skipped. -/
  tripped_once : lines.countP tellsTrip ≤ 1
  tripped : result .skipped ≠ 0 → ∃ line ∈ lines, tellsTrip line = true
  /-- Every record is written, named in a line, or one of those skipped. -/
  accounted : ∃ skipped : List String, skipped.length = result .skipped ∧
    ∀ row, Recency.IsLatest (rowKey runner.dedupeKey) (feedRows frames) row →
      ∃ key, row.getattr runner.dedupeKey = .ok (.str key) ∧
        ((∃ record, runner.odata.requestOf row = some (key, record) ∧
            final key = some (overwrite record (initial key))) ∨
          key ∈ lines.filterMap (failedKey runner.dedupeKey) ∨ key ∈ skipped)

section Lines

variable {ξ : Type} {formatter : JsonFormatter ξ} {runner : BaseODataSyncRunner}
  {journal : List (ℕ × LogCall)} {lines : List String}

/-- The keys that the lines of a journal name are those of the calls that wrote them. -/
theorem forall₂_failedKey {IsKey : ℕ → String → Prop} (hname : runner.dedupeKey ≠ "exception_type")
    (hjournal : ∀ entry ∈ journal, (∃ text e, IsKey entry.1 text ∧
      entry.2 = runner.failureLog (.str text) e) ∨ entry.2 = runner.tripLog)
    (hlines : List.Forall₂ (Renders formatter) (journal.map Prod.snd) lines) :
    List.Forall₂ IsKey (callersOf isFailureLine journal)
      (lines.filterMap (failedKey runner.dedupeKey)) := by
  rw [List.forall₂_map_left_iff] at hlines
  induction hlines with
  | nil => exact .nil
  | @cons entry line journal lines hline _ ih =>
    obtain ⟨i, call⟩ := entry
    rw [List.forall_mem_cons] at hjournal
    have hrest := ih hjournal.2
    rcases hjournal.1 with ⟨text, e, hkey, rfl⟩ | rfl
    · rw [callersOf_cons, if_pos (runner.isFailureLine_failureLog (.str text) e),
        List.filterMap_cons, failedKey_of_failureLog hline hname]
      exact .cons hkey hrest
    · rw [callersOf_cons, if_neg (by simp [runner.isFailureLine_tripLog]), List.filterMap_cons,
        failedKey_of_not_isFailureLine hline runner.isFailureLine_tripLog]
      exact hrest

/-- As many lines tell of the trip as there are lines of it. -/
theorem countP_tellsTrip {calls : List LogCall}
    (hlines : List.Forall₂ (Renders formatter) calls lines) :
    lines.countP tellsTrip = calls.countP isTripLine := by
  induction hlines with
  | nil => rfl
  | cons hline _ ih =>
    rw [List.countP_cons, List.countP_cons, ih, tellsTrip_of_renders hline]

end Lines

theorem extraCounts_toDict (result : Result) :
    BaseSyncRunner.extraCounts result.toDict = [("skipped", result .skipped)] := rfl

/-- The fields of the summary of a run. -/
theorem get?_summary (result : Result) (total : ℕ) (name : String) :
    (BaseSyncRunner.summary result.toDict total (result .created) (result .updated)
        (result .failed)).extra.get? name =
      if name = "records_skipped" then some (.int (result .skipped))
      else if name = "total_records" then some (.int total)
      else if name = "records_failed" then some (.int (result .failed))
      else if name = "records_updated" then some (.int (result .updated))
      else if name = "records_created" then some (.int (result .created))
      else none := by
  have hname : "records_" ++ "skipped" = "records_skipped" := rfl
  unfold BaseSyncRunner.summary
  simp only [extraCounts_toDict, List.map_cons, List.map_nil, hname]
  simp only [InsertionDict.ofPairs, List.cons_append, List.nil_append, List.foldl_cons,
    List.foldl_nil, InsertionDict.get?_set, InsertionDict.get?_empty]

/-- A reader of the summary finds the counts. -/
theorem reported_of_renders {ξ : Type} {formatter : JsonFormatter ξ} {result : Result} {total : ℕ}
    {line : String} (h : Renders formatter (BaseSyncRunner.summary result.toDict total
      (result .created) (result .updated) (result .failed)) line) :
    reported "records_created" line = some (result .created : ℤ) ∧
      reported "records_updated" line = some (result .updated : ℤ) ∧
      reported "records_failed" line = some (result .failed : ℤ) ∧
      reported "records_skipped" line = some (result .skipped : ℤ) ∧
      reported "total_records" line = some (total : ℤ) := by
  refine ⟨?_, ?_, ?_, ?_, ?_⟩
  all_goals
    refine reported_of_summary h ?_
    rw [get?_summary]
    simp

/-- The summary is neither the line of a failed record nor that of the trip. -/
theorem not_isFailureLine_summary (result : Result) (total : ℕ) :
    isFailureLine (BaseSyncRunner.summary result.toDict total (result .created) (result .updated)
        (result .failed)) = false ∧
      isTripLine (BaseSyncRunner.summary result.toDict total (result .created) (result .updated)
        (result .failed)) = false := by
  have hkey : ∀ name, name ∈ ["exception_type", "failure_threshold"] →
      (BaseSyncRunner.summary result.toDict total (result .created) (result .updated)
        (result .failed)).extra.keys.contains name = false := by
    intro name hname
    rw [Bool.eq_false_iff, ne_eq, List.contains_iff_mem, ← InsertionDict.get?_eq_none_iff,
      get?_summary]
    simp only [List.mem_cons, List.not_mem_nil, or_false] at hname
    rcases hname with rfl | rfl <;> simp
  refine ⟨hkey "exception_type" (by simp), ?_⟩
  rw [isTripLine, hkey "failure_threshold" (by simp), Bool.and_false]

namespace BaseODataSyncRunner

section Run

variable {ξ ι ω : Type} {formatter : JsonFormatter ξ} {runner : BaseODataSyncRunner}
  {logger : Logger} {upsert : Upsert ι ω} {records : List NamedTuple} {world : ω}
  {s : WriteLoop NamedTuple Stage (Shared ω × List (ℕ × LogCall))}

/-- The lines of the workers name the records that failed. -/
theorem forall₂_failedWithKey (hname : runner.dedupeKey ≠ "exception_type")
    (hkeys : ∀ row ∈ records, ∃ text, row.getattr runner.dedupeKey = .ok (.str text))
    (hlogs : runner.Logs logger) (h : runner.LogReaches logger upsert records world s)
    {lines : List String}
    (hlines : List.Forall₂ (Renders formatter) (s.pool.shared.2.map Prod.snd) lines) :
    List.Forall₂ (FailedWithKey runner records s.pool.results)
      (callersOf isFailureLine s.pool.shared.2) (lines.filterMap (failedKey runner.dedupeKey)) := by
  refine forall₂_failedKey hname ?_ hlines
  rintro ⟨i, call⟩ hentry
  obtain ⟨row, hcall, hline⟩ := exists_of_mem_log hlogs h hentry
  rcases hline with ⟨key, e, hkey, rfl⟩ | rfl
  · have hrows : s.pool.rows[i]? = some row := by rw [Pool.rows, List.getElem?_map, hcall]; rfl
    have hrow : records[i]? = some row := by
      rw [← (WriteLoop.inv_of_reachable h).order,
        List.getElem?_append_left (List.getElem?_eq_some_iff.1 hrows).1, hrows]
    obtain ⟨text, htext⟩ := hkeys row (List.mem_of_getElem? hrow)
    cases hkey.symm.trans htext
    exact .inl ⟨text, e, ⟨Pool.results_getElem?_eq_some.2 ⟨row, hcall⟩, row, hrow, htext⟩, rfl⟩
  · exact .inr rfl

/-- When `sync_records` returns, there is one such line for each of them. -/
theorem length_failedKeys {keys : List String} (hlogs : runner.Logs logger)
    (h : runner.LogReaches logger upsert records world s) (hphase : s.phase = .exited none)
    (hkeys : List.Forall₂ (FailedWithKey runner records s.pool.results)
      (callersOf isFailureLine s.pool.shared.2) keys) : keys.length = s.result .failed := by
  rw [← hkeys.length_eq, (oneLineEach_of_logReaches hlogs h).length_callersOf,
    (WriteLoop.inv_of_reachable h).count_of_returned hphase]

/-- They name the records that failed and no others. -/
theorem mem_failedKeys_iff {keys : List String} (hlogs : runner.Logs logger)
    (h : runner.LogReaches logger upsert records world s)
    (hkeys : List.Forall₂ (FailedWithKey runner records s.pool.results)
      (callersOf isFailureLine s.pool.shared.2) keys) (key : String) :
    key ∈ keys ↔ ∃ i, FailedWithKey runner records s.pool.results i key := by
  constructor
  · intro hkey
    obtain ⟨i, -, hfailed⟩ := Recency.exists_of_forall₂_mem hkeys.flip hkey
    exact ⟨i, hfailed⟩
  · rintro ⟨i, hresult, row, hrow, hget⟩
    obtain ⟨key', hkey', -, row', hrow', hget'⟩ := Recency.exists_of_forall₂_mem hkeys
      (((oneLineEach_of_logReaches hlogs h).mem_callersOf_iff i).2 hresult)
    cases hrow.symm.trans hrow'
    cases hget.symm.trans hget'
    exact hkey'

/-- Records with different keys have different lines. -/
theorem nodup_failedKeys {keys : List String} (hlogs : runner.Logs logger)
    (h : runner.LogReaches logger upsert records world s)
    (hdistinct : (records.map fun row => row.getattr runner.dedupeKey).Nodup)
    (hkeys : List.Forall₂ (FailedWithKey runner records s.pool.results)
      (callersOf isFailureLine s.pool.shared.2) keys) : keys.Nodup := by
  refine Recency.nodup_of_forall₂ hkeys ?_ (oneLineEach_of_logReaches hlogs h).nodup_callersOf
  rintro i j key ⟨-, row, hrow, hkey⟩ ⟨-, row', hrow', hkey'⟩
  have hi := (List.getElem?_eq_some_iff.1 hrow).1
  refine (List.getElem?_inj (by simpa using hi) hdistinct).1 ?_
  rw [List.getElem?_map, List.getElem?_map, hrow, hrow', Option.map_some, Option.map_some, hkey,
    hkey']

/-- When `sync_records` returns, each record was answered, failed, or was skipped. -/
theorem answered_or_failed_or_skipped {t : WriteLoop NamedTuple Stage (Shared ω)}
    (h : runner.SyncReaches logger upsert records world t) (hphase : t.phase = .exited none)
    {i : ℕ} {row : NamedTuple} (hrow : records[i]? = some row) :
    (∃ key payload response inp w, row.getattr runner.dedupeKey = .ok key ∧
        runner.buildPayload row = .ok payload ∧
        (upsert i (runner.upsertCall key payload) inp w).1 = .ok response ∧
        Event.returned i (.ok response) ∈ t.pool.shared.trace) ∨
      t.pool.results[i]? = some (some (.ok .failed)) ∨
      t.pool.results[i]? = some (some (.ok .skipped)) := by
  obtain ⟨outcome, events, hresult, hevents, hreturned⟩ := returned_of_syncReaches h hphase hrow
  cases hreturned with
  | skipped => exact .inr (.inr hresult)
  | @written key payload response outcome hkey hpayload hreply houtcome =>
    obtain ⟨inp, w, hreply⟩ := hreply
    have hmem : Event.returned i (.ok response) ∈ eventsOf i t.pool.shared.trace := by
      rw [hevents]
      simp
    exact .inl ⟨key, payload, response, inp, w, hkey, hpayload, hreply, (mem_eventsOf.1 hmem).1⟩
  | rejected => exact .inr (.inl hresult)
  | unbuilt => exact .inr (.inl hresult)

/-- The keys of the records that were skipped. -/
def skippedKeys (runner : BaseODataSyncRunner)
    (calls : List (Call NamedTuple Stage (Except PyException Outcome))) : List String :=
  (calls.filter fun call => decide (call.result? = some (.ok .skipped))).map fun call =>
    match call.row.getattr runner.dedupeKey with
    | .ok (.str text) => text
    | _ => ""

theorem length_skippedKeys {t : WriteLoop NamedTuple Stage (Shared ω)}
    (h : runner.SyncReaches logger upsert records world t) (hphase : t.phase = .exited none) :
    (runner.skippedKeys t.pool.calls).length = t.result .skipped := by
  rw [(WriteLoop.inv_of_reachable h).count_of_returned hphase, skippedKeys, List.length_map,
    ← List.countP_eq_length_filter, Pool.results, List.count, List.countP_map]
  exact List.countP_congr fun call _ => by simp

theorem mem_skippedKeys {t : WriteLoop NamedTuple Stage (Shared ω)}
    (h : runner.SyncReaches logger upsert records world t) (hphase : t.phase = .exited none)
    {i : ℕ} {row : NamedTuple} {text : String} (hrow : records[i]? = some row)
    (hkey : row.getattr runner.dedupeKey = .ok (.str text))
    (hskipped : t.pool.results[i]? = some (some (.ok .skipped))) :
    text ∈ runner.skippedKeys t.pool.calls := by
  obtain ⟨row', hcall⟩ := Pool.results_getElem?_eq_some.1 hskipped
  have hrow' : records[i]? = some row' := by
    rw [← (WriteLoop.inv_of_reachable h).rows_of_returned hphase, Pool.rows, List.getElem?_map,
      hcall]
    rfl
  obtain rfl : row = row' := Option.some.inj (hrow.symm.trans hrow')
  refine List.mem_map.2 ⟨_, List.mem_filter.2 ⟨List.mem_of_getElem? hcall, by simp [Call.result?]⟩,
    ?_⟩
  simp only [hkey]

/-- When `sync_records` returns, each record is written, among those named, or among those
skipped. -/
theorem accounted_of_returned {store : ω → Destination} {keys : List String}
    (hlogs : runner.Logs logger) (hcommits : runner.Commits store upsert records)
    (hdistinct : (records.map fun row => row.getattr runner.dedupeKey).Nodup)
    (h : runner.LogReaches logger upsert records world s) (hphase : s.phase = .exited none)
    (hkeys : List.Forall₂ (FailedWithKey runner records s.pool.results)
      (callersOf isFailureLine s.pool.shared.2) keys)
    {row : NamedTuple} {text : String} (hrow : row ∈ records)
    (htext : row.getattr runner.dedupeKey = .ok (.str text)) :
    (∃ record, runner.requestOf row = some (text, record) ∧
        store s.pool.shared.1.world text = some (overwrite record (store world text))) ∨
      text ∈ keys ∨ text ∈ runner.skippedKeys s.pool.calls := by
  have hreach := syncReaches_of_logReaches h
  obtain ⟨i, hi⟩ := List.getElem?_of_mem hrow
  rcases answered_or_failed_or_skipped hreach hphase hi with
    ⟨key, payload, response, inp, w, hkey, hpayload, hreply, hanswered⟩ | hfailed | hskipped
  · obtain ⟨text', record, hrequest⟩ :=
      hcommits.answersRequests i row key payload inp w response hi hkey hpayload hreply
    cases (getattr_of_requestOf hrequest).symm.trans htext
    have hstands := (kept_of_commits hcommits hreach).answered i row _ record response hi hrequest
      hanswered
    exact .inl ⟨record, hrequest,
      hstands.trans (writeAll_of_some (payloads_of_distinct hdistinct hrow hrequest))⟩
  · exact .inr (.inl ((mem_failedKeys_iff hlogs h hkeys text).2 ⟨i, hfailed, row, hi, htext⟩))
  · exact .inr (.inr (mem_skippedKeys hreach hphase hi htext hskipped))

end Run

end BaseODataSyncRunner

section Tells

variable [IdentifierTables] {ξ ι ω : Type} {formatter : JsonFormatter ξ}
  {runner : DataverseInventorySyncRunner} {frames : List DataFrame} {columns : List String}
  {records : DataFrame} {logger : Logger} {store : ω → Destination} {upsert : Upsert ι ω}
  {initial : ω} {s : WriteLoop NamedTuple Stage (Shared ω × List (ℕ × LogCall))}
  {lines : List String}

open BaseODataSyncRunner in
/-- The lines of a run over a client that commits to the feed's table. -/
theorem tells_of_logReaches (hfeed : AcceptedFeed runner frames columns records)
    (hlogs : runner.odata.Logs logger) (hname : runner.dedupeKey ≠ "exception_type")
    (hcommits : runner.odata.Commits store upsert records.itertuples)
    (h : runner.odata.LogReaches logger upsert records.itertuples initial s)
    (hphase : s.phase = .exited none)
    (hlines : List.Forall₂ (Renders formatter) (runLog records s) lines) :
    Tells runner frames records s.pool.results s.result (store initial)
      (store s.pool.shared.1.world) lines := by
  have hreach := syncReaches_of_logReaches h
  have hdistinct := distinct_of_acceptedFeed hfeed
  have hkeys : ∀ row ∈ records.itertuples, ∃ text,
      row.getattr runner.odata.dedupeKey = .ok (.str text) := by
    intro row hrow
    obtain ⟨text, htext, -⟩ := hfeed.exists_key (hfeed.mem_feedRows hrow)
    exact ⟨text, htext⟩
  have hlength : records.itertuples.length = records.rows.length := by
    rw [← DataFrame.map_values_itertuples, List.length_map]
  obtain ⟨hnotFailure, hnotTrip⟩ := not_isFailureLine_summary s.result records.rows.length
  -- the lines of the workers, and the summary behind them
  have hworkers := (List.forall₂_take_append _ _ _ hlines.flip).flip
  have hsummary := (List.forall₂_drop_append _ _ _ hlines.flip).flip
  rw [← List.take_append_drop (s.pool.shared.2.map Prod.snd).length lines]
  generalize lines.take (s.pool.shared.2.map Prod.snd).length = workers at hworkers ⊢
  generalize lines.drop (s.pool.shared.2.map Prod.snd).length = rest at hsummary ⊢
  obtain ⟨last, none, hlast, hnone, rfl⟩ := List.forall₂_cons_left_iff.1 hsummary
  obtain rfl := List.forall₂_nil_left_iff.1 hnone
  have hnames : (workers ++ [last]).filterMap (failedKey runner.dedupeKey) =
      workers.filterMap (failedKey runner.dedupeKey) := by
    rw [List.filterMap_append, List.filterMap_cons,
      failedKey_of_not_isFailureLine hlast hnotFailure, List.filterMap_nil, List.append_nil]
  have htrip : (workers ++ [last]).countP tellsTrip =
      if s.pool.shared.1.breaker.tripped then 1 else 0 := by
    rw [List.countP_append, countP_tellsTrip hworkers, List.countP_map,
      ← countP_isTripLine_of_logReaches hlogs h, List.countP_singleton, tellsTrip_of_renders hlast,
      hnotTrip]
    rfl
  have hfailed := forall₂_failedWithKey hname hkeys hlogs h hworkers
  have htotal : s.result.total = records.rows.length := by
    rw [← hlength]
    exact (WriteLoop.inv_of_reachable h).total_of_returned hphase
  refine
    { counts := ⟨last, by simp, by rw [htotal]; exact reported_of_renders hlast⟩
      total := htotal
      named := hnames ▸ mem_failedKeys_iff hlogs h hfailed
      failed := hnames ▸ length_failedKeys hlogs h hphase hfailed
      nodup := hnames ▸ nodup_failedKeys hlogs h hdistinct hfailed
      fed := ?_
      tripped_once := ?_
      tripped := ?_
      accounted := ⟨runner.odata.skippedKeys s.pool.calls, length_skippedKeys hreach hphase, ?_⟩ }
  · intro key hkey
    rw [hnames] at hkey
    obtain ⟨i, -, row, hrow, hget⟩ := (mem_failedKeys_iff hlogs h hfailed key).1 hkey
    have hmem := hfeed.mem_feedRows (List.mem_of_getElem? hrow)
    obtain ⟨text, htext, hrowKey⟩ := hfeed.exists_key hmem
    cases hget.symm.trans htext
    exact List.mem_map.2 ⟨row, hmem, hrowKey⟩
  · rw [htrip]
    split <;> simp
  · intro hskipped
    rw [(WriteLoop.inv_of_reachable h).count_of_returned hphase, ← Nat.pos_iff_ne_zero,
      List.count_pos_iff] at hskipped
    obtain ⟨i, hi⟩ := List.getElem?_of_mem hskipped
    have htripped : s.pool.shared.1.breaker.tripped = true := tripped_of_skipped hreach hi
    rw [htripped, if_pos rfl] at htrip
    exact List.countP_pos_iff.1 (htrip ▸ Nat.one_pos)
  · intro row hlatest
    have hrow := (hfeed.mem_records row).2 hlatest
    obtain ⟨text, htext⟩ := hkeys row hrow
    refine ⟨text, htext, ?_⟩
    rw [hnames]
    exact accounted_of_returned hlogs hcommits hdistinct h hphase hfailed hrow htext

end Tells

/-! ### Every log has lines -/

section Exists

variable {ξ ι ω : Type} (formatter : JsonFormatter ξ) (event : LogEvent ξ)
  {runner : BaseODataSyncRunner} {logger : Logger} {upsert : Upsert ι ω} {records : DataFrame}
  {world : ω} {s : WriteLoop NamedTuple Stage (Shared ω × List (ℕ × LogCall))}

include event

theorem exists_renders_failureLog (hreserved : isReservedKey runner.dedupeKey = false)
    (text : String) (e : PyException) :
    ∃ line, Renders formatter (runner.failureLog (.str text) e) line := by
  refine exists_renders formatter event rfl fun name value hfield => ?_
  simp only [List.mem_cons, List.not_mem_nil, or_false, Prod.mk.injEq] at hfield
  rcases hfield with ⟨rfl, rfl⟩ | ⟨rfl, rfl⟩
  · exact ⟨hreserved, _, .str text⟩
  · exact ⟨by decide, _, .str e.cls.name⟩

theorem exists_renders_tripLog
    (hthreshold : (Nat.toDigits 10 runner.failureThreshold.natAbs).length ≤ 4300) :
    ∃ line, Renders formatter runner.tripLog line := by
  refine exists_renders formatter event rfl fun name value hfield => ?_
  obtain ⟨rfl, rfl⟩ := Prod.mk.inj (List.mem_singleton.1 hfield)
  exact ⟨by decide, _, .int runner.failureThreshold hthreshold⟩

theorem exists_renders_summary {result : Result} {total : ℕ}
    (hcounts : ∀ n ∈ [result .created, result .updated, result .failed, result .skipped, total],
      (Nat.toDigits 10 n).length ≤ 4300) :
    ∃ line, Renders formatter (BaseSyncRunner.summary result.toDict total (result .created)
      (result .updated) (result .failed)) line := by
  refine exists_renders formatter event rfl fun name value hfield => ?_
  rw [extraCounts_toDict] at hfield
  simp only [List.map_cons, List.map_nil, List.cons_append, List.nil_append, List.mem_cons,
    List.not_mem_nil, or_false, Prod.mk.injEq] at hfield
  rcases hfield with ⟨rfl, rfl⟩ | ⟨rfl, rfl⟩ | ⟨rfl, rfl⟩ | ⟨rfl, rfl⟩ | ⟨rfl, rfl⟩
  · exact ⟨by decide, _, .int (result .created) (hcounts _ (by simp))⟩
  · exact ⟨by decide, _, .int (result .updated) (hcounts _ (by simp))⟩
  · exact ⟨by decide, _, .int (result .failed) (hcounts _ (by simp))⟩
  · exact ⟨by decide, _, .int total (hcounts _ (by simp))⟩
  · exact ⟨BaseSyncRunner.isReservedKey_records "skipped", _,
      .int (result .skipped) (hcounts _ (by simp))⟩

/-- Unless the numbers in it have thousands of digits, the log of a run has lines. -/
theorem exists_lines [IdentifierTables] (hreserved : isReservedKey runner.dedupeKey = false)
    (hkeys : ∀ row ∈ records.itertuples, ∃ text, row.getattr runner.dedupeKey = .ok (.str text))
    (hlogs : runner.Logs logger)
    (h : runner.LogReaches logger upsert records.itertuples world s)
    (hphase : s.phase = .exited none)
    (hthreshold : (Nat.toDigits 10 runner.failureThreshold.natAbs).length ≤ 4300)
    (hcounts : ∀ n ≤ records.rows.length, (Nat.toDigits 10 n).length ≤ 4300) :
    ∃ lines, List.Forall₂ (Renders formatter) (runLog records s) lines := by
  have hrendered : ∀ calls : List LogCall, (∀ call ∈ calls, ∃ line, Renders formatter call line) →
      ∃ lines, List.Forall₂ (Renders formatter) calls lines := by
    intro calls hcalls
    induction calls with
    | nil => exact ⟨[], .nil⟩
    | cons call calls ih =>
      rw [List.forall_mem_cons] at hcalls
      obtain ⟨line, hline⟩ := hcalls.1
      obtain ⟨lines, hlines⟩ := ih hcalls.2
      exact ⟨line :: lines, .cons hline hlines⟩
  refine hrendered _ fun call hcall => ?_
  rcases List.mem_append.1 hcall with hworker | hsummary
  · obtain ⟨⟨i, call⟩, hentry, rfl⟩ := List.mem_map.1 hworker
    obtain ⟨row, hrow, hline⟩ := BaseODataSyncRunner.exists_of_mem_log hlogs h hentry
    rcases hline with ⟨key, e, hkey, rfl⟩ | rfl
    · have hmem : row ∈ records.itertuples := (WriteLoop.inv_of_reachable h).mem_records row
        (List.mem_map.2 ⟨_, List.mem_of_getElem? hrow, rfl⟩)
      obtain ⟨text, htext⟩ := hkeys row hmem
      cases hkey.symm.trans htext
      exact exists_renders_failureLog formatter event hreserved text e
    · exact exists_renders_tripLog formatter event hthreshold
  · obtain rfl := List.mem_singleton.1 hsummary
    have htotal := (WriteLoop.inv_of_reachable h).total_of_returned hphase
    have hlength : records.itertuples.length = records.rows.length := by
      rw [← DataFrame.map_values_itertuples, List.length_map]
    rw [Result.total] at htotal
    refine exists_renders_summary formatter event fun n hn => hcounts n ?_
    simp only [List.mem_cons, List.not_mem_nil, or_false] at hn
    omega

end Exists

/-- The lines of every run whose `sync_records` returned tell a reader its counts, name each record
that failed, and leave none unaccounted for: every other record of the feed is written, or one of
those that were skipped because the breaker, of which a line tells, had tripped. The run exits with
0 exactly if no line names a record. -/
theorem log_accounts_for_every_record [IdentifierTables] {ξ S : Type}
    (runner : DataverseInventorySyncRunner) (frames : List DataFrame) (columns : List String)
    (records : DataFrame) (hfeed : AcceptedFeed runner frames columns records) (logger : Logger)
    (hlogs : runner.odata.Logs logger) (hname : runner.dedupeKey ≠ "exception_type")
    (client : ODataClient) (adapter : StatusAdapter Wire) (token : String)
    (sending : ℕ → ℕ → Sending) (initial : Wire)
    (s : WriteLoop NamedTuple Stage (Shared Wire × List (ℕ × LogCall)))
    (h : runner.odata.LogReaches logger (runner.odata.upsertOver client adapter token sending)
      records.itertuples initial s) (hphase : s.phase = .exited none)
    (formatter : JsonFormatter ξ) (lines : List String)
    (hlines : List.Forall₂ (Renders formatter) (runLog records s) lines) :
    Tells runner frames records s.pool.results s.result initial.destination
        s.pool.shared.1.world.destination lines ∧
      ∀ hooks : BaseSyncRunner S ODataClient, hooks.attempt = .ok (records, s.result.toDict) →
        hooks.run logger =
          .ok (if lines.filterMap (failedKey runner.dedupeKey) = [] then 0 else 1) := by
  have htells := tells_of_logReaches hfeed hlogs hname
    (BaseODataSyncRunner.requests_upsertOver.commits
      (BaseODataSyncRunner.distinct_of_acceptedFeed hfeed)) h hphase hlines
  refine ⟨htells, fun hooks hattempt => ?_⟩
  rw [BaseSyncRunner.run_of_ok logger hattempt, ← htells.failed]
  simp only [List.length_eq_zero_iff]

/-- The second request is rejected. -/
def secondRejected : ℕ → ℕ → Sending
  | 1, _ => { fate := .rejected internalServerErrorStatus false }
  | _, _ => { fate := .accepted noContentStatus }

/-- The second call fails, and the third is skipped. -/
def failThenSkip : List (WriteLoop.Label Unit) :=
  List.replicate 3 .main ++ .dequeue 0 :: List.replicate 4 (.advance 0 ()) ++
    .dequeue 1 :: List.replicate 4 (.advance 1 ()) ++
    [.dequeue 2, .advance 2 (), .main, .collect 0, .collect 1, .collect 2, .main, .main]

open BaseODataSyncRunner in
set_option maxRecDepth 20000 in
/-- The end of a run in which a record is written, one fails and one is skipped. -/
def mixedRun : WriteLoop NamedTuple Stage (Shared Wire) :=
  (goodRun 1 ((goodRunner 1).odata.upsertOver dataverseClient wireAdapter "token" secondRejected)
    ⟨stocked, 0⟩ failThenSkip).get rfl

open BaseODataSyncRunner in
set_option maxRecDepth 20000 in
/-- The lines of that run name the record that failed. -/
theorem log_accounts_for_every_record_mixedRun :
    ∃ lines : List String,
      @Tells asciiTables (goodRunner 1) [shippedFrame goodRows] (shippedFrame goodRows)
        mixedRun.pool.results mixedRun.result stocked mixedRun.pool.shared.world.destination
        lines ∧
      mixedRun.result .failed = 1 ∧ mixedRun.result .skipped = 1 ∧
      "O'RING 5%" ∈ lines.filterMap (failedKey "sku_id") := by
  have hfeed : @AcceptedFeed asciiTables (goodRunner 1) [shippedFrame goodRows] _
      (shippedFrame goodRows) :=
    @DataverseInventorySyncRunner.acceptedFeed_tuned asciiTables _ _ _ _
      (@acceptedFeed_shipped goodRows (shippedFrame goodRows) rfl) ⟨10, 1, 50⟩
  have hlogs : (goodRunner 1).odata.Logs standardLogger :=
    logs_of_dedupeKey standardLogger (by decide)
  have hreach : (goodRunner 1).odata.SyncReaches standardLogger
      ((goodRunner 1).odata.upsertOver dataverseClient wireAdapter "token" secondRejected)
      (@DataFrame.itertuples asciiTables (shippedFrame goodRows)) ⟨stocked, 0⟩ mixedRun :=
    ⟨failThenSkip, (Option.some_get _).symm⟩
  obtain ⟨s, hlogged, hs⟩ := exists_logReaches hreach
  have hphase : s.phase = .exited none := congrArg WriteLoop.phase hs
  have hkeys : ∀ row ∈ @DataFrame.itertuples asciiTables (shippedFrame goodRows),
      ∃ text, row.getattr (goodRunner 1).odata.dedupeKey = .ok (.str text) := by
    intro row hrow
    obtain ⟨text, htext, -⟩ :=
      @AcceptedFeed.exists_key asciiTables _ _ _ _ hfeed _
        (@AcceptedFeed.mem_feedRows asciiTables _ _ _ _ hfeed _ hrow)
    exact ⟨text, htext⟩
  have hdigits : ∀ n ≤ 3, (Nat.toDigits 10 n).length ≤ 4300 := by
    intro n hn
    rw [Nat.toDigits_of_lt_base (by omega)]
    exact Nat.le_of_ble_eq_true rfl
  obtain ⟨lines, hlines⟩ := @exists_lines _ _ _ utcFormatter (failedEvent "sku_id") _ _ _ _ _ _
    asciiTables (by decide) hkeys hlogs hlogged hphase (by decide) hdigits
  have htells := (@log_accounts_for_every_record asciiTables _ Unit (goodRunner 1) _
    _ _ hfeed standardLogger hlogs (by decide) dataverseClient wireAdapter "token" secondRejected
    ⟨stocked, 0⟩ s hlogged hphase utcFormatter lines hlines).1
  have hresults : s.pool.results = mixedRun.pool.results :=
    congrArg (fun t => Pool.results (WriteLoop.pool t)) hs
  have hresult : s.result = mixedRun.result := congrArg WriteLoop.result hs
  have hworld : s.pool.shared.1.world = mixedRun.pool.shared.world :=
    congrArg (fun t : WriteLoop NamedTuple Stage (Shared Wire) => t.pool.shared.world) hs
  rw [hresults, hresult, hworld] at htells
  have hnamed := (@Tells.named asciiTables _ _ _ _ _ _ _ _ htells "O'RING 5%").2
    ⟨1, rfl, _, rfl, rfl⟩
  exact ⟨lines, htells, rfl, rfl, hnamed⟩

end Sync
