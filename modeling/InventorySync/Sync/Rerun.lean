import InventorySync.Sync.RunEffect

/-!
# Running again

No state is kept between runs. What a run leaves behind, however it ended and whatever failed, is a
partial write of one table of payloads, the table of the feed's last rows (`partly_of_syncReaches`).
A run in which every request succeeds writes the whole table (`world_of_succeeds`), and so makes
good what any earlier runs of the same feed left.
-/

open Python Pandas Ingest Transport ThreadPool PatchStore

namespace Sync

namespace BaseODataSyncRunner

variable {self : BaseODataSyncRunner} {logger : Logger} {client : ODataClient} {token : String}
  {fate : ℕ → Fate} {records : List NamedTuple} {initial : Destination}
  {s : WriteLoop NamedTuple Stage (Shared Destination)}

/-! ### The table of a run -/

/-- The record that a run writes under each key. -/
def payloads (runner : BaseODataSyncRunner) (records : List NamedTuple) :
    String → Option (Record String JsonValue) :=
  fun key => (records.filterMap runner.requestOf).lookup key

/-- The table is read off the rows. -/
theorem payloads_eq_some (hwritable : self.Writable records) {key : String}
    {record : Record String JsonValue} :
    self.payloads records key = some record ↔
      ∃ row ∈ records, self.requestOf row = some (key, record) := by
  have hmem : ∀ {record}, self.payloads records key = some record →
      ∃ row ∈ records, self.requestOf row = some (key, record) := by
    intro record h
    obtain ⟨before, after, hsplit, -⟩ := List.lookup_eq_some_iff.1 h
    exact List.mem_filterMap.1 (hsplit ▸ by simp)
  refine ⟨hmem, ?_⟩
  rintro ⟨row, hrow, hrequest⟩
  cases hlookup : self.payloads records key with
  | none =>
    have hentry : (key, record) ∈ records.filterMap self.requestOf :=
      List.mem_filterMap.2 ⟨row, hrow, hrequest⟩
    exact absurd (beq_self_eq_true key) (by simpa using List.lookup_eq_none_iff.1 hlookup _ hentry)
  | some record' =>
    -- both are the request of the one row with this key
    obtain ⟨row', hrow', hrequest'⟩ := hmem hlookup
    obtain ⟨i, hi⟩ := List.getElem?_of_mem hrow
    obtain ⟨j, hj⟩ := List.getElem?_of_mem hrow'
    obtain rfl := hwritable.index_unique hi hj
      ((getattr_of_requestOf hrequest).trans (getattr_of_requestOf hrequest').symm)
    cases hi.symm.trans hj
    cases hrequest.symm.trans hrequest'
    rfl

/-- The table has the keys of the rows. -/
theorem getattr_ne_of_payloads_eq_none (hwritable : self.Writable records) {key : String}
    (h : self.payloads records key = none) {row : NamedTuple} (hrow : row ∈ records) :
    row.getattr self.dedupeKey ≠ .ok (.str key) := by
  intro hkey
  obtain ⟨key', payload, json, hkey', hpayload, hjson⟩ := hwritable.sendable row hrow
  cases hkey.symm.trans hkey'
  have hsome := (payloads_eq_some hwritable).2
    ⟨row, hrow, requestOf_eq_some hkey hpayload hjson⟩
  cases h.symm.trans hsome

/-- As far as a run got, it wrote its table in part. -/
theorem partly_of_syncReaches (hwritable : self.Writable records)
    (h : self.SyncReaches logger (self.upsertInto client token fate) records initial s) :
    Partly (self.payloads records) initial s.pool.shared.world := by
  have htracks := tracks_of_syncReaches hwritable h
  have hinv := WriteLoop.inv_of_reachable h
  intro key
  -- a record whose row was not submitted yet is as it was
  by_cases hsubmitted : ∃ row ∈ s.pool.rows, row.getattr self.dedupeKey = .ok (.str key)
  · obtain ⟨row, hrow, hkey⟩ := hsubmitted
    have hmem := hinv.mem_records row hrow
    obtain ⟨key', payload, json, hkey', hpayload, hjson⟩ := hwritable.sendable row hmem
    cases hkey.symm.trans hkey'
    have hrequest := requestOf_eq_some hkey hpayload hjson
    have htable : self.payloads records key = some (bodyRecord json) :=
      (payloads_eq_some hwritable).2 ⟨row, hmem, hrequest⟩
    obtain ⟨i, hi⟩ := List.getElem?_of_mem hrow
    rw [writeAll_of_some htable]
    exact (htracks.effect i row key _ hi hrequest).kept_or_written
  · push Not at hsubmitted
    exact .inl (htracks.frame key hsubmitted)

/-! ### Runs in which every request succeeds -/

/-- A call whose request succeeds returns, and not `"failed"`. -/
theorem History.result_of_replies {ι ω : Type} {upsert : Upsert ι ω} {i : ℕ} {row : NamedTuple}
    {result : Except PyException Outcome} {events : List Event} {key : PyValue} {payload : Payload}
    (h : self.History logger upsert i row (.finished result) events)
    (hkey : row.getattr self.dedupeKey = .ok key) (hpayload : self.buildPayload row = .ok payload)
    (hreplies : ∀ inp world, ∃ response,
      (upsert i (self.upsertCall key payload) inp world).1 = .ok response) :
    result = .ok .skipped ∨ ∃ response, result = .ok (outcomeOf response) := by
  -- the `try` block cannot have ended with an exception
  have hfailed : ∀ {key' e events},
      ¬self.History logger upsert i row (.running (.answered key' (.error e))) events := by
    intro key' e events hanswered
    cases hanswered with
    | unbuilt _ hpayload' => cases hpayload.symm.trans hpayload'
    | answered hkey' hpayload' hreply =>
      cases hkey.symm.trans hkey'
      cases hpayload.symm.trans hpayload'
      obtain ⟨inp, world, hreply⟩ := hreply
      obtain ⟨response, hresponse⟩ := hreplies inp world
      cases hreply.symm.trans hresponse
  cases h with
  | skipped => exact .inl rfl
  | unreadable hkey' => cases hkey.symm.trans hkey'
  | succeeded hanswered houtcome => exact .inr ⟨_, congrArg Except.ok houtcome⟩
  | escaped hanswered => exact absurd hanswered hfailed
  | unlogged hanswered => exact absurd hanswered hfailed
  | failed hanswered => exact absurd hanswered hfailed

section Succeeds

variable (hwritable : self.Writable records) (hsucceeds : ∀ i, (fate i).Succeeds)

include hwritable hsucceeds

/-- When every request succeeds, every call that is over was skipped or wrote its record. -/
theorem result_of_succeeds
    (h : self.SyncReaches logger (self.upsertInto client token fate) records initial s) {i : ℕ}
    {result : Except PyException Outcome} (hresult : s.pool.results[i]? = some (some result)) :
    result = .ok .skipped ∨ ∃ response, result = .ok (outcomeOf response) := by
  obtain ⟨row, -, hrow, hhistory⟩ := history_of_result h hresult
  obtain ⟨key, payload, json, hkey, hpayload, hjson⟩ := hwritable.sendable row hrow
  exact hhistory.result_of_replies hkey hpayload fun _ world =>
    exists_response_of_succeeds client token fate i (self.upsertCall (.str key) payload) world rfl
      hjson (hsucceeds i)

/-- When every request succeeds, `sync_records` returns, and wrote every row: it created the records
that were not there and updated those that were. -/
theorem written_of_succeeds (hworkers : 1 ≤ self.maxWorkers)
    (h : self.SyncEnds logger (self.upsertInto client token fate) records initial s) :
    s.phase = .exited none ∧ ∀ (i : ℕ) row key record, records[i]? = some row →
      self.requestOf row = some (key, record) →
      s.pool.shared.world key = some (overwrite record (initial key)) ∧
        s.pool.results[i]? =
          some (some (.ok (if (initial key).isNone then .created else .updated))) := by
  have hphase : s.phase = .exited none := by
    refine returned_of_syncEnds hworkers h ?_
    rintro e ⟨i, hresult⟩
    rcases result_of_succeeds hwritable hsucceeds h.1 hresult with hskipped | ⟨response, hok⟩
    · cases hskipped
    · cases hok
  have hfailed : s.result .failed = 0 := by
    rw [(WriteLoop.inv_of_reachable h.1).count_of_returned hphase, List.count_eq_zero]
    intro hmem
    obtain ⟨i, hi⟩ := List.getElem?_of_mem hmem
    rcases result_of_succeeds hwritable hsucceeds h.1 hi with hskipped | ⟨response, hok⟩
    · cases hskipped
    · unfold outcomeOf at hok
      split at hok <;> cases hok
  refine ⟨hphase, fun i row key record hrow hrequest => ?_⟩
  -- no row failed, so none was skipped, and the outcome says that the record was written
  obtain ⟨outcome, hresult, hsettled⟩ :=
    settled_of_syncReaches hwritable h.1 hphase hrow hrequest
  obtain ⟨hnotFailed, hnotSkipped⟩ := outcome_of_failed_eq_zero h.1 hphase hfailed hresult
  cases outcome with
  | created =>
    obtain ⟨hold, hnow⟩ := hsettled
    exact ⟨hnow, by rw [hresult, hold]; rfl⟩
  | updated =>
    obtain ⟨hold, hnow⟩ := hsettled
    have hsome : (initial key).isNone = false := by
      rwa [Option.isNone_eq_false_iff, Option.isSome_iff_ne_none]
    exact ⟨hnow, by rw [hresult, hsome]; rfl⟩
  | failed => exact absurd rfl hnotFailed
  | skipped => exact absurd rfl hnotSkipped

/-- When every request succeeds, the whole table is written. -/
theorem world_of_succeeds (hworkers : 1 ≤ self.maxWorkers)
    (h : self.SyncEnds logger (self.upsertInto client token fate) records initial s) :
    s.pool.shared.world = writeAll (self.payloads records) initial := by
  obtain ⟨hphase, hwritten⟩ := written_of_succeeds hwritable hsucceeds hworkers h
  -- a key is one of the batch's, and then its row was written, or it is left alone
  ext key : 1
  cases htable : self.payloads records key with
  | none =>
    rw [writeAll_of_none htable]
    refine (tracks_of_syncReaches hwritable h.1).frame key fun row hrow => ?_
    exact getattr_ne_of_payloads_eq_none hwritable htable
      ((WriteLoop.inv_of_reachable h.1).mem_records row hrow)
  | some record =>
    obtain ⟨row, hrow, hrequest⟩ := (payloads_eq_some hwritable).1 htable
    obtain ⟨i, hi⟩ := List.getElem?_of_mem hrow
    rw [writeAll_of_some htable]
    exact (hwritten i row key record hi hrequest).1

/-- When every request succeeds on a destination where the table has been written before, every row
is an update. -/
theorem updated_of_succeeds (hworkers : 1 ≤ self.maxWorkers)
    (h : self.SyncEnds logger (self.upsertInto client token fate) records
      (writeAll (self.payloads records) initial) s) (outcome : Outcome) :
    s.result outcome = if outcome = .updated then records.length else 0 := by
  obtain ⟨hphase, hwritten⟩ := written_of_succeeds hwritable hsucceeds hworkers h
  have hinv := WriteLoop.inv_of_reachable h.1
  have hlen : s.pool.results.length = records.length := by
    rw [Pool.results, List.length_map, hinv.length_of_returned hphase]
  -- every row finds its own entity in the destination, so every write is an update
  have hall : s.pool.results = List.replicate records.length (some (.ok .updated)) := by
    refine List.eq_replicate_iff.2 ⟨hlen, fun result hresult => ?_⟩
    obtain ⟨i, hi⟩ := List.getElem?_of_mem hresult
    obtain ⟨row, hrow⟩ : ∃ row, records[i]? = some row :=
      ⟨_, List.getElem?_eq_getElem (hlen ▸ (List.getElem?_eq_some_iff.1 hi).1)⟩
    obtain ⟨key, payload, json, hkey, hpayload, hjson⟩ :=
      hwritable.sendable row (List.mem_of_getElem? hrow)
    have hrequest := requestOf_eq_some hkey hpayload hjson
    have htable : self.payloads records key = some (bodyRecord json) :=
      (payloads_eq_some hwritable).2 ⟨row, List.mem_of_getElem? hrow, hrequest⟩
    have hupdated := (hwritten i row key _ hrow hrequest).2
    rw [writeAll_of_some htable, hi] at hupdated
    exact Option.some.inj hupdated
  rw [hinv.count_of_returned hphase, hall, List.count_replicate]
  cases outcome <;> rfl

end Succeeds

end BaseODataSyncRunner

/-! ### Sequences of runs -/

/-- What may differ between two runs of the same feed with the same field mapping. -/
structure Tuning where
  maxWorkers : ℤ
  failureThreshold : ℤ
  writeWindowSize : ℤ

namespace DataverseInventorySyncRunner

/-- The runner with other tuning. -/
def tuned (self : DataverseInventorySyncRunner) (tuning : Tuning) : DataverseInventorySyncRunner :=
  { self with
    maxWorkers := tuning.maxWorkers
    failureThreshold := tuning.failureThreshold
    writeWindowSize := tuning.writeWindowSize }

/-- Tuning plays no part in what is written. -/
theorem payloads_tuned {self : DataverseInventorySyncRunner} (tuning : Tuning)
    (rows : List NamedTuple) :
    (self.tuned tuning).odata.payloads rows = self.odata.payloads rows := rfl

/-- Some run over a destination that holds `initial` gets to where it holds `reached`: the run may
go on from there, be over or be aborted, and any of its requests may have failed. -/
def Attempted [IdentifierTables] (self : DataverseInventorySyncRunner) (client : ODataClient)
    (initial reached : Destination) : Prop :=
  ∃ tuning logger token fate records s,
    (self.tuned tuning).mixin.loadRecords = .ok records ∧
      (self.tuned tuning).odata.SyncReaches logger
        ((self.tuned tuning).odata.upsertInto client token fate) records.itertuples initial s ∧
      s.pool.shared.world = reached

/-- Some run over a destination that holds `initial`, in which every request succeeds, ends in
`s`. -/
def Succeeded [IdentifierTables] (self : DataverseInventorySyncRunner) (client : ODataClient)
    (initial : Destination) (s : WriteLoop NamedTuple Stage (Shared Destination)) : Prop :=
  ∃ tuning logger token fate records, 1 ≤ tuning.maxWorkers ∧ (∀ i, Fate.Succeeds (fate i)) ∧
    (self.tuned tuning).mixin.loadRecords = .ok records ∧
      (self.tuned tuning).odata.SyncEnds logger
        ((self.tuned tuning).odata.upsertInto client token fate) records.itertuples initial s

section Sequences

variable [IdentifierTables] {self : DataverseInventorySyncRunner} {frames : List DataFrame}
  {columns : List String} {records : DataFrame} {client : ODataClient}
  {initial reached : Destination} {s : WriteLoop NamedTuple Stage (Shared Destination)}

/-- Nor in loading a feed. -/
theorem acceptedFeed_tuned (hfeed : AcceptedFeed self frames columns records) (tuning : Tuning) :
    AcceptedFeed (self.tuned tuning) frames columns records :=
  ⟨hfeed.delivers, hfeed.columns_eq, hfeed.plain, hfeed.mapped_mem, hfeed.string_keys, hfeed.loaded⟩

section Feed

variable (hfeed : AcceptedFeed self frames columns records)
  (hjson : ∀ row ∈ records.itertuples, self.odata.Serialisable row)

include hfeed hjson

/-- Whatever becomes of a run, it wrote the feed's table in part. -/
theorem Attempted.partly (h : self.Attempted client initial reached) :
    Partly (self.odata.payloads records.itertuples) initial reached := by
  obtain ⟨tuning, logger, token, fate, records', s, hloaded, hreaches, rfl⟩ := h
  obtain rfl : records = records' := Except.ok.inj (hfeed.loaded.symm.trans hloaded)
  rw [← payloads_tuned tuning]
  exact BaseODataSyncRunner.partly_of_syncReaches
    (BaseODataSyncRunner.writable_of_acceptedFeed (acceptedFeed_tuned hfeed tuning) hjson) hreaches

/-- A run in which every request succeeds returns, and wrote the feed's whole table. -/
theorem Succeeded.returned (h : self.Succeeded client initial s) : s.phase = .exited none ∧
    s.pool.shared.world = writeAll (self.odata.payloads records.itertuples) initial := by
  obtain ⟨tuning, logger, token, fate, records', hworkers, hsucceeds, hloaded, hends⟩ := h
  obtain rfl : records = records' := Except.ok.inj (hfeed.loaded.symm.trans hloaded)
  have hwritable := BaseODataSyncRunner.writable_of_acceptedFeed
    (acceptedFeed_tuned hfeed tuning) hjson
  rw [← payloads_tuned tuning]
  exact ⟨(BaseODataSyncRunner.written_of_succeeds hwritable hsucceeds hworkers hends).1,
    BaseODataSyncRunner.world_of_succeeds hwritable hsucceeds hworkers hends⟩

/-- A run in which every request succeeds, over a destination where the feed's table has been
written before, counts updates only. -/
theorem Succeeded.result_eq (h : self.Succeeded client
      (writeAll (self.odata.payloads records.itertuples) initial) s) (outcome : Outcome) :
    s.result outcome = if outcome = .updated then records.itertuples.length else 0 := by
  obtain ⟨tuning, logger, token, fate, records', hworkers, hsucceeds, hloaded, hends⟩ := h
  obtain rfl : records = records' := Except.ok.inj (hfeed.loaded.symm.trans hloaded)
  exact BaseODataSyncRunner.updated_of_succeeds (BaseODataSyncRunner.writable_of_acceptedFeed
    (acceptedFeed_tuned hfeed tuning) hjson) hsucceeds hworkers hends outcome

end Feed

/-- There is one record for each distinct key of the feed. -/
theorem length_itertuples (hfeed : AcceptedFeed self frames columns records) :
    records.itertuples.length = ((feedRows frames).map (rowKey self.dedupeKey)).dedup.length := by
  have hmem : ∀ key, key ∈ records.itertuples.map (rowKey self.dedupeKey) ↔
      key ∈ ((feedRows frames).map (rowKey self.dedupeKey)).dedup := by
    intro key
    rw [List.mem_dedup]
    constructor
    · intro hkey
      obtain ⟨row, hrow, rfl⟩ := List.mem_map.1 hkey
      exact List.mem_map_of_mem (hfeed.mem_feedRows hrow)
    · intro hkey
      obtain ⟨row, hlatest, rfl⟩ := Recency.exists_isLatest hkey
      exact List.mem_map_of_mem ((hfeed.mem_records row).2 hlatest)
  -- the keys of the records are those of the feed, each once
  have hperm := (List.perm_ext_iff_of_nodup hfeed.nodup_keys (List.nodup_dedup _)).2 hmem
  rw [← hperm.length_eq, List.length_map]

/-- Running again converges. After any sequence of earlier runs of a feed, a run in which every
request succeeds leaves the destination as one such run alone would have left it, and another one
after that changes nothing and counts one update for each distinct key of the feed. -/
theorem rerun_converges (self : DataverseInventorySyncRunner) (frames : List DataFrame)
    (columns : List String) (records : DataFrame)
    (hfeed : AcceptedFeed self frames columns records)
    (hjson : ∀ row ∈ records.itertuples, self.odata.Serialisable row) (client : ODataClient)
    (initial reached : Destination)
    (hearlier : Relation.ReflTransGen (self.Attempted client) initial reached) :
    (∀ tuning logger token fate, (self.tuned tuning).odata.SyncTerminates logger
      ((self.tuned tuning).odata.upsertInto client token fate) records.itertuples reached) ∧
    ∀ single, self.Succeeded client initial single → ∀ final, self.Succeeded client reached final →
      final.phase = .exited none ∧ final.pool.shared.world = single.pool.shared.world ∧
      ∀ again, self.Succeeded client final.pool.shared.world again →
        again.phase = .exited none ∧ again.pool.shared.world = final.pool.shared.world ∧
        again.result .created = 0 ∧ again.result .failed = 0 ∧ again.result .skipped = 0 ∧
        again.result .updated =
          ((feedRows frames).map (rowKey self.dedupeKey)).dedup.length := by
  refine ⟨fun _ _ _ _ => BaseODataSyncRunner.syncTerminates, ?_⟩
  intro single hsingle final hfinal
  have hrun : self.Attempted client ≤ Partly (self.odata.payloads records.itertuples) :=
    fun _ _ h => h.partly hfeed hjson
  have hpartly : Partly (self.odata.payloads records.itertuples) initial reached :=
    partly_of_reflTransGen (Relation.ReflTransGen.mono hrun _ _ hearlier)
  -- the earlier runs left a partial write, which the table written over it absorbs
  obtain ⟨-, hsingleWorld⟩ := hsingle.returned hfeed hjson
  obtain ⟨hphase, hfinalWorld⟩ := hfinal.returned hfeed hjson
  rw [writeAll_of_partly hpartly] at hfinalWorld
  refine ⟨hphase, hfinalWorld.trans hsingleWorld.symm, fun again hagain => ?_⟩
  rw [hfinalWorld] at hagain ⊢
  obtain ⟨hphase', hagainWorld⟩ := hagain.returned hfeed hjson
  have hcounts := hagain.result_eq hfeed hjson
  rw [writeAll_writeAll] at hagainWorld
  refine ⟨hphase', hagainWorld, hcounts .created, hcounts .failed, hcounts .skipped, ?_⟩
  rw [hcounts .updated, if_pos rfl, length_itertuples hfeed]

/-- Every request succeeds, and an update is answered with 204. -/
def noContent : ℕ → Fate := fun _ => .accepted noContentStatus

/-- Whatever the destination holds, there is a run in which every request succeeds. -/
theorem exists_succeeded (hloaded : self.mixin.loadRecords = .ok records) (client : ODataClient)
    (initial : Destination) : ∃ s, self.Succeeded client initial s := by
  let tuning : Tuning := ⟨10, 5, 50⟩
  obtain ⟨s, hends⟩ := BaseODataSyncRunner.exists_syncEnds (self.tuned tuning).odata standardLogger
    ((self.tuned tuning).odata.upsertInto client "token" noContent) records.itertuples initial
  exact ⟨s, tuning, standardLogger, "token", noContent, records, by decide, fun _ => trivial,
    hloaded, hends⟩

end Sequences

open BaseODataSyncRunner in
/-- A run that lost an answer, one that succeeds, and one more. -/
theorem rerun_converges_correctedRows :
    ∃ reached single final again,
      @Attempted asciiTables (shippedRunner correctedRows) dataverseClient stocked reached ∧
      @Succeeded asciiTables (shippedRunner correctedRows) dataverseClient stocked single ∧
      @Succeeded asciiTables (shippedRunner correctedRows) dataverseClient reached final ∧
      @Succeeded asciiTables (shippedRunner correctedRows) dataverseClient final.pool.shared.world
        again ∧
      final.pool.shared.world = single.pool.shared.world ∧ again.result .updated = 2 := by
  have hloaded : @InventoryDomainMixin.loadRecords (shippedRunner correctedRows).mixin asciiTables =
      .ok (shippedFrame latestRows) := rfl
  obtain ⟨s, hends⟩ := exists_syncEnds
    ((shippedRunner correctedRows).tuned ⟨2, 1, 1⟩).odata standardLogger
    (((shippedRunner correctedRows).tuned ⟨2, 1, 1⟩).odata.upsertInto dataverseClient "token"
      secondLost) (@DataFrame.itertuples asciiTables (shippedFrame latestRows)) stocked
  have hattempted : @Attempted asciiTables (shippedRunner correctedRows) dataverseClient stocked
      s.pool.shared.world := ⟨_, _, _, _, _, s, hloaded, hends.1, rfl⟩
  obtain ⟨single, hsingle⟩ := @exists_succeeded asciiTables _ _ hloaded dataverseClient stocked
  obtain ⟨final, hfinal⟩ :=
    @exists_succeeded asciiTables _ _ hloaded dataverseClient s.pool.shared.world
  obtain ⟨again, hagain⟩ :=
    @exists_succeeded asciiTables _ _ hloaded dataverseClient final.pool.shared.world
  obtain ⟨-, hconverged⟩ := @rerun_converges asciiTables (shippedRunner correctedRows)
    [shippedFrame correctedRows] _ (shippedFrame latestRows) (acceptedFeed_shipped hloaded)
    serialisable_latestRows dataverseClient stocked s.pool.shared.world (.single hattempted)
  obtain ⟨-, hworld, hcounts⟩ := hconverged single hsingle final hfinal
  obtain ⟨-, -, -, -, -, hupdated⟩ := hcounts again hagain
  exact ⟨_, single, final, again, hattempted, hsingle, hfinal, hagain, hworld, hupdated⟩

end DataverseInventorySyncRunner

end Sync
