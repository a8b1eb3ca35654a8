import InventorySync.Sync.Resends
import InventorySync.Sync.Revocation

/-!
# A destination that is down

What a run costs when no send succeeds. Failures that are counted trip the breaker after a threshold
of them, with a late call on every other worker. An answer that is retried until the re-sends run
out is not counted, since `_upsert_one` does not catch a `RetryError`: its call raises, but then it
is never collected, and no more calls than a window of them are held at a time. So the number of
sends does not depend on how long the feed is, and it is bounded at every moment of the run.

* `card_failedIds_le`: without a success, the breaker lets through a threshold of failures and the
  late ones;
* `answered_subset`: a call that was answered has failed, or it is held;
* `dead_destination_is_left_alone`: so a run against a dead destination ends soon and with 1.
-/

open Python Pandas Ingest Transport ThreadPool PatchStore

namespace Sync

/-- The calls that called `record_failure` among these events. -/
def failedIds (events : List Event) : Finset ℕ :=
  ((events.filter Event.isFailure).map Event.id).toFinset

theorem mem_failedIds {i : ℕ} {events : List Event} :
    i ∈ failedIds events ↔ ∃ trips, Event.recordedFailure i trips ∈ events := by
  rw [failedIds, List.mem_toFinset, List.mem_map]
  constructor
  · rintro ⟨ev, hev, rfl⟩
    obtain ⟨hmem, hfailure⟩ := List.mem_filter.1 hev
    cases ev with
    | recordedFailure i trips => exact ⟨trips, hmem⟩
    | _ => cases hfailure
  · rintro ⟨trips, hmem⟩
    exact ⟨_, List.mem_filter.2 ⟨hmem, rfl⟩, rfl⟩

theorem card_failedIds_le_countP (events : List Event) :
    (failedIds events).card ≤ events.countP Event.isFailure := by
  rw [failedIds, List.countP_eq_length_filter]
  exact (List.toFinset_card_le _).trans (List.length_map _).le

theorem failedIds_append (post pre : List Event) :
    failedIds (post ++ pre) = failedIds post ∪ failedIds pre := by
  ext i
  simp only [Finset.mem_union, mem_failedIds, List.mem_append, exists_or]

namespace BaseODataSyncRunner

section Dead

variable {ι ω : Type} {self : BaseODataSyncRunner} {logger : Logger} {upsert : Upsert ι ω}
  {records : List NamedTuple} {world : ω} {s : WriteLoop NamedTuple Stage (Shared ω)}

/-- No call for one of the records returns. -/
def NeverReturns (runner : BaseODataSyncRunner) (upsert : Upsert ι ω) (records : List NamedTuple) :
    Prop :=
  ∀ (i : ℕ) row key payload inp w response, records[i]? = some row →
    row.getattr runner.dedupeKey = .ok key → runner.buildPayload row = .ok payload →
    (upsert i (runner.upsertCall key payload) inp w).1 ≠ .ok response

/-- A success was recorded for a request that returned. -/
theorem History.exists_response {i j : ℕ} {row : NamedTuple}
    {st : CallState Stage (Except PyException Outcome)} {events : List Event}
    (h : self.History logger upsert i row st events) (hmem : Event.recordedSuccess j ∈ events) :
    ∃ key payload inp w response, row.getattr self.dedupeKey = .ok key ∧
      self.buildPayload row = .ok payload ∧
      (upsert i (self.upsertCall key payload) inp w).1 = .ok response := by
  cases h with
  | queued => simp at hmem
  | entered => simp at hmem
  | skipped => simp at hmem
  | checked => simp at hmem
  | unreadable => simp at hmem
  | calling => simp at hmem
  | unbuilt => simp at hmem
  | answered => simp at hmem
  | succeeded hanswered =>
    cases hanswered with
    | answered hkey hpayload hreply =>
      obtain ⟨inp, w, hreply⟩ := hreply
      exact ⟨_, _, inp, w, _, hkey, hpayload, hreply⟩
  | escaped hanswered => cases hanswered <;> simp at hmem
  | unlogged hanswered => cases hanswered <;> simp at hmem
  | failed hanswered => cases hanswered <;> simp at hmem

theorem NeverReturns.not_recordedSuccess (hdead : self.NeverReturns upsert records)
    (h : self.SyncReaches logger upsert records world s) (i : ℕ) :
    Event.recordedSuccess i ∉ s.pool.shared.trace := by
  intro hmem
  have htraced := traced_of_syncReaches h
  obtain ⟨⟨row, st⟩, hcall⟩ : ∃ call, s.pool.calls[i]? = some call :=
    ⟨_, List.getElem?_eq_getElem (htraced.id_lt _ hmem)⟩
  have hrow : records[i]? = some row :=
    records_getElem?_of_rows h (by rw [Pool.rows, List.getElem?_map, hcall]; rfl)
  obtain ⟨key, payload, inp, w, response, hkey, hpayload, hreply⟩ :=
    (htraced.history i row st hcall).exists_response (mem_eventsOf.2 ⟨hmem, rfl⟩)
  exact hdead i row key payload inp w response hrow hkey hpayload hreply

/-- Until the breaker trips it lets a threshold of failures through, and then the late ones. -/
theorem NeverReturns.card_failedIds_le (hdead : self.NeverReturns upsert records)
    (h : self.SyncReaches logger upsert records world s) :
    ((failedIds s.pool.shared.trace).card : ℤ) ≤
      max 1 self.failureThreshold + max 1 self.maxWorkers - 1 := by
  have hrecorded := recorded_of_syncReaches h
  cases htripped : s.pool.shared.breaker.tripped with
  | false =>
    have hstreak := hrecorded.consecutiveFailures_eq (hdead.not_recordedSuccess h) htripped
    have hlt := s.pool.shared.breaker.not_reached htripped
    have hle := card_failedIds_le_countP s.pool.shared.trace
    rw [hstreak, hrecorded.threshold_eq] at hlt
    omega
  | true =>
    obtain ⟨i, hi⟩ := hrecorded.tripped_iff.1 htripped
    obtain ⟨post, pre, htrace⟩ := List.append_of_mem hi
    obtain ⟨late, hlate, hpost, -⟩ := lateBound_of_syncReaches h post i pre htrace
    -- the failures up to the trip are the threshold, and those after it are of late calls
    have hpre : ((failedIds (.recordedFailure i true :: pre)).card : ℤ) ≤
        max 1 self.failureThreshold := by
      rw [htrace] at hrecorded
      obtain ⟨_, htrip⟩ := hrecorded.of_append
      have hcount : (pre.countP Event.isFailure + 1 : ℤ) = max 1 self.failureThreshold :=
        htrip.countP_at_trip fun j hj => hdead.not_recordedSuccess h j (by simp [htrace, hj])
      have hle := card_failedIds_le_countP (.recordedFailure i true :: pre)
      rw [List.countP_cons_of_pos rfl] at hle
      omega
    have hsub : failedIds post ⊆ late := by
      intro j hj
      obtain ⟨trips, hmem⟩ := mem_failedIds.1 hj
      exact hpost _ hmem rfl
    have hunion : (failedIds s.pool.shared.trace).card ≤
        late.card + (failedIds (.recordedFailure i true :: pre)).card := by
      rw [htrace, failedIds_append]
      exact (Finset.card_union_le _ _).trans
        (Nat.add_le_add_right (Finset.card_le_card hsub) _)
    omega

/-- A call that was answered has failed, or it is held: if it raised, it is never collected. -/
theorem NeverReturns.answered_subset (hdead : self.NeverReturns upsert records)
    (h : self.SyncReaches logger upsert records world s) :
    (answeredIds s.pool.shared.trace).toFinset ⊆ failedIds s.pool.shared.trace ∪ s.held := by
  intro i hi
  obtain ⟨reply, hreply⟩ := mem_answeredIds.1 (List.mem_toFinset.1 hi)
  by_cases hheld : i ∈ s.held
  · exact Finset.mem_union_right _ hheld
  · have hlt : i < s.pool.calls.length := (traced_of_syncReaches h).id_lt _ hreply
    obtain ⟨outcome, hresult⟩ := (WriteLoop.inv_of_reachable h).collected i hlt hheld
    obtain ⟨row, hrow, -, hhistory⟩ := history_of_result h hresult
    have hmem : Event.returned i reply ∈ eventsOf i s.pool.shared.trace :=
      mem_eventsOf.2 ⟨hreply, rfl⟩
    refine Finset.mem_union_left _ (mem_failedIds.2 ?_)
    generalize heq : eventsOf i s.pool.shared.trace = events at hhistory hmem
    cases hhistory.returned with
    | skipped => simp at hmem
    | written hkey hpayload hreply =>
      obtain ⟨inp, w, hreply⟩ := hreply
      exact absurd hreply
        (hdead i row _ _ inp w _ (records_getElem?_of_rows h hrow) hkey hpayload)
    | @rejected key payload e trips =>
      have hfailure : Event.recordedFailure i trips ∈ eventsOf i s.pool.shared.trace := by
        rw [heq]
        exact List.mem_cons_self
      exact ⟨trips, (mem_eventsOf.1 hfailure).1⟩
    | unbuilt => simp at hmem

/-- So there is a bound on the answered calls that does not depend on the number of rows. -/
theorem NeverReturns.length_answeredIds_le (hdead : self.NeverReturns upsert records)
    (h : self.SyncReaches logger upsert records world s)
    (hnodup : (answeredIds s.pool.shared.trace).Nodup) :
    ((answeredIds s.pool.shared.trace).length : ℤ) ≤
      max 1 self.failureThreshold + max 1 self.maxWorkers - 1 + max 1 self.writeWindowSize := by
  have hfailed := hdead.card_failedIds_le h
  have hheld := (WriteLoop.inv_of_reachable h).card_held
  have hcard := (Finset.card_le_card (hdead.answered_subset h)).trans (Finset.card_union_le _ _)
  rw [List.toFinset_card_of_nodup hnodup] at hcard
  omega

/-- When `sync_records` returns, some row has failed. -/
theorem NeverReturns.failed_ne_zero (hdead : self.NeverReturns upsert records)
    (h : self.SyncReaches logger upsert records world s) (hphase : s.phase = .exited none)
    (hne : records ≠ []) : s.result .failed ≠ 0 := by
  intro hzero
  have hrow : records[0]? = some (records.head hne) := by
    rw [List.head_eq_getElem, List.getElem?_eq_getElem]
  obtain ⟨outcome, events, hresult, -, hreturned⟩ := returned_of_syncReaches h hphase hrow
  obtain ⟨hnotFailed, hnotSkipped⟩ := outcome_of_failed_eq_zero h hphase hzero hresult
  cases hreturned with
  | skipped => exact hnotSkipped rfl
  | written hkey hpayload hreply =>
    obtain ⟨inp, w, hreply⟩ := hreply
    exact hdead 0 _ _ _ inp w _ hrow hkey hpayload hreply
  | rejected => exact hnotFailed rfl
  | unbuilt => exact hnotFailed rfl

end Dead

/-! ### Over the wire -/

section Wire

variable {self : BaseODataSyncRunner} {logger : Logger} {records : List NamedTuple}
  {client : ODataClient} {adapter : StatusAdapter Wire} {token : String}
  {sending : ℕ → ℕ → Sending} {initial : Wire}
  {s : WriteLoop NamedTuple Stage (Shared Wire)}

theorem neverReturns_upsertOver (hdead : ∀ i n, ¬(sending i n).Succeeds) :
    self.NeverReturns (self.upsertOver client adapter token sending) records := by
  intro i row key payload inp w response _ hkey hpayload
  rcases request_or_refused client (wireSession adapter
    (urlPrefix client.baseUrl self.entitySet self.alternateKeyField) token sending)
    (fun _ _ => rfl) i inp w hkey hpayload with ⟨text, json, rfl, hjson, -⟩ | ⟨e, hrefused⟩
  · exact upsertRecord_ne_ok client adapter token sending i (self.upsertCall (.str text) payload) w
      rfl hjson (hdead i) response
  · rw [upsertOver, hrefused]
    simp

/-- A run none of whose sends is applied leaves the destination as it is. -/
theorem destination_of_syncReaches (hunapplied : ∀ i n, (sending i n).fate.isApplied = false)
    (h : self.SyncReaches logger (self.upsertOver client adapter token sending) records initial s) :
    s.pool.shared.world.destination = initial.destination := by
  refine invariant_of_replies (P := fun _ w => w.destination = initial.destination) ⟨?_, ?_⟩ rfl h
  · exact fun _ _ _ _ hw => hw
  · intro i row key payload inp trace w _ hkey hpayload _ hw
    rcases request_or_refused client (wireSession adapter
      (urlPrefix client.baseUrl self.entitySet self.alternateKeyField) token sending)
      (fun _ _ => rfl) i inp w hkey hpayload with ⟨text, json, rfl, hjson, -⟩ | ⟨e, hrefused⟩
    · exact (destination_of_upsertRecord client adapter token sending i
        (self.upsertCall (.str text) payload) w rfl hjson (hunapplied i)).trans hw
    · rw [upsertOver, hrefused]
      exact hw

/-- Four sends at most for each answered call. -/
theorem sends_of_dead (hdead : ∀ i n, ¬(sending i n).Succeeds)
    (h : self.SyncReaches logger (self.upsertOver client adapter token sending) records initial s) :
    (s.pool.shared.world.sends : ℤ) ≤ initial.sends +
      4 * (max 1 self.failureThreshold + max 1 self.maxWorkers - 1 +
        max 1 self.writeWindowSize) := by
  obtain ⟨hnodup, -, hsends⟩ := sendsBounded_of_syncReaches h
  have hcalls := (neverReturns_upsertOver hdead).length_answeredIds_le h hnodup
  omega

end Wire

end BaseODataSyncRunner

theorem EffectfulRunner.RunEnds.of_dead [IdentifierTables] {S : Type}
    {self : EffectfulRunner S ODataClient Wire} {runner : BaseODataSyncRunner} {logger : Logger}
    {adapter : StatusAdapter Wire} {token : String} {sending : ℕ → ℕ → Sending}
    {records : DataFrame} {initial final : Wire} {code : ℕ}
    (hdead : ∀ i n, ¬(sending i n).Succeeds)
    (h : self.RunEnds runner logger (fun client => runner.upsertOver client adapter token sending)
      records initial code final) :
    (records.itertuples ≠ [] → code = 1) ∧
      (final.sends : ℤ) ≤ initial.sends +
        4 * (max 1 runner.failureThreshold + max 1 runner.maxWorkers - 1 +
          max 1 runner.writeWindowSize) ∧
      ((∀ i n, (sending i n).fate.isApplied = false) →
        final.destination = initial.destination) := by
  cases h with
  | unprepared => exact ⟨fun _ => rfl, by omega, fun _ => rfl⟩
  | returned _ hends hphase =>
    refine ⟨fun hne => if_neg ?_, BaseODataSyncRunner.sends_of_dead hdead hends.1,
      fun hunapplied => BaseODataSyncRunner.destination_of_syncReaches hunapplied hends.1⟩
    exact (BaseODataSyncRunner.neverReturns_upsertOver hdead).failed_ne_zero hends.1 hphase hne
  | raised _ hends _ =>
    exact ⟨fun _ => rfl, BaseODataSyncRunner.sends_of_dead hdead hends.1,
      fun hunapplied => BaseODataSyncRunner.destination_of_syncReaches hunapplied hends.1⟩

/-- Every run of the service against a destination that serves no send exits with 1 if there is a
row to write. However long the feed is, it has sent no more than four times for a threshold of rows,
the other workers and a window, and if no send is applied the destination is what it was. -/
theorem dead_destination_is_left_alone [IdentifierTables] {S : Type}
    (self : EffectfulRunner S ODataClient Wire) (runner : DataverseInventorySyncRunner)
    (hingest : self.ingest = runner.mixin) (logger : Logger) (adapter : StatusAdapter Wire)
    (token : String) (sending : ℕ → ℕ → Sending) (hdead : ∀ i n, ¬(sending i n).Succeeds)
    (records : DataFrame) (hrecords : runner.mixin.loadRecords = .ok records)
    (effects : Effects Wire)
    (hsync : ∀ client, self.Prepared client records →
      runner.odata.SyncRuns logger (runner.odata.upsertOver client adapter token sending)
        records.itertuples (effects.pull self.ingest.pulledChunks)
        ((self.syncRecords client records).run (effects.pull self.ingest.pulledChunks))) :
    ∃ code effects', (self.run logger).run effects = .ok code effects' ∧
      (records.itertuples ≠ [] → code = 1) ∧
      (effects'.world.sends : ℤ) ≤ effects.world.sends +
        4 * (max 1 runner.failureThreshold + max 1 runner.maxWorkers - 1 +
          max 1 runner.writeWindowSize) ∧
      ((∀ i n, (sending i n).fate.isApplied = false) →
        effects'.world.destination = effects.world.destination) := by
  have hloaded : self.ingest.loadRecords = .ok records := by rw [hingest, hrecords]
  obtain ⟨code, effects', hrun, hends⟩ := EffectfulRunner.runEnds_of_run hloaded hsync
  obtain ⟨hcode, hsends, hsame⟩ := hends.of_dead hdead
  exact ⟨code, effects', hrun, hcode, hsends, hsame⟩

/-- Every connection is refused. -/
def connectionRefused : ℕ → ℕ → Sending := fun _ _ =>
  { fate := .lost (connectionFailure "Connection refused") false }

/-- A feed of six rows. -/
def sixRows : List (String × PyValue × PyValue) :=
  (List.range 6).map fun n => ("SKU-" ++ toString n, .str "Bolt", .int n)

/-- A runner over it with one worker, a window of one, and a breaker that trips at once. -/
def sixRowsRunner : DataverseInventorySyncRunner :=
  { shippedRunner sixRows with maxWorkers := 1, failureThreshold := 1, writeWindowSize := 1 }

open BaseODataSyncRunner in
/-- Where every connection is refused, it sends no more than eight times for its six rows. -/
theorem dead_destination_is_left_alone_connectionRefused :
    ∃ (self : EffectfulRunner Unit ODataClient Wire) (effects' : Effects Wire),
      (@EffectfulRunner.run asciiTables _ _ _ self standardLogger).run ⟨⟨stocked, 0⟩, [], 0⟩ =
        .ok 1 effects' ∧
      effects'.world.sends ≤ 8 ∧ effects'.world.destination = stocked := by
  have hloaded : @InventoryDomainMixin.loadRecords sixRowsRunner.mixin asciiTables =
      .ok (shippedFrame sixRows) := rfl
  obtain ⟨self, hingest, -, hsync⟩ := @EffectfulRunner.exists_prepared asciiTables _ _ Unit _ _
    dataverseClient sixRowsRunner.odata (by decide) standardLogger
    (fun client => sixRowsRunner.odata.upsertOver client wireAdapter "token" connectionRefused) _
    hloaded ⟨⟨stocked, 0⟩, [], 0⟩
  obtain ⟨code, effects', hrun, hcode, hsends, hsame⟩ :=
    @dead_destination_is_left_alone asciiTables _ self sixRowsRunner hingest standardLogger
      wireAdapter "token" connectionRefused (fun _ _ h => h.1) (shippedFrame sixRows) hloaded
      ⟨⟨stocked, 0⟩, [], 0⟩ fun client hclient => (hsync client hclient).2
  obtain rfl := hcode (by decide)
  have hbound : (effects'.world.sends : ℤ) ≤ 8 := hsends
  exact ⟨self, effects', hrun, by omega, hsame fun _ _ => rfl⟩

end Sync
