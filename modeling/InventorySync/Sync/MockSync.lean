import InventorySync.Sync.ExitCode
import InventorySync.Sync.ScheduleIndependence
import InventorySync.Transport.TokenRefresh

/-!
# The demo without a destination

`run_mock_sync.py`: the service with a fake identity provider and a fake session, which answers each
request by a digest of its URL. The digest is a parameter. If fewer rows than the breaker needs to
trip fall into the failing buckets, every run of the demo over a feed ends with the same counts and
the same exit code, whatever the order of dispatch, and never skips a row.

* `reply_of_mockUpsert`: the answer of the fake session;
* `mock_sync_counts`: the counts and the exit code of a demo run.
-/

open Python Pandas Ingest Transport ThreadPool

namespace Sync

/-! ### The fakes -/

/-- `int(digest, 16) % modulus` -/
def outcomeBucket (digest : String → ℕ) (url : String) (modulus : ℕ) : ℕ := digest url % modulus

/-- The status code of `_FakeSession.patch`. -/
def fakeStatus (digest : String → ℕ) (url : String) : ℕ :=
  let bucket := outcomeBucket digest url 100
  if bucket < 2 then 503
  else if bucket < 40 then 201
  else 204

/-- The client of the demo. -/
def mockClient : ODataClient where
  baseUrl := "https://mock-org.crm.dynamics.com/api/data/v9.2"
  extraHeaders := [("Prefer", "return=representation")]

/-- `upsert_record` of the demo's client. The fake `patch` does not look at its `json` argument, so
no body is ever encoded. -/
def mockUpsert (digest : String → ℕ) : Upsert Unit Unit := fun _ call _ world =>
  match buildEntityUrl mockClient.baseUrl call.entitySet call.alternateKeyName call.keyValue with
  | .error e => (.error e, world)
  | .ok url => (raiseForStatus ⟨fakeStatus digest url⟩, world)

/-- `_FakeConfidentialClientApplication.acquire_token_for_client` -/
def mockToken : MsalResult :=
  some (InsertionDict.ofPairs [("access_token", .str "mock-bearer-token")])

/-- The demo: settings, client and token are fixed. -/
def mockRunner (ingest : InventoryDomainMixin)
    (syncRecords : DataFrame → Effectful Unit Result) : EffectfulRunner Unit Unit Unit where
  loadSettings := .ok ()
  configureLogging _ := .ok ()
  buildClient _ := .ok ()
  -- `acquire_token_silent` returns `None` every time
  acquireBearerToken _ := (tokenOf mockToken).map fun _ => ()
  ingest := ingest
  syncRecords _ records := syncRecords records

/-! ### Its answers -/

namespace BaseODataSyncRunner

variable {self : BaseODataSyncRunner} {digest : String → ℕ} {row : NamedTuple}

/-- The bucket of a row's URL. -/
def rowBucket (runner : BaseODataSyncRunner) (digest : String → ℕ) (row : NamedTuple) : ℕ :=
  match row.getattr runner.dedupeKey with
  | .error _ => 0
  | .ok key =>
    match buildEntityUrl mockClient.baseUrl runner.entitySet runner.alternateKeyField key with
    | .error _ => 0
    | .ok url => outcomeBucket digest url 100

/-- What a row of the demo comes to. -/
def mockOutcome (bucket : ℕ) : Outcome :=
  if bucket < 2 then .failed else if bucket < 40 then .created else .updated

theorem mockOutcome_eq_failed_iff {bucket : ℕ} : mockOutcome bucket = .failed ↔ bucket < 2 := by
  unfold mockOutcome
  split
  next h => simp [h]
  next h => split <;> simp [h]

theorem mockOutcome_eq_created_iff {bucket : ℕ} :
    mockOutcome bucket = .created ↔ 2 ≤ bucket ∧ bucket < 40 := by
  unfold mockOutcome
  split
  next h => simp only [reduceCtorEq, false_iff]; omega
  next h =>
    split
    next h' => simp only [true_iff]; omega
    next h' => simp only [reduceCtorEq, false_iff]; omega

theorem mockOutcome_eq_updated_iff {bucket : ℕ} : mockOutcome bucket = .updated ↔ 40 ≤ bucket := by
  unfold mockOutcome
  split
  next h => simp only [reduceCtorEq, false_iff]; omega
  next h =>
    split
    next h' => simp only [reduceCtorEq, false_iff]; omega
    next h' => simp only [true_iff]; omega

theorem mockOutcome_ne_skipped (bucket : ℕ) : mockOutcome bucket ≠ .skipped := by
  unfold mockOutcome
  split
  · simp
  · split <;> simp

variable (digest) in
/-- The fake session answers a row by its bucket. -/
theorem reply_of_mockUpsert {text : String} (hkey : row.getattr self.dedupeKey = .ok (.str text))
    (payload : Payload) (i : ℕ) (inp world : Unit) :
    (∃ response, (mockUpsert digest i (self.upsertCall (.str text) payload) inp world).1 =
        .ok response ∧ outcomeOf response = mockOutcome (self.rowBucket digest row)) ∨
      ∃ e, (mockUpsert digest i (self.upsertCall (.str text) payload) inp world).1 = .error e ∧
        isTransportFailure e = true ∧ mockOutcome (self.rowBucket digest row) = .failed := by
  obtain ⟨url, hurl⟩ : ∃ url, buildEntityUrl mockClient.baseUrl self.entitySet
      self.alternateKeyField (.str text) = .ok url := ⟨_, buildEntityUrl_eq_ok.2 ⟨text, rfl, rfl⟩⟩
  have hbucket : self.rowBucket digest row = outcomeBucket digest url 100 := by
    simp only [rowBucket, hkey, hurl]
  have hreply : (mockUpsert digest i (self.upsertCall (.str text) payload) inp world).1 =
      raiseForStatus ⟨fakeStatus digest url⟩ := by
    simp only [mockUpsert, upsertCall, hurl]
  rw [hreply, hbucket]
  -- the three ranges of buckets
  by_cases hfailing : outcomeBucket digest url 100 < 2
  · have hstatus : fakeStatus digest url = 503 := by simp [fakeStatus, hfailing]
    rw [hstatus]
    exact .inr ⟨_, rfl, rfl, by simp [mockOutcome, hfailing]⟩
  · by_cases hcreated : outcomeBucket digest url 100 < 40
    · have hstatus : fakeStatus digest url = 201 := by simp [fakeStatus, hfailing, hcreated]
      rw [hstatus]
      exact .inl ⟨⟨201⟩, rfl, by simp [mockOutcome, outcomeOf, hfailing, hcreated]⟩
    · have hstatus : fakeStatus digest url = 204 := by simp [fakeStatus, hfailing, hcreated]
      rw [hstatus]
      exact .inl ⟨⟨204⟩, rfl, by simp [mockOutcome, outcomeOf, hfailing, hcreated]⟩

/-- A row that a demo run did not skip came to what its bucket says. -/
theorem outcome_of_mockSync {logger : Logger} {records : List NamedTuple}
    {s : WriteLoop NamedTuple Stage (Shared Unit)}
    (hkeys : ∀ row ∈ records, ∃ text, row.getattr self.dedupeKey = .ok (.str text))
    (hpayloads : ∀ row ∈ records, ∃ payload, self.buildPayload row = .ok payload)
    (h : self.SyncReaches logger (mockUpsert digest) records () s)
    (hphase : s.phase = .exited none) {i : ℕ} {row : NamedTuple} {outcome : Outcome}
    (hrow : records[i]? = some row)
    (hresult : s.pool.results[i]? = some (some (.ok outcome))) :
    outcome = .skipped ∨ outcome = mockOutcome (self.rowBucket digest row) := by
  obtain ⟨text, htext⟩ := hkeys row (List.mem_of_getElem? hrow)
  obtain ⟨payload, hpayload⟩ := hpayloads row (List.mem_of_getElem? hrow)
  obtain ⟨outcome', events, hresult', -, hreturned⟩ := returned_of_syncReaches h hphase hrow
  cases hresult.symm.trans hresult'
  cases hreturned with
  | skipped => exact .inl rfl
  | written hkey hbuilt hreply houtcome =>
    cases htext.symm.trans hkey
    obtain ⟨inp, world, hreply⟩ := hreply
    rcases reply_of_mockUpsert digest htext _ i inp world with
      ⟨response, hok, hmock⟩ | ⟨e, herror, -⟩
    · cases hreply.symm.trans hok
      exact .inr (houtcome.trans hmock)
    · cases hreply.symm.trans herror
  | rejected hkey hbuilt hreply he =>
    cases htext.symm.trans hkey
    obtain ⟨inp, world, hreply⟩ := hreply
    rcases reply_of_mockUpsert digest htext _ i inp world with
      ⟨response, hok, -⟩ | ⟨e, -, -, hmock⟩
    · cases hreply.symm.trans hok
    · exact .inr hmock.symm
  | unbuilt _ hbuilt => cases hpayload.symm.trans hbuilt

/-- Nothing raises in a demo run. -/
theorem not_raised_of_mockSync {logger : Logger} (hlogs : self.Logs logger)
    {records : List NamedTuple} {s : WriteLoop NamedTuple Stage (Shared Unit)}
    (hkeys : ∀ row ∈ records, ∃ text, row.getattr self.dedupeKey = .ok (.str text))
    (hpayloads : ∀ row ∈ records, ∃ payload, self.buildPayload row = .ok payload)
    (h : self.SyncReaches logger (mockUpsert digest) records () s) (e : PyException) :
    ¬s.Raised e := by
  refine not_raised_of_replies hlogs (fun row hrow => ?_) h ?_ e
  · obtain ⟨text, htext⟩ := hkeys row hrow
    obtain ⟨payload, hpayload⟩ := hpayloads row hrow
    exact ⟨_, payload, htext, hpayload⟩
  · rintro i row key payload inp world e hrow hkey - - hreply
    obtain ⟨text, htext⟩ := hkeys row (List.mem_of_getElem? hrow)
    cases htext.symm.trans hkey
    rcases reply_of_mockUpsert digest htext payload i inp world with
      ⟨response, hok, -⟩ | ⟨e', herror, hfailure, -⟩
    · cases hreply.symm.trans hok
    · cases hreply.symm.trans herror
      exact hfailure

end BaseODataSyncRunner

namespace BaseODataSyncRunner

variable {self : BaseODataSyncRunner} {digest : String → ℕ} {logger : Logger}
  {records : List NamedTuple} {s : WriteLoop NamedTuple Stage (Shared Unit)}

/-- The counts of a demo run: each row under what its bucket says. -/
structure CountsBuckets (runner : BaseODataSyncRunner) (digest : String → ℕ)
    (records : List NamedTuple) (result : Result) : Prop where
  failed : result .failed = records.countP fun row => runner.rowBucket digest row < 2
  created : result .created = records.countP fun row =>
    2 ≤ runner.rowBucket digest row ∧ runner.rowBucket digest row < 40
  updated : result .updated = records.countP fun row => 40 ≤ runner.rowBucket digest row
  skipped : result .skipped = 0

theorem countsBuckets_of_mockSync
    (hkeys : ∀ row ∈ records, ∃ text, row.getattr self.dedupeKey = .ok (.str text))
    (hpayloads : ∀ row ∈ records, ∃ payload, self.buildPayload row = .ok payload)
    (hfew : ((records.countP fun row => self.rowBucket digest row < 2 : ℕ) : ℤ) <
      max 1 self.failureThreshold)
    (h : self.SyncReaches logger (mockUpsert digest) records () s)
    (hphase : s.phase = .exited none) : self.CountsBuckets digest records s.result := by
  let verdict : NamedTuple → Outcome := fun row => mockOutcome (self.rowBucket digest row)
  have hcount : ∀ outcome (p : NamedTuple → Bool), (∀ row, verdict row = outcome ↔ p row = true) →
      countVerdicts (fun _ => verdict) records outcome = records.countP p := by
    intro outcome p hp
    rw [countVerdicts_eq_countP]
    apply List.countP_congr
    intro row _
    simpa using hp row
  have hfailed := hcount .failed (fun row => self.rowBucket digest row < 2)
    fun row => by simpa using mockOutcome_eq_failed_iff
  have hverdict : ∀ (i : ℕ) row outcome, records[i]? = some row →
      s.pool.results[i]? = some (some (.ok outcome)) →
      outcome = .skipped ∨ outcome = verdict row :=
    fun i row outcome hrow hresult => outcome_of_mockSync hkeys hpayloads h hphase hrow hresult
  obtain ⟨-, hcounted⟩ := results_of_verdicts h hphase hverdict (by rwa [hfailed])
  refine ⟨(hcounted .failed).trans hfailed, ?_, ?_, ?_⟩
  · exact (hcounted .created).trans
      (hcount .created _ fun row => by simpa using mockOutcome_eq_created_iff)
  · exact (hcounted .updated).trans
      (hcount .updated _ fun row => by simpa using mockOutcome_eq_updated_iff)
  · rw [hcounted .skipped, hcount .skipped (fun _ => false) fun row => by
      simpa using mockOutcome_ne_skipped _]
    simp

end BaseODataSyncRunner

namespace AcceptedFeed

variable [IdentifierTables] {runner : DataverseInventorySyncRunner} {frames : List DataFrame}
  {columns : List String} {records : DataFrame}

/-- The rows handed to `sync_records` have text under the key column. -/
theorem keys (hfeed : AcceptedFeed runner frames columns records) :
    ∀ row ∈ records.itertuples, ∃ text, row.getattr runner.odata.dedupeKey = .ok (.str text) := by
  intro row hrow
  obtain ⟨text, hkey, -⟩ := hfeed.exists_key (hfeed.mem_feedRows hrow)
  exact ⟨text, hkey⟩

theorem rowPayloads (hfeed : AcceptedFeed runner frames columns records) :
    ∀ row ∈ records.itertuples, ∃ payload, runner.odata.buildPayload row = .ok payload :=
  fun _ hrow => hfeed.exists_payload (hfeed.mem_feedRows hrow)

end AcceptedFeed

/-- Every run of the demo over an accepted feed, in which fewer rows than the breaker needs to trip
fall into the failing buckets, counts each row by its bucket, skips none, and exits with 1 if some
row fell into those buckets and with 0 otherwise. -/
theorem mock_sync_counts [IdentifierTables] (runner : DataverseInventorySyncRunner)
    (hworkers : 1 ≤ runner.maxWorkers) (digest : String → ℕ) (frames : List DataFrame)
    (columns : List String) (records : DataFrame)
    (hfeed : AcceptedFeed runner frames columns records) (logger : Logger)
    (hlogs : runner.odata.Logs logger)
    (hfew : ((records.itertuples.countP fun row => runner.odata.rowBucket digest row < 2 : ℕ) : ℤ) <
      max 1 runner.failureThreshold)
    (syncRecords : DataFrame → Effectful Unit Result) (effects : Effects Unit)
    (hsync : runner.odata.SyncRuns logger (mockUpsert digest) records.itertuples
      (effects.pull runner.mixin.pulledChunks)
      ((syncRecords records).run (effects.pull runner.mixin.pulledChunks))) :
    ∃ result effects', (syncRecords records).run (effects.pull runner.mixin.pulledChunks) =
        .ok result effects' ∧
      runner.odata.CountsBuckets digest records.itertuples result ∧
      ((mockRunner runner.mixin syncRecords).run logger).run effects =
        .ok (if records.itertuples.all fun row => 2 ≤ runner.odata.rowBucket digest row then 0
          else 1) effects' := by
  have hprepared : (mockRunner runner.mixin syncRecords).Prepared () records :=
    ⟨(), rfl, rfl, rfl, rfl, hfeed.loaded⟩
  have hattempt := run_attempt_of_prepared hprepared effects
  rw [EStateM.run_bind] at hattempt
  have hcall : ((mockRunner runner.mixin syncRecords).syncRecords () records).run
      (effects.pull (mockRunner runner.mixin syncRecords).ingest.pulledChunks) =
        (syncRecords records).run (effects.pull runner.mixin.pulledChunks) := rfl
  rw [hcall] at hattempt
  cases hcase : (syncRecords records).run (effects.pull runner.mixin.pulledChunks) with
  | error e effects' =>
    rw [hcase] at hsync
    cases hsync with
    | refused hrefused => exact absurd hworkers (not_le.2 (Int.lt_add_one_of_le hrefused))
    | raised _ hends hphase =>
      have hraised := (WriteLoop.inv_of_reachable hends.1).raised_of_exited hphase
      exact absurd hraised
        (BaseODataSyncRunner.not_raised_of_mockSync hlogs hfeed.keys
          hfeed.rowPayloads hends.1 e)
  | ok result effects' =>
    rw [hcase] at hsync hattempt
    cases hsync with
    | returned _ hends hphase =>
      have hcounts := BaseODataSyncRunner.countsBuckets_of_mockSync hfeed.keys hfeed.rowPayloads
        hfew hends.1 hphase
      refine ⟨_, _, rfl, hcounts, ?_⟩
      have hiff : (records.itertuples.countP fun row => runner.odata.rowBucket digest row < 2) = 0 ↔
          (records.itertuples.all fun row => 2 ≤ runner.odata.rowBucket digest row) = true := by
        rw [List.countP_eq_zero, List.all_eq_true]
        simp only [decide_eq_true_eq, Nat.not_lt]
      rw [run_of_attempt_eq_ok hattempt logger, hcounts.failed]
      simp only [hiff]

/-- A digest under which the three rows fall into one bucket of each kind. -/
def codePointSum (url : String) : ℕ := (url.toList.map Char.toNat).sum + 41

open BaseODataSyncRunner (goodRows) in
theorem rowBuckets_goodRows :
    (@DataFrame.itertuples asciiTables (shippedFrame goodRows)).map
      ((shippedRunner goodRows).odata.rowBucket codePointSum) = [0, 58, 2] := by
  decide +kernel

open BaseODataSyncRunner (goodRows exists_syncEnds returned_of_syncEnds not_raised_of_mockSync) in
/-- A demo run over three rows, of which one fails, one counts as created and one as updated. -/
theorem mock_sync_counts_goodRows :
    ∃ (syncRecords : DataFrame → Effectful Unit Result) (result : Result) (effects' : Effects Unit),
      result .failed = 1 ∧ result .created = 1 ∧ result .updated = 1 ∧ result .skipped = 0 ∧
      (@EffectfulRunner.run asciiTables _ _ _
        (mockRunner (shippedRunner goodRows).mixin syncRecords) standardLogger).run ⟨(), [], 0⟩ =
          .ok 1 effects' := by
  have hlogs : (shippedRunner goodRows).odata.Logs standardLogger :=
    BaseODataSyncRunner.logs_of_dedupeKey standardLogger (by decide)
  obtain ⟨s, hends⟩ := exists_syncEnds (shippedRunner goodRows).odata standardLogger
    (mockUpsert codePointSum) (@DataFrame.itertuples asciiTables (shippedFrame goodRows)) ()
  have hloaded : @InventoryDomainMixin.loadRecords (shippedRunner goodRows).mixin asciiTables =
      .ok (shippedFrame goodRows) := rfl
  have hfeed := acceptedFeed_shipped hloaded
  have hphase := returned_of_syncEnds (by decide) hends <| not_raised_of_mockSync hlogs
    (@AcceptedFeed.keys asciiTables _ _ _ _ hfeed)
    (@AcceptedFeed.rowPayloads asciiTables _ _ _ _ hfeed) hends.1
  have hcount : ∀ p : ℕ → Bool,
      ((@DataFrame.itertuples asciiTables (shippedFrame goodRows)).countP fun row =>
        p ((shippedRunner goodRows).odata.rowBucket codePointSum row)) = [0, 58, 2].countP p := by
    intro p
    rw [← rowBuckets_goodRows, List.countP_map]
    rfl
  have hall : ((@DataFrame.itertuples asciiTables (shippedFrame goodRows)).all fun row =>
      2 ≤ (shippedRunner goodRows).odata.rowBucket codePointSum row) = false := by
    have hmap : ([0, 58, 2].all fun bucket => 2 ≤ bucket) = false := rfl
    rwa [← rowBuckets_goodRows, List.all_map] at hmap
  obtain ⟨result, effects', -, hcounts, hrun⟩ :=
    @mock_sync_counts asciiTables (shippedRunner goodRows) (by decide) codePointSum
      [shippedFrame goodRows] _ (shippedFrame goodRows) hfeed standardLogger hlogs
      (by rw [hcount fun bucket => bucket < 2]; decide)
      (fun _ effects => .ok s.result (effects.after s)) ⟨(), [], 0⟩
      (.returned (by decide) hends hphase)
  rw [hall] at hrun
  exact ⟨_, result, effects', hcounts.failed.trans (hcount fun bucket => bucket < 2),
    hcounts.created.trans (hcount fun bucket => 2 ≤ bucket ∧ bucket < 40),
    hcounts.updated.trans (hcount fun bucket => 40 ≤ bucket), hcounts.skipped, hrun⟩

end Sync
