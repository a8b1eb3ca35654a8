import InventorySync.Sync.BadRecords

/-!
# A whole run and its exit code

`BaseSyncRunner.run`, the template that calls the hooks in order, reports, and turns the outcome
into a process exit code. It looks at `result["failed"]` alone; that 0 still means that every row
was written rests on the breaker skipping rows only after rows have failed.
-/

open Python Pandas Ingest Transport ThreadPool

namespace Sync

/-! ### The template -/

/-- The hooks of a run, with settings `S` and client `C`. -/
structure BaseSyncRunner (S C : Type) where
  loadSettings : Except PyException S
  /-- `configure_logging(settings.log_level)` -/
  configureLogging : S → Except PyException Unit
  buildClient : S → Except PyException C
  acquireBearerToken : C → Except PyException Unit
  loadRecords : Except PyException DataFrame
  syncRecords : C → DataFrame → Except PyException (InsertionDict String ℕ)

/-- `d[key]` -/
def getItem (d : InsertionDict String ℕ) (key : String) : Except PyException ℕ :=
  match d.get? key with
  | some value => .ok value
  | none => .error ⟨.keyError, "'" ++ key ++ "'"⟩

namespace BaseSyncRunner

/-- What the `except` clause that catches the exception logs. -/
def failureReport (e : PyException) : LogCall where
  msg :=
    if e.isInstance [.validationError] then "Configuration error: %s"
    else if e.isInstance [.authenticationError] then "Authentication error: %s"
    else if e.isInstance [.fileNotFoundError] then "Source error: %s"
    else if e.isInstance [.recordValidationError] then "Data validation error: %s"
    else "Unexpected error during sync."
  args :=
    if e.isInstance [.validationError, .authenticationError, .fileNotFoundError,
      .recordValidationError] then [.str e.message] else []
  extra := InsertionDict.ofPairs [("error_type", .str e.cls.name)]

/-- The counts beyond the three that every result has. -/
def extraCounts (result : InsertionDict String ℕ) : List (String × ℕ) :=
  result.entries.filter fun entry => !(["created", "updated", "failed"].contains entry.1)

/-- The summary line. -/
def summary (result : InsertionDict String ℕ) (total created updated failed : ℕ) : LogCall where
  msg := "Sync complete: %d created, %d updated, %d failed" ++
    String.join ((extraCounts result).map fun entry => ", %d " ++ entry.1) ++ " (of %d records)."
  args := ([created, updated, failed] ++ (extraCounts result).map Prod.snd ++ [total]).map
    fun n => .int n
  extra := InsertionDict.ofPairs
    ([("records_created", .int created), ("records_updated", .int updated),
      ("records_failed", .int failed), ("total_records", .int total)] ++
      (extraCounts result).map fun entry => ("records_" ++ entry.1, .int entry.2))

variable {S C : Type} (self : BaseSyncRunner S C)

/-- The `try` block. -/
def attempt : Except PyException (DataFrame × InsertionDict String ℕ) := do
  let settings ← self.loadSettings
  self.configureLogging settings
  let client ← self.buildClient settings
  self.acquireBearerToken client
  let records ← self.loadRecords
  let result ← self.syncRecords client records
  return (records, result)

/-- Configure, authenticate, read, write, report. -/
def run (logger : Logger) : Except PyException ℕ :=
  match self.attempt with
  | .error e => do
    logger.log (failureReport e)
    return 1
  | .ok (records, result) => do
    let created ← getItem result "created"
    let updated ← getItem result "updated"
    let failed ← getItem result "failed"
    logger.log (summary result records.rows.length created updated failed)
    return if failed = 0 then 0 else 1

variable {self}

/-- The `try` block ends normally exactly when no hook raises. -/
theorem attempt_eq_ok {records : DataFrame} {result : InsertionDict String ℕ} :
    self.attempt = .ok (records, result) ↔ ∃ settings client,
      self.loadSettings = .ok settings ∧ self.configureLogging settings = .ok () ∧
        self.buildClient settings = .ok client ∧ self.acquireBearerToken client = .ok () ∧
        self.loadRecords = .ok records ∧ self.syncRecords client records = .ok result := by
  change Except.bind _ (fun settings => Except.bind _ fun _ => Except.bind _ fun client =>
    Except.bind _ fun _ => Except.bind _ fun records => Except.bind _ fun result =>
      Except.ok (records, result)) = _ ↔ _
  simp only [Except.bind_eq_ok]
  constructor
  · rintro ⟨settings, h1, ⟨⟩, h2, client, h3, ⟨⟩, h4, records', h5, result', h6, heq⟩
    cases heq
    exact ⟨settings, client, h1, h2, h3, h4, h5, h6⟩
  · rintro ⟨settings, client, h1, h2, h3, h4, h5, h6⟩
    exact ⟨settings, h1, (), h2, client, h3, (), h4, records, h5, result, h6, rfl⟩

/-- Reporting a failure does not raise. -/
theorem log_failureReport (logger : Logger) (e : PyException) :
    logger.log (failureReport e) = .ok () := by
  apply logger.log_ok _
  intro name hname
  rw [failureReport, InsertionDict.keys_ofPairs, List.mem_eraseDups] at hname
  obtain rfl : name = "error_type" := by simpa using hname
  decide

/-- No log record has an attribute whose name starts like the summary's fields. -/
theorem isReservedKey_records (key : String) : isReservedKey ("records_" ++ key) = false := by
  -- eight characters tell the summary's fields from every attribute of a log record
  have hprefix : ("records_" ++ key).toList.take 8 = "records_".toList := by
    rw [String.toList_append]
    exact List.take_left' rfl
  have hother : ∀ name ∈ ["message", "asctime"] ++ logRecordAttributes,
      name.toList.take 8 ≠ "records_".toList := by decide +kernel
  rw [Bool.eq_false_iff, isReservedKey, ne_eq, Bool.or_eq_true, List.contains_iff_mem,
    List.contains_iff_mem, ← List.mem_append]
  exact fun hmem => hother _ hmem hprefix

/-- Reporting the summary does not raise. -/
theorem log_summary (logger : Logger) (result : InsertionDict String ℕ)
    (total created updated failed : ℕ) :
    logger.log (summary result total created updated failed) = .ok () := by
  apply logger.log_ok _
  intro name hname
  have hmem : name ∈ ["records_created", "records_updated", "records_failed", "total_records"] ∨
      name ∈ (extraCounts result).map fun entry => "records_" ++ entry.1 := by
    change name ∈ (InsertionDict.ofPairs _).keys at hname
    rw [InsertionDict.keys_ofPairs, List.mem_eraseDups, List.map_append, List.mem_append,
      List.map_map] at hname
    exact hname
  rcases hmem with hmem | hmem
  · -- the four fixed names are checked one by one, the others start with `records_`
    have hfields : ∀ field ∈ ["records_created", "records_updated", "records_failed",
        "total_records"], isReservedKey field = false := by decide
    exact hfields name hmem
  · obtain ⟨entry, -, rfl⟩ := List.mem_map.1 hmem
    exact isReservedKey_records entry.1

/-- A run whose `try` block raised exits with 1. -/
theorem run_of_error (logger : Logger) {e : PyException} (h : self.attempt = .error e) :
    self.run logger = .ok 1 := by
  rw [run, h]
  simp only [log_failureReport]
  rfl

end BaseSyncRunner

/-! ### Runs of the inventory service -/

/-- `result` as the dictionary that `sync_records` returns. -/
def Result.toDict (result : Result) : InsertionDict String ℕ :=
  InsertionDict.ofPairs [("created", result .created), ("updated", result .updated),
    ("failed", result .failed), ("skipped", result .skipped)]

/-- What a `sync_records` call can come to, with the trace of its workers. -/
inductive BaseODataSyncRunner.SyncRecords {ι ω : Type} (runner : BaseODataSyncRunner)
    (logger : Logger) (upsert : Upsert ι ω) (records : List NamedTuple) (world : ω) :
    Except PyException (InsertionDict String ℕ) → List Event → Prop
  /-- `ThreadPoolExecutor` refuses to be built. -/
  | refused (hworkers : runner.maxWorkers ≤ 0) :
      SyncRecords runner logger upsert records world
        (.error ⟨.valueError, "max_workers must be greater than 0"⟩) []
  | returned {s} (hworkers : 1 ≤ runner.maxWorkers)
      (hends : runner.SyncEnds logger upsert records world s) (hphase : s.phase = .exited none) :
      SyncRecords runner logger upsert records world (.ok s.result.toDict) s.pool.shared.trace
  | raised {s e} (hworkers : 1 ≤ runner.maxWorkers)
      (hends : runner.SyncEnds logger upsert records world s)
      (hphase : s.phase = .exited (some e)) :
      SyncRecords runner logger upsert records world (.error e) s.pool.shared.trace

/-- The hooks of the inventory service: `load_records` is that of its ingest base. -/
def DataverseInventorySyncRunner.base [IdentifierTables] {S C : Type}
    (runner : DataverseInventorySyncRunner) (hooks : BaseSyncRunner S C) : BaseSyncRunner S C :=
  { hooks with loadRecords := runner.mixin.loadRecords }

namespace BaseSyncRunner

variable {S C : Type} {self : BaseSyncRunner S C} {records : DataFrame} {result : Result}

/-- A run whose hooks returned exits with 0 exactly when no row failed. -/
theorem run_of_ok (logger : Logger) (h : self.attempt = .ok (records, result.toDict)) :
    self.run logger = .ok (if result .failed = 0 then 0 else 1) := by
  have hcreated : getItem result.toDict "created" = .ok (result .created) := rfl
  have hupdated : getItem result.toDict "updated" = .ok (result .updated) := rfl
  have hfailed : getItem result.toDict "failed" = .ok (result .failed) := rfl
  rw [run, h]
  simp only [hcreated, hupdated, hfailed]
  change Except.bind (logger.log _) _ = _
  rw [log_summary]
  rfl

end BaseSyncRunner

namespace BaseODataSyncRunner

variable {ι ω : Type} {self : BaseODataSyncRunner} {logger : Logger} {upsert : Upsert ι ω}
  {records : List NamedTuple} {world : ω} {s : WriteLoop NamedTuple Stage (Shared ω)}

/-- When `sync_records` returns, no row failed exactly when every row's `upsert_record` call was
made and returned. -/
theorem failed_eq_zero_iff (h : self.SyncReaches logger upsert records world s)
    (hphase : s.phase = .exited none) :
    s.result .failed = 0 ↔ ∀ (i : ℕ) row, records[i]? = some row → ∃ call response,
      .called i call ∈ s.pool.shared.trace ∧ .returned i (.ok response) ∈ s.pool.shared.trace := by
  constructor
  · intro hfailed i row hrow
    obtain ⟨outcome, events, hresult, hevents, hreturned⟩ := returned_of_syncReaches h hphase hrow
    have houtcome := outcome_of_failed_eq_zero h hphase hfailed hresult
    have hmem : ∀ ev ∈ events, ev ∈ s.pool.shared.trace :=
      fun ev hev => (mem_eventsOf.1 (hevents ▸ hev)).1
    cases hreturned with
    | skipped => exact absurd rfl houtcome.2
    | written => exact ⟨_, _, hmem _ (by simp; rfl), hmem _ (by simp; rfl)⟩
    | rejected => exact absurd rfl houtcome.1
    | unbuilt => exact absurd rfl houtcome.1
  · intro hall
    rw [(WriteLoop.inv_of_reachable h).count_of_returned hphase, List.count_eq_zero]
    intro hmem
    obtain ⟨i, hi⟩ := List.getElem?_of_mem hmem
    obtain ⟨row, hrow, -, -⟩ := history_of_result h hi
    rw [(WriteLoop.inv_of_reachable h).rows_of_returned hphase] at hrow
    obtain ⟨outcome, events, hresult, hevents, hreturned⟩ := returned_of_syncReaches h hphase hrow
    cases hi.symm.trans hresult
    obtain ⟨call, response, -, hresponse⟩ := hall i row hrow
    have hmem : Event.returned i (.ok response) ∈ events :=
      hevents ▸ mem_eventsOf.2 ⟨hresponse, rfl⟩
    -- only `written` has a response among its events, and that is counted as no failure
    cases hreturned with
    | written _ _ _ houtcome =>
      unfold outcomeOf at houtcome
      split at houtcome <;> cases houtcome
    | rejected => simp at hmem
    | unbuilt => simp at hmem

end BaseODataSyncRunner

/-- A run exits with 0 exactly when no hook raised and, for every record, `upsert_record` was called
and returned. If `sync_records` returns with a row skipped, at least a threshold of rows failed, and
the run exits with 1. -/
theorem run_eq_zero_iff [IdentifierTables] {S ι ω : Type} (runner : DataverseInventorySyncRunner)
    (hooks : BaseSyncRunner S (Upsert ι ω)) (logger : Logger) (world : ω) (trace : List Event)
    (hsync : ∀ settings client records, hooks.loadSettings = .ok settings →
      hooks.buildClient settings = .ok client → runner.mixin.loadRecords = .ok records →
        runner.odata.SyncRecords logger client records.itertuples world
          (hooks.syncRecords client records) trace) :
    ((runner.base hooks).run logger = .ok 0 ∨ (runner.base hooks).run logger = .ok 1) ∧
      ((runner.base hooks).run logger = .ok 0 ↔
        ∃ records result, (runner.base hooks).attempt = .ok (records, result) ∧
          ∀ (i : ℕ) row, records.itertuples[i]? = some row → ∃ call response,
            .called i call ∈ trace ∧ .returned i (.ok response) ∈ trace) ∧
      ∀ records result skipped, (runner.base hooks).attempt = .ok (records, result) →
        getItem result "skipped" = .ok skipped → skipped ≠ 0 →
          (∃ failed, getItem result "failed" = .ok failed ∧
            max 1 runner.failureThreshold ≤ failed) ∧
          (runner.base hooks).run logger = .ok 1 := by
  cases hattempt : (runner.base hooks).attempt with
  | error e =>
    have hrun := BaseSyncRunner.run_of_error logger hattempt
    refine ⟨.inr hrun, ⟨fun hzero => ?_, ?_⟩, by simp⟩
    · rw [hrun] at hzero
      cases hzero
    · rintro ⟨records, result, hok, -⟩
      cases hok
  | ok pair =>
    obtain ⟨records, dict⟩ := pair
    obtain ⟨settings, client, hsettings, -, hclient, -, hrecords, hresult⟩ :=
      BaseSyncRunner.attempt_eq_ok.1 hattempt
    have hends := hsync settings client records hsettings hclient hrecords
    rw [show hooks.syncRecords client records = .ok dict from hresult] at hends
    -- a `sync_records` that returned was neither refused nor aborted
    cases hends with
    | @returned s hworkers hends hphase =>
      have hrun := BaseSyncRunner.run_of_ok logger hattempt
      have hiff := BaseODataSyncRunner.failed_eq_zero_iff hends.1 hphase
      refine ⟨?_, ?_, ?_⟩
      · rw [hrun]
        by_cases hzero : s.result .failed = 0 <;> simp [hzero]
      · rw [hrun]
        by_cases hzero : s.result .failed = 0
        · simp only [hzero, if_true, true_iff]
          exact ⟨records, _, rfl, hiff.1 hzero⟩
        · simp only [hzero, if_false, Except.ok.injEq, one_ne_zero, false_iff]
          rintro ⟨records', result', heq, hall⟩
          cases heq
          exact hzero (hiff.2 hall)
      · intro records' result' skipped heq hget hskipped
        cases heq
        have hcount : getItem s.result.toDict "skipped" = .ok (s.result .skipped) := rfl
        cases hcount.symm.trans hget
        have hle := BaseODataSyncRunner.le_failed_of_skipped hends.1 hphase hskipped
        refine ⟨⟨s.result .failed, rfl, hle⟩, ?_⟩
        have hne : s.result .failed ≠ 0 := by omega
        rw [hrun, if_neg hne]

namespace BaseODataSyncRunner

/-- A runner over three rows, whose breaker trips at the given number of failures. -/
def goodRunner (failureThreshold : ℤ) : DataverseInventorySyncRunner :=
  { shippedRunner goodRows with failureThreshold }

/-- Where a schedule leads it. -/
def goodRun {ω : Type} (failureThreshold : ℤ) (upsert : Upsert Unit ω) (world : ω)
    (schedule : List (WriteLoop.Label Unit)) : Option (WriteLoop NamedTuple Stage (Shared ω)) :=
  TransitionSystem.exec
    (WriteLoop.step (goodRunner failureThreshold).odata.maxWorkers.toNat
      (goodRunner failureThreshold).odata.writeWindowSize
      ((goodRunner failureThreshold).odata.upsertCallable standardLogger upsert))
    (WriteLoop.start (@DataFrame.itertuples asciiTables (shippedFrame goodRows))
      ⟨.new (goodRunner failureThreshold).odata.failureThreshold, world, []⟩) schedule

/-- The first call fails, and the others are skipped. -/
def skippingSchedule : List (WriteLoop.Label Unit) :=
  List.replicate 3 .main ++ .dequeue 0 :: List.replicate 4 (.advance 0 ()) ++
    [.dequeue 1, .advance 1 (), .dequeue 2, .advance 2 (), .main, .collect 0, .collect 1,
      .collect 2, .main, .main]

/-- The end of a run in which the destination creates every record. -/
def createdRun : WriteLoop NamedTuple Stage (Shared Unit) :=
  (goodRun 5 (dataverseClient.upsertRecord creating) () (inTurn 3)).get rfl

/-- The end of a run in which it refuses every connection and the breaker trips at once. -/
def trippedRun : WriteLoop NamedTuple Stage (Shared Unit) :=
  (goodRun 1 refuse () skippingSchedule).get rfl

/-- Hooks that raise nothing, over a run that returned. -/
def hooksOver (upsert : Upsert Unit Unit) (s : WriteLoop NamedTuple Stage (Shared Unit)) :
    BaseSyncRunner Unit (Upsert Unit Unit) where
  loadSettings := .ok ()
  configureLogging _ := .ok ()
  buildClient _ := .ok upsert
  acquireBearerToken _ := .ok ()
  loadRecords := .ok (shippedFrame goodRows)
  syncRecords _ _ := .ok s.result.toDict

/-- A run that creates all rows exits with 0, and one that skips two of them with 1. -/
theorem run_eq_zero_iff_goodRows :
    (@DataverseInventorySyncRunner.base asciiTables _ _ (goodRunner 5)
        (hooksOver (dataverseClient.upsertRecord creating) createdRun)).run standardLogger =
      .ok 0 ∧
    (@DataverseInventorySyncRunner.base asciiTables _ _ (goodRunner 1)
        (hooksOver refuse trippedRun)).run standardLogger = .ok 1 := by
  have hcreated := syncEnds_of_exec (goodRunner 5).odata standardLogger
    (dataverseClient.upsertRecord creating)
    (@DataFrame.itertuples asciiTables (shippedFrame goodRows)) () (inTurn 3)
    (s := createdRun) rfl rfl
  have htripped := syncEnds_of_exec (goodRunner 1).odata standardLogger refuse
    (@DataFrame.itertuples asciiTables (shippedFrame goodRows)) () skippingSchedule
    (s := trippedRun) rfl rfl
  constructor
  · refine (@run_eq_zero_iff asciiTables _ _ _ (goodRunner 5) _ standardLogger ()
      createdRun.pool.shared.trace ?_).2.1.2 ⟨shippedFrame goodRows, _, rfl, ?_⟩
    · rintro settings client records - hclient hrecords
      cases hclient
      cases hrecords
      exact .returned (by decide) hcreated rfl
    · intro i row hrow
      obtain ⟨hi, -⟩ := List.getElem?_eq_some_iff.1 hrow
      match i, hi with
      | 0, _ => exact ⟨_, _, List.mem_of_getElem? (i := 10) rfl, List.mem_of_getElem? (i := 9) rfl⟩
      | 1, _ => exact ⟨_, _, List.mem_of_getElem? (i := 6) rfl, List.mem_of_getElem? (i := 5) rfl⟩
      | 2, _ => exact ⟨_, _, List.mem_of_getElem? (i := 2) rfl, List.mem_of_getElem? (i := 1) rfl⟩
  · refine ((@run_eq_zero_iff asciiTables _ _ _ (goodRunner 1) _ standardLogger ()
      trippedRun.pool.shared.trace ?_).2.2 (shippedFrame goodRows) _ 2 rfl rfl (by decide)).2
    rintro settings client records - hclient hrecords
    cases hclient
    cases hrecords
    exact .returned (by decide) htripped rfl

end BaseODataSyncRunner

end Sync
