import InventorySync.Sync.DataverseRunner

/-!
# Reporting a failed record

What `_upsert_one` does between an exception of `upsert_record` that it counts as a failed record
and its return. It logs first, with an `extra` mapping that has the key column's name as a key, and
only then tells the breaker. A key column with the name of an attribute that every log record has
makes the logging call itself raise, and one called `exception_type` loses its value.

* `logs_standardLogger_iff`: the runners that can log;
* `reportsFailure_iff`: when a failed record is reported.
-/

open Python Pandas Transport ThreadPool

namespace Sync

namespace BaseODataSyncRunner

variable {runner : BaseODataSyncRunner}

/-- The logger refuses a failure line exactly when the key column's name is reserved. -/
theorem log_failureLog (key : PyValue) (e : PyException) :
    standardLogger.log (runner.failureLog key e) = .ok () ↔
      isReservedKey runner.dedupeKey = false := by
  constructor
  · intro hlog
    have hmem : runner.dedupeKey ∈ (runner.failureLog key e).extra.keys := by
      rw [failureLog, InsertionDict.keys_ofPairs, List.mem_eraseDups]
      exact List.mem_cons_self
    cases hfind : (runner.failureLog key e).extra.keys.find? isReservedKey with
    | none => exact find?_isReservedKey_eq_none_iff.1 hfind _ hmem
    | some name =>
      simp [standardLogger, makeRecord, hfind] at hlog
  · intro hkey
    exact (logs_of_dedupeKey standardLogger hkey).failureLog key e

/-- A run can log exactly when its key column's name is not reserved. -/
theorem logs_standardLogger_iff :
    runner.Logs standardLogger ↔ isReservedKey runner.dedupeKey = false :=
  ⟨fun hlogs => (log_failureLog .none ⟨.httpError, ""⟩).1 (hlogs.failureLog _ _),
    logs_of_dedupeKey standardLogger⟩

/-- The fields of a failure line: where both names are one, the type name takes the place of the
key value. -/
theorem get?_failureLog (key : PyValue) (e : PyException) (name : String) :
    (runner.failureLog key e).extra.get? name =
      if name = "exception_type" then some (.str e.cls.name)
      else if name = runner.dedupeKey then some key else none := by
  simp only [failureLog, InsertionDict.ofPairs, List.foldl_cons, List.foldl_nil,
    InsertionDict.get?_set, InsertionDict.get?_empty]

variable {ι ω : Type}

/-- The failure `e` of the request of a row with the given column labels is reported: the call that
found the breaker closed in `s` returns `failed`, having called `record_failure` once, and the log
line carries the row's key value and the type name. -/
structure ReportsFailure (runner : BaseODataSyncRunner) (upsert : Upsert ι ω) (i : ℕ)
    (columns : List String) (row : NamedTuple) (key : PyValue) (payload : Payload)
    (e : PyException) (inp : ι) (s : Shared ω) : Prop where
  /-- The whole call, when no other thread interrupts it. -/
  returned : (runner.upsertCallable standardLogger upsert).run i row inp .entered s =
    (.ok .failed,
      ⟨s.breaker.recordFailure.2, (upsert i (runner.upsertCall key payload) inp s.world).2,
        [.recordedFailure i s.breaker.recordFailure.1, .returned i (.error e),
          .called i (runner.upsertCall key payload), .checked i false] ++ s.trace⟩)
  /-- From the exception on, whatever other threads have made of the breaker since the check. -/
  resumed : ∀ s' : Shared ω,
    (runner.upsertCallable standardLogger upsert).run i row inp (.answered key (.error e)) s' =
      (.ok .failed, ⟨s'.breaker.recordFailure.2, s'.world,
        .recordedFailure i s'.breaker.recordFailure.1 :: s'.trace⟩)
  keyLogged : ∃ value, cell columns row.values runner.dedupeKey = some value ∧
    (runner.failureLog key e).extra.get? runner.dedupeKey = some value
  typeLogged : (runner.failureLog key e).extra.get? "exception_type" = some (.str e.cls.name)

/-- The failure of a request is reported exactly when the key column's name is not reserved, and
the row's key value is what the line has under that name. -/
theorem reportsFailure_iff (runner : BaseODataSyncRunner) (upsert : Upsert ι ω) (i : ℕ)
    (columns : List String) {row : NamedTuple} {key : PyValue} {payload : Payload}
    (hkey : row.getattr runner.dedupeKey = .ok key)
    (hpayload : runner.buildPayload row = .ok payload) {e : PyException}
    (he : isTransportFailure e = true) {inp : ι} {s : Shared ω}
    (hclosed : s.breaker.isTripped = false)
    (hraised : (upsert i (runner.upsertCall key payload) inp s.world).1 = .error e) :
    runner.ReportsFailure upsert i columns row key payload e inp s ↔
      isReservedKey runner.dedupeKey = false ∧
        cell columns row.values runner.dedupeKey =
          some (if runner.dedupeKey = "exception_type" then .str e.cls.name else key) := by
  have hlogged : (runner.failureLog key e).extra.get? runner.dedupeKey =
      some (if runner.dedupeKey = "exception_type" then .str e.cls.name else key) := by
    rw [get?_failureLog, if_pos rfl]
    split <;> rfl
  constructor
  · intro hreports
    obtain ⟨value, hcell, hvalue⟩ := hreports.keyLogged
    refine ⟨?_, hcell.trans (hvalue.symm.trans hlogged)⟩
    -- had the line been refused, the call would have raised
    rw [← log_failureLog key e]
    cases hlog : standardLogger.log (runner.failureLog key e) with
    | ok _ => rfl
    | error e' =>
      have hunlogged : (runner.upsertCallable standardLogger upsert).run i row inp
          (.answered key (.error e)) s = (.error e', s) := by
        apply Callable.run_of_finished
        simp [upsertCallable, upsertStep, he, hlog]
      have hfailed := hreports.resumed s
      rw [hunlogged] at hfailed
      cases hfailed
  · rintro ⟨hreserved, hcell⟩
    have hlogs := logs_of_dedupeKey standardLogger hreserved
    refine ⟨?_, run_of_rejected hlogs key he, ⟨_, hcell, hlogged⟩, ?_⟩
    · rw [run_of_closed hclosed, run_of_prepared hkey hpayload, hraised,
        run_of_rejected hlogs key he]
      rfl
    · rw [get?_failureLog, if_pos rfl]

/-- A request that the destination rejects. -/
def rejects : Upsert Unit Unit := fun _ _ _ _ => (.error ⟨.httpError, "400 Client Error"⟩, ())

/-- A run over a feed with the given key column. -/
def keyedRunner (dedupeKey : String) : BaseODataSyncRunner :=
  DataverseInventorySyncRunner.odata
    { source := .oneShot (.error ⟨.fileNotFoundError, "feed"⟩), dedupeKey }

/-- A row of such a feed. -/
def keyedRow (dedupeKey : String) : NamedTuple where
  fields := [dedupeKey, "item_name", "unit_price"]
  values := [.str "SKU-1", .str "Bolt", .int 3]
  length_values := rfl

/-- A rejected row of a feed with the shipped key column is reported. -/
theorem reportsFailure_skuId : ∃ payload,
    (keyedRunner "sku_id").ReportsFailure rejects 0 (keyedRow "sku_id").fields (keyedRow "sku_id")
      (.str "SKU-1") payload ⟨.httpError, "400 Client Error"⟩ () ⟨.new 5, (), []⟩ :=
  ⟨_, (reportsFailure_iff (keyedRunner "sku_id") rejects 0 _ rfl rfl rfl rfl rfl).2
    ⟨by decide, rfl⟩⟩

/-- With a key column called `name` the logging call raises, and the breaker never hears of the
failure. -/
theorem not_reportsFailure_name : ∃ payload,
    (keyedRow "name").getattr "name" = .ok (.str "SKU-1") ∧
      (keyedRunner "name").buildPayload (keyedRow "name") = .ok payload ∧
      ((keyedRunner "name").upsertCallable standardLogger rejects).run 0 (keyedRow "name") ()
          .entered ⟨.new 5, (), []⟩ =
        (.error ⟨.keyError, "Attempt to overwrite 'name' in LogRecord"⟩,
          ⟨.new 5, (), [.returned 0 (.error ⟨.httpError, "400 Client Error"⟩),
            .called 0 ((keyedRunner "name").upsertCall (.str "SKU-1") payload),
            .checked 0 false]⟩) ∧
      ¬(keyedRunner "name").ReportsFailure rejects 0 (keyedRow "name").fields (keyedRow "name")
        (.str "SKU-1") payload ⟨.httpError, "400 Client Error"⟩ () ⟨.new 5, (), []⟩ := by
  have hrun : ∀ payload,
      (keyedRunner "name").buildPayload (keyedRow "name") = .ok payload →
        ((keyedRunner "name").upsertCallable standardLogger rejects).run 0 (keyedRow "name") ()
            .entered ⟨.new 5, (), []⟩ =
          (.error ⟨.keyError, "Attempt to overwrite 'name' in LogRecord"⟩,
            ⟨.new 5, (), [.returned 0 (.error ⟨.httpError, "400 Client Error"⟩),
              .called 0 ((keyedRunner "name").upsertCall (.str "SKU-1") payload),
              .checked 0 false]⟩) := by
    intro payload hpayload
    rw [run_of_closed rfl, run_of_prepared rfl hpayload]
    exact Callable.run_of_finished rfl
  refine ⟨_, rfl, rfl, hrun _ rfl, fun hreports => ?_⟩
  have hreturned := hreports.returned
  rw [hrun _ rfl] at hreturned
  cases hreturned

end BaseODataSyncRunner

end Sync
