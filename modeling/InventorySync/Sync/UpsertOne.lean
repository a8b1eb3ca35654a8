import InventorySync.Foundations.ThreadPool
import InventorySync.Pandas.DataFrame
import InventorySync.Python.Logging
import InventorySync.Sync.CircuitBreaker
import InventorySync.Transport.ODataClient

/-!
# Upserting one record

`BaseODataSyncRunner._upsert_one`, once as the function it is (`upsertOne`) and once cut into the
atomic steps that worker threads interleave (`upsertStep`): the breaker check, the evaluation of
the request's arguments, the `upsert_record` call, and the recording of its outcome. Each step adds
what it did to a trace.

* `Step`, `step_of_upsertStep`: everything a step can do;
* `run_upsertCallable`: the steps of one call, taken without interruption, are `upsertOne`.
-/

open Python Pandas Transport

namespace Sync

/-- What `_upsert_one` returns. -/
inductive Outcome
  | created
  | updated
  | failed
  | skipped
  deriving DecidableEq

/-- The configuration of an OData sync run. -/
structure BaseODataSyncRunner where
  dedupeKey : String
  entitySet : String
  alternateKeyField : String
  buildPayload : NamedTuple → Except PyException Payload
  maxWorkers : ℤ
  failureThreshold : ℤ
  writeWindowSize : ℤ

/-- The exceptions `_upsert_one` counts as a failed record. -/
def isTransportFailure (e : PyException) : Bool :=
  e.isInstance [.httpError, .connectionError, .timeout]

/-- `"created" if response.status_code == 201 else "updated"` -/
def outcomeOf (response : Response) : Outcome :=
  if response.statusCode = 201 then .created else .updated

namespace BaseODataSyncRunner

variable (self : BaseODataSyncRunner)

/-- The arguments `_upsert_one` passes to `upsert_record`. -/
def upsertCall (key : PyValue) (payload : Payload) : UpsertCall :=
  ⟨self.entitySet, self.alternateKeyField, key, payload⟩

/-- The log line of a failed record. -/
def failureLog (key : PyValue) (e : PyException) : LogCall where
  msg := "FAILED %s=%s: %s: %s"
  args := [.str self.dedupeKey, key, .str e.cls.name, .str e.message]
  extra := InsertionDict.ofPairs
    [(self.dedupeKey, key), ("exception_type", .str e.cls.name)]

/-- The log line of the trip. -/
def tripLog : LogCall where
  msg := "Circuit breaker tripped after %d consecutive failures; skipping remaining records."
  args := [.int self.failureThreshold]
  extra := InsertionDict.ofPairs [("failure_threshold", .int self.failureThreshold)]

/-- The log lines of a run are written without raising. -/
structure Logs (runner : BaseODataSyncRunner) (logger : Logger) : Prop where
  failureLog : ∀ key e, logger.log (runner.failureLog key e) = .ok ()
  tripLog : logger.log runner.tripLog = .ok ()

/-- A row whose request can be prepared: it has a string key, its mapped columns can be read, and
JSON can hold its payload. -/
def Sendable (runner : BaseODataSyncRunner) (row : NamedTuple) : Prop :=
  ∃ key payload json, row.getattr runner.dedupeKey = .ok (.str key) ∧
    runner.buildPayload row = .ok payload ∧ encodePayload payload = .ok json

/-- Unless the dedupe key is the name of an attribute of every log record, a run can log. -/
theorem logs_of_dedupeKey {runner : BaseODataSyncRunner} (logger : Logger)
    (hkey : isReservedKey runner.dedupeKey = false) : runner.Logs logger where
  failureLog key e := by
    apply logger.log_ok _
    intro name hname
    rw [failureLog, InsertionDict.keys_ofPairs, List.mem_eraseDups] at hname
    -- the one name in the record that the configuration chooses is the key column's
    obtain rfl | rfl : name = runner.dedupeKey ∨ name = "exception_type" := by simpa using hname
    · exact hkey
    · decide
  tripLog := by
    apply logger.log_ok _
    intro name hname
    rw [tripLog, InsertionDict.keys_ofPairs, List.mem_eraseDups] at hname
    obtain rfl : name = "failure_threshold" := by simpa using hname
    decide

variable {ι ω : Type} (logger : Logger) (upsert : Upsert ι ω)

/-- What follows an `upsert_record` call that returned or raised. -/
def settle (key : PyValue) (reply : Except PyException Response)
    (breaker : ConsecutiveFailureCircuitBreaker) :
    Except PyException Outcome × ConsecutiveFailureCircuitBreaker :=
  match reply with
  | .ok response => (.ok (outcomeOf response), breaker.recordSuccess)
  | .error e =>
    if isTransportFailure e then
      -- the failure is logged first: if that raises, the breaker never hears of it
      match logger.log (self.failureLog key e) with
      | .error e' => (.error e', breaker)
      | .ok () =>
        let (trips, breaker) := breaker.recordFailure
        if trips then ((logger.log self.tripLog).map fun _ => .failed, breaker)
        else (.ok .failed, breaker)
    -- any other exception leaves `_upsert_one`
    else (.error e, breaker)

/-- Upsert a single record, classifying the outcome. -/
def upsertOne (i : ℕ) (row : NamedTuple) (inp : ι) (breaker : ConsecutiveFailureCircuitBreaker)
    (world : ω) : Except PyException Outcome × ConsecutiveFailureCircuitBreaker × ω :=
  if breaker.isTripped then (.ok .skipped, breaker, world)
  else
    -- `key = getattr(row, self.dedupe_key)` stands before the `try`
    match row.getattr self.dedupeKey with
    | .error e => (.error e, breaker, world)
    | .ok key =>
      let (reply, world) :=
        match self.buildPayload row with
        | .error e => (.error e, world)
        | .ok payload => upsert i (self.upsertCall key payload) inp world
      let (result, breaker) := self.settle logger key reply breaker
      (result, breaker, world)

end BaseODataSyncRunner

/-! ### The steps of a call -/

/-- Where a running call stands. -/
inductive Stage
  | entered
  /-- `is_tripped` was `False`. -/
  | checked
  /-- The arguments are evaluated and `upsert_record` is running. -/
  | calling (key : PyValue) (payload : Payload)
  /-- The `try` block is over, with this reply. -/
  | answered (key : PyValue) (reply : Except PyException Response)

/-- What a step of call `i` did. -/
inductive Event
  /-- It read `is_tripped`. -/
  | checked (i : ℕ) (tripped : Bool)
  /-- It started an `upsert_record` call. -/
  | called (i : ℕ) (call : UpsertCall)
  /-- Its `upsert_record` call finished. -/
  | returned (i : ℕ) (reply : Except PyException Response)
  /-- It called `record_failure`, which returned `trips`. -/
  | recordedFailure (i : ℕ) (trips : Bool)
  /-- It called `record_success`. -/
  | recordedSuccess (i : ℕ)

/-- The call an event belongs to. -/
def Event.id : Event → ℕ
  | .checked i _ => i
  | .called i _ => i
  | .returned i _ => i
  | .recordedFailure i _ => i
  | .recordedSuccess i => i

/-- The state all calls of a run share: the breaker, the world that requests act on, and the trace
of events, newest first. -/
structure Shared (ω : Type) where
  breaker : ConsecutiveFailureCircuitBreaker
  world : ω
  trace : List Event

namespace BaseODataSyncRunner

open ThreadPool

variable {ι ω : Type} (self : BaseODataSyncRunner) (logger : Logger) (upsert : Upsert ι ω)

/-- One atomic step of the call with the given number and row. -/
def upsertStep (i : ℕ) (row : NamedTuple) : Stage → ι → Shared ω →
    Progress Stage (Except PyException Outcome) × Shared ω
  | .entered, _, s =>
    let s' := { s with trace := .checked i s.breaker.isTripped :: s.trace }
    if s.breaker.isTripped then (.finished (.ok .skipped), s') else (.running .checked, s')
  | .checked, _, s =>
    -- no other thread sees this step's work but for the request it starts
    match row.getattr self.dedupeKey with
    | .error e => (.finished (.error e), s)
    | .ok key =>
      match self.buildPayload row with
      -- raised inside the `try`: the same handlers see it as see a failed request
      | .error e => (.running (.answered key (.error e)), s)
      | .ok payload =>
        (.running (.calling key payload),
          { s with trace := .called i (self.upsertCall key payload) :: s.trace })
  | .calling key payload, inp, s =>
    let (reply, world) := upsert i (self.upsertCall key payload) inp s.world
    (.running (.answered key reply), { s with world, trace := .returned i reply :: s.trace })
  | .answered _ (.ok response), _, s =>
    (.finished (.ok (outcomeOf response)),
      { s with breaker := s.breaker.recordSuccess, trace := .recordedSuccess i :: s.trace })
  | .answered key (.error e), _, s =>
    if isTransportFailure e then
      match logger.log (self.failureLog key e) with
      | .error e' => (.finished (.error e'), s)
      | .ok () =>
        let (trips, breaker) := s.breaker.recordFailure
        let s' := { s with breaker, trace := .recordedFailure i trips :: s.trace }
        if trips then (.finished ((logger.log self.tripLog).map fun _ => .failed), s')
        else (.finished (.ok .failed), s')
    else (.finished (.error e), s)

/-- A bound on the number of steps a call still takes. -/
def stepsLeft : Stage → ℕ
  | .entered => 3
  | .checked => 2
  | .calling _ _ => 1
  | .answered _ _ => 0

/-- Everything a step of a call can do, by where the call stands. -/
inductive Step (i : ℕ) (row : NamedTuple) (s : Shared ω) :
    Stage → ι → Progress Stage (Except PyException Outcome) → Shared ω → Prop
  | skip {inp} (htripped : s.breaker.isTripped = true) :
      Step i row s .entered inp (.finished (.ok .skipped))
        { s with trace := .checked i true :: s.trace }
  | check {inp} (hclosed : s.breaker.isTripped = false) :
      Step i row s .entered inp (.running .checked) { s with trace := .checked i false :: s.trace }
  | unreadable {inp e} (hkey : row.getattr self.dedupeKey = .error e) :
      Step i row s .checked inp (.finished (.error e)) s
  | unbuilt {inp key e} (hkey : row.getattr self.dedupeKey = .ok key)
      (hpayload : self.buildPayload row = .error e) :
      Step i row s .checked inp (.running (.answered key (.error e))) s
  | call {inp key payload} (hkey : row.getattr self.dedupeKey = .ok key)
      (hpayload : self.buildPayload row = .ok payload) :
      Step i row s .checked inp (.running (.calling key payload))
        { s with trace := .called i (self.upsertCall key payload) :: s.trace }
  | answer {inp key payload reply world}
      (hreply : upsert i (self.upsertCall key payload) inp s.world = (reply, world)) :
      Step i row s (.calling key payload) inp (.running (.answered key reply))
        { s with world, trace := .returned i reply :: s.trace }
  | succeed {inp key response} :
      Step i row s (.answered key (.ok response)) inp (.finished (.ok (outcomeOf response)))
        { s with breaker := s.breaker.recordSuccess, trace := .recordedSuccess i :: s.trace }
  | escape {inp key e} (he : isTransportFailure e = false) :
      Step i row s (.answered key (.error e)) inp (.finished (.error e)) s
  | unlogged {inp key e e'} (he : isTransportFailure e = true)
      (hlog : logger.log (self.failureLog key e) = .error e') :
      Step i row s (.answered key (.error e)) inp (.finished (.error e')) s
  | fail {inp key e} (he : isTransportFailure e = true)
      (hlog : logger.log (self.failureLog key e) = .ok ()) {result}
      (hresult : result = .ok .failed ∨ s.breaker.recordFailure.1 = true ∧
        ∃ e', logger.log self.tripLog = .error e' ∧ result = .error e') :
      Step i row s (.answered key (.error e)) inp (.finished result)
        { s with
          breaker := s.breaker.recordFailure.2
          trace := .recordedFailure i s.breaker.recordFailure.1 :: s.trace }

variable {self logger upsert}

/-- The one place where the branches of `upsertStep` are taken apart. -/
theorem step_of_upsertStep {i : ℕ} {row : NamedTuple} {stage : Stage} {inp : ι} {s s' : Shared ω}
    {pr : Progress Stage (Except PyException Outcome)}
    (h : self.upsertStep logger upsert i row stage inp s = (pr, s')) :
    self.Step logger upsert i row s stage inp pr s' := by
  cases stage with
  | entered =>
    cases htripped : s.breaker.isTripped with
    | true =>
      simp only [upsertStep, htripped, if_true, Prod.mk.injEq] at h
      obtain ⟨rfl, rfl⟩ := h
      exact .skip htripped
    | false =>
      simp only [upsertStep, htripped, Bool.false_eq_true, if_false, Prod.mk.injEq] at h
      obtain ⟨rfl, rfl⟩ := h
      exact .check htripped
  | checked =>
    cases hkey : row.getattr self.dedupeKey with
    | error e =>
      simp only [upsertStep, hkey, Prod.mk.injEq] at h
      obtain ⟨rfl, rfl⟩ := h
      exact .unreadable hkey
    | ok key =>
      cases hpayload : self.buildPayload row with
      | error e =>
        simp only [upsertStep, hkey, hpayload, Prod.mk.injEq] at h
        obtain ⟨rfl, rfl⟩ := h
        exact .unbuilt hkey hpayload
      | ok payload =>
        simp only [upsertStep, hkey, hpayload, Prod.mk.injEq] at h
        obtain ⟨rfl, rfl⟩ := h
        exact .call hkey hpayload
  | calling key payload =>
    simp only [upsertStep, Prod.mk.injEq] at h
    obtain ⟨rfl, rfl⟩ := h
    exact .answer rfl
  | answered key reply =>
    -- the `try` block is over: the cases are those of `settle`
    cases reply with
    | ok response =>
      simp only [upsertStep, Prod.mk.injEq] at h
      obtain ⟨rfl, rfl⟩ := h
      exact .succeed
    | error e =>
      cases he : isTransportFailure e with
      | false =>
        simp only [upsertStep, he, Bool.false_eq_true, if_false, Prod.mk.injEq] at h
        obtain ⟨rfl, rfl⟩ := h
        exact .escape he
      | true =>
        cases hlog : logger.log (self.failureLog key e) with
        | error e' =>
          simp only [upsertStep, he, hlog, if_true, Prod.mk.injEq] at h
          obtain ⟨rfl, rfl⟩ := h
          exact .unlogged he hlog
        | ok _ =>
          cases htrips : s.breaker.recordFailure.1 with
          | false =>
            simp only [upsertStep, he, hlog, htrips, if_true, Bool.false_eq_true, if_false,
              Prod.mk.injEq] at h
            obtain ⟨rfl, rfl⟩ := h
            rw [← htrips]
            exact .fail he hlog (.inl rfl)
          | true =>
            simp only [upsertStep, he, hlog, htrips, if_true, Prod.mk.injEq] at h
            obtain ⟨rfl, rfl⟩ := h
            rw [← htrips]
            -- only the call that trips the breaker writes the second line
            refine .fail he hlog ?_
            cases htripLog : logger.log self.tripLog with
            | ok _ => exact .inl rfl
            | error e' => exact .inr ⟨htrips, e', rfl, rfl⟩

variable (self logger upsert)

/-- `_upsert_one` as code for a pool of workers. -/
def upsertCallable :
    Callable NamedTuple Stage (Shared ω) ι (Except PyException Outcome) where
  entry _ := .entered
  step := self.upsertStep logger upsert
  rank := stepsLeft
  rank_lt := by
    intro i row stage inp s stage' s' h
    cases step_of_upsertStep h <;> simp [stepsLeft]

section Run

variable {self logger upsert} {i : ℕ} {row : NamedTuple} {inp : ι}

/-- The last step of a call settles its reply. -/
theorem run_answered (key : PyValue) (reply : Except PyException Response) (s : Shared ω) :
    ∃ trace, (self.upsertCallable logger upsert).run i row inp (.answered key reply) s =
      ((self.settle logger key reply s.breaker).1,
        ⟨(self.settle logger key reply s.breaker).2, s.world, trace⟩) := by
  cases reply with
  | ok response => exact ⟨_, Callable.run_of_finished rfl⟩
  | error e =>
    unfold settle
    cases he : isTransportFailure e with
    | false =>
      refine ⟨s.trace, Callable.run_of_finished ?_⟩
      simp [upsertCallable, upsertStep, he]
    | true =>
      cases hlog : logger.log (self.failureLog key e) with
      | error e' =>
        refine ⟨s.trace, Callable.run_of_finished ?_⟩
        simp [upsertCallable, upsertStep, he, hlog]
      | ok _ =>
        refine ⟨.recordedFailure i s.breaker.recordFailure.1 :: s.trace,
          Callable.run_of_finished ?_⟩
        -- the breaker changes the same way whether or not this failure trips it
        cases htrips : s.breaker.recordFailure.1 <;>
          simp [upsertCallable, upsertStep, he, hlog, htrips]

/-- A call that finds the breaker tripped ends with its check. -/
theorem run_of_tripped {s : Shared ω} (htripped : s.breaker.isTripped = true) :
    (self.upsertCallable logger upsert).run i row inp .entered s =
      (.ok .skipped, { s with trace := .checked i true :: s.trace }) := by
  apply Callable.run_of_finished
  simp [upsertCallable, upsertStep, htripped]

/-- A call that finds the breaker closed goes on to prepare its request. -/
theorem run_of_closed {s : Shared ω} (hclosed : s.breaker.isTripped = false) :
    (self.upsertCallable logger upsert).run i row inp .entered s =
      (self.upsertCallable logger upsert).run i row inp .checked
        { s with trace := .checked i false :: s.trace } := by
  apply Callable.run_of_running
  simp [upsertCallable, upsertStep, hclosed]

/-- A call whose key cannot be read raises what reading it raises. -/
theorem run_of_unreadable {e : PyException} (hkey : row.getattr self.dedupeKey = .error e)
    (s : Shared ω) :
    (self.upsertCallable logger upsert).run i row inp .checked s = (.error e, s) := by
  apply Callable.run_of_finished
  simp [upsertCallable, upsertStep, hkey]

/-- A call whose request can be prepared makes it. -/
theorem run_of_prepared {key : PyValue} {payload : Payload}
    (hkey : row.getattr self.dedupeKey = .ok key) (hpayload : self.buildPayload row = .ok payload)
    (s : Shared ω) :
    let reply := upsert i (self.upsertCall key payload) inp s.world
    (self.upsertCallable logger upsert).run i row inp .checked s =
      (self.upsertCallable logger upsert).run i row inp (.answered key reply.1)
        ⟨s.breaker, reply.2,
          .returned i reply.1 :: .called i (self.upsertCall key payload) :: s.trace⟩ := by
  intro reply
  -- the request starts with this step, and the next one answers it
  have hcall : (self.upsertCallable logger upsert).step i row .checked inp s =
      (.running (.calling key payload),
        { s with trace := .called i (self.upsertCall key payload) :: s.trace }) := by
    simp [upsertCallable, upsertStep, hkey, hpayload]
  rw [Callable.run_of_running hcall]
  exact Callable.run_of_running rfl

/-- A call whose request was answered reports that. -/
theorem run_of_response (key : PyValue) (response : Response) (s : Shared ω) :
    (self.upsertCallable logger upsert).run i row inp (.answered key (.ok response)) s =
      (.ok (outcomeOf response),
        ⟨s.breaker.recordSuccess, s.world, .recordedSuccess i :: s.trace⟩) :=
  Callable.run_of_finished rfl

/-- A call whose request failed in transport reports that. -/
theorem run_of_rejected (hlogs : self.Logs logger) (key : PyValue) {e : PyException}
    (he : isTransportFailure e = true) (s : Shared ω) :
    (self.upsertCallable logger upsert).run i row inp (.answered key (.error e)) s =
      (.ok .failed, ⟨s.breaker.recordFailure.2, s.world,
        .recordedFailure i s.breaker.recordFailure.1 :: s.trace⟩) := by
  apply Callable.run_of_finished
  have hfailure := hlogs.failureLog key e
  have htrip := hlogs.tripLog
  cases htrips : s.breaker.recordFailure.1 <;>
    simp [upsertCallable, upsertStep, he, hfailure, htrip, htrips, Except.map]

/-- The steps of one call, taken without interruption, are `upsertOne`. -/
theorem run_upsertCallable (s : Shared ω) :
    ∃ trace, (self.upsertCallable logger upsert).run i row inp .entered s =
      ((self.upsertOne logger upsert i row inp s.breaker s.world).1,
        ⟨(self.upsertOne logger upsert i row inp s.breaker s.world).2.1,
          (self.upsertOne logger upsert i row inp s.breaker s.world).2.2, trace⟩) := by
  unfold upsertOne
  -- step by step, each case split once for both sides
  cases htripped : s.breaker.isTripped with
  | true => exact ⟨.checked i true :: s.trace, run_of_tripped htripped⟩
  | false =>
    rw [run_of_closed htripped]
    cases hkey : row.getattr self.dedupeKey with
    | error e => exact ⟨.checked i false :: s.trace, run_of_unreadable hkey _⟩
    | ok key =>
      cases hpayload : self.buildPayload row with
      | error e =>
        have hunbuilt : (self.upsertCallable logger upsert).step i row .checked inp
            { s with trace := .checked i false :: s.trace } =
              (.running (.answered key (.error e)),
                { s with trace := .checked i false :: s.trace }) := by
          simp [upsertCallable, upsertStep, hkey, hpayload]
        rw [Callable.run_of_running hunbuilt]
        exact run_answered key (.error e) _
      | ok payload =>
        rw [run_of_prepared hkey hpayload]
        exact run_answered key _ _

end Run

end BaseODataSyncRunner

end Sync
