import InventorySync.Foundations.SequentialPool
import InventorySync.Sync.Traffic

/-!
# One worker is a plain loop

With `max_workers=1`, and an executor that runs submitted calls in the order of their submission,
`sync_records` upserts the records one after the other: it makes the calls of a loop that knows no
threads, no window and no breaker object, and returns its counts.

* `stepInOrder`: the steps of the write loop under such an executor;
* `sequentialLoop`: the loop over the records;
* `sync_refines_sequentialLoop`: whatever the window, `sync_records` comes to what the loop does.
-/

open Python Pandas Transport ThreadPool

namespace Sync

/-! ### An executor that keeps the order of submission -/

namespace WriteLoop

variable {ρ ℓ σ ι : Type} {W : ℕ} {window : ℤ}
  {c : Callable ρ ℓ σ ι (Except PyException Outcome)} {s s' : WriteLoop ρ ℓ σ} {lab : Label ι}

/-- The workers take the oldest of the waiting calls. -/
def inOrder (s : WriteLoop ρ ℓ σ) : Label ι → Bool
  | .dequeue i => s.pool.inOrder (.dequeue i : ThreadPool.Label ρ ι)
  | _ => true

/-- One step of `sync_records` on an executor that starts calls in the order of submission. -/
def stepInOrder (W : ℕ) (window : ℤ) (c : Callable ρ ℓ σ ι (Except PyException Outcome))
    (s : WriteLoop ρ ℓ σ) (lab : Label ι) : Option (WriteLoop ρ ℓ σ) :=
  if s.inOrder lab then s.step W window c lab else none

theorem stepInOrder_eq_some :
    s.stepInOrder W window c lab = some s' ↔
      s.inOrder lab = true ∧ s.step W window c lab = some s' := by
  simp [stepInOrder]

/-- What a step in order does to the pool is a step in order of the pool. -/
theorem pool_step_of_inOrder (horder : s.inOrder lab = true) (h : Step W window c s lab s') :
    s'.pool = s.pool ∨ ∃ m, s.pool.inOrder m = true ∧ Pool.Step W c s.pool m s'.pool := by
  cases h with
  | @dequeue i pool hpool => exact .inr ⟨.dequeue i, horder, hpool⟩
  | advance hpool => exact .inr ⟨_, rfl, hpool⟩
  | submit hphase hpending hroom => exact .inr ⟨_, rfl, .submit _⟩
  | submitCollected hphase hpending hdone => exact .inr ⟨_, rfl, .submit _⟩
  | drain => exact .inl rfl
  | close => exact .inl rfl
  | exit => exact .inl rfl
  | wait => exact .inl rfl
  | collect => exact .inl rfl
  | raise => exact .inl rfl

/-- If a waiting call can be taken, so can the oldest one. -/
theorem exists_dequeue_inOrder {i : ℕ} {pool : Pool ρ ℓ σ (Except PyException Outcome)}
    (h : Pool.Step W c s.pool (.dequeue i) pool) :
    ∃ (lab : Label ι) (s' : WriteLoop ρ ℓ σ), s.stepInOrder W window c lab = some s' := by
  cases h with
  | @dequeue _ row hcall hfree =>
    have hsome : ∃ j row', s.pool.calls[j]? = some (⟨row', .queued⟩ : Call _ _ _) :=
      ⟨i, row, hcall⟩
    -- the first of the waiting calls, which the step taken may have passed over
    classical
    obtain ⟨row', hfirst⟩ := Nat.find_spec hsome
    have hpool := Pool.step_eq_some_iff.2 (Pool.Step.dequeue (c := c) hfirst hfree)
    refine ⟨.dequeue (Nat.find hsome), _, stepInOrder_eq_some.2
      ⟨?_, Option.map_eq_some_iff.2 ⟨_, hpool, rfl⟩⟩⟩
    -- no call before the first waiting one is waiting
    refine List.all_eq_true.2 fun call hmem => ?_
    obtain ⟨j, hj⟩ := List.getElem?_of_mem hmem
    have hlt : j < Nat.find hsome := by
      have hlt := (List.getElem?_eq_some_iff.1 hj).1
      rw [List.length_take] at hlt
      omega
    rw [List.getElem?_take_of_lt hlt] at hj
    by_contra hqueued
    obtain ⟨row'', st⟩ := call
    cases st with
    | queued => exact Nat.find_min hsome hlt ⟨row'', hj⟩
    | running l => simp [Call.isQueued] at hqueued
    | finished r => simp [Call.isQueued] at hqueued

/-- An executor that keeps the order does not get stuck before `sync_records` is over. -/
theorem exists_stepInOrder [Nonempty ι] {records : List ρ} (hW : 0 < W)
    (hs : Inv records window s) (hphase : ∀ raised, s.phase ≠ .exited raised) :
    ∃ lab s', s.stepInOrder W window c lab = some s' := by
  obtain ⟨lab, s', hstep⟩ := exists_step (c := c) hW hs hphase
  cases lab with
  | dequeue i =>
    obtain ⟨pool, hpool, -⟩ := Option.map_eq_some_iff.1 hstep
    exact exists_dequeue_inOrder (Pool.step_eq_some_iff.1 hpool)
  -- the order restricts only which call a worker takes
  | main => exact ⟨_, s', stepInOrder_eq_some.2 ⟨rfl, hstep⟩⟩
  | wait done => exact ⟨_, s', stepInOrder_eq_some.2 ⟨rfl, hstep⟩⟩
  | collect i => exact ⟨_, s', stepInOrder_eq_some.2 ⟨rfl, hstep⟩⟩
  | advance i inp => exact ⟨_, s', stepInOrder_eq_some.2 ⟨rfl, hstep⟩⟩

end WriteLoop

/-! ### The plain loop -/

/-- A client whose answers depend on nothing but the calls it got before. -/
abbrev Client (ω : Type) : Type := UpsertCall → ω → Except PyException Response × ω

/-- Its `upsert_record`, which does not see who calls it, or when. -/
def Client.upsert {ω : Type} (client : Client ω) : Upsert Unit ω :=
  fun _ call _ world => client call world

/-- The state of the plain loop. -/
structure LoopState (ω : Type) where
  /-- How many of the last upserts failed in a row. -/
  failures : ℕ
  world : ω
  result : Result
  calls : List UpsertCall

namespace BaseODataSyncRunner

variable {ω : Type} (self : BaseODataSyncRunner) (client : Client ω)

/-- One record: upsert it, or skip it once there were too many failures in a row. -/
def sequentialStep (st : LoopState ω) (row : NamedTuple) : Except PyException (LoopState ω) :=
  if max 1 self.failureThreshold ≤ st.failures then
    .ok { st with result := st.result.increment .skipped }
  else do
    let key ← row.getattr self.dedupeKey
    let payload ← self.buildPayload row
    let call := self.upsertCall key payload
    match client call st.world with
    -- a response: created for 201, updated otherwise
    | (.ok response, world) => return {
        failures := 0
        world
        result := st.result.increment (outcomeOf response)
        calls := st.calls ++ [call] }
    -- `HTTPError`, `ConnectionError` or `Timeout`
    | (.error _, world) => return {
        failures := st.failures + 1
        world
        result := st.result.increment .failed
        calls := st.calls ++ [call] }

/-- The records in order, one after the other. -/
def sequentialLoop (records : List NamedTuple) (world : ω) : Except PyException (LoopState ω) :=
  records.foldlM (self.sequentialStep client) ⟨0, world, fun _ => 0, []⟩

end BaseODataSyncRunner

/-! ### One call is one turn of the loop -/

/-- The `upsert_record` call that an event starts. -/
def Event.call? : Event → Option UpsertCall
  | .called _ call => some call
  | _ => none

/-- The `upsert_record` calls of a trace, oldest first. -/
def callsOf (trace : List Event) : List UpsertCall := (trace.filterMap Event.call?).reverse

/-- An event that starts no call changes nothing. -/
theorem callsOf_cons_of_none {ev : Event} (h : ev.call? = none) (trace : List Event) :
    callsOf (ev :: trace) = callsOf trace := by
  rw [callsOf, List.filterMap_cons_none h, callsOf]

theorem callsOf_called (i : ℕ) (call : UpsertCall) (trace : List Event) :
    callsOf (.called i call :: trace) = callsOf trace ++ [call] := by
  have hcall : (Event.called i call).call? = some call := rfl
  rw [callsOf, List.filterMap_cons_some hcall, List.reverse_cons, callsOf]

namespace BaseODataSyncRunner

variable {ω : Type} {self : BaseODataSyncRunner} {logger : Logger} {client : Client ω}

/-- The state that the calls share is the state of the loop: the breaker has latched when the loop
counts too many failures, and counts with it before. -/
structure Follows (runner : BaseODataSyncRunner) (st : LoopState ω) (s : Shared ω) : Prop where
  threshold : s.breaker.threshold = runner.failureThreshold
  tripped_iff : s.breaker.tripped = true ↔ max 1 runner.failureThreshold ≤ st.failures
  failures : s.breaker.tripped = false → s.breaker.consecutiveFailures = st.failures
  world : s.world = st.world
  calls : callsOf s.trace = st.calls

theorem follows_start (world : ω) :
    self.Follows ⟨0, world, fun _ => 0, []⟩ ⟨.new self.failureThreshold, world, []⟩ where
  threshold := rfl
  tripped_iff := by
    simp only [ConsecutiveFailureCircuitBreaker.new, Bool.false_eq_true, false_iff]
    omega
  failures _ := rfl
  world := rfl
  calls := rfl

section Turn

variable {st st' : LoopState ω} {s : Shared ω} {i : ℕ} {row : NamedTuple}
  (hfollows : self.Follows st s)

include hfollows

/-- A successful request resets the count on both sides. -/
theorem Follows.recordSuccess (hclosed : s.breaker.tripped = false) {world : ω} {call : UpsertCall}
    {reply : Except PyException Response} {outcome : Outcome} :
    self.Follows ⟨0, world, st.result.increment outcome, st.calls ++ [call]⟩
      ⟨s.breaker.recordSuccess, world, .recordedSuccess i :: .returned i reply ::
        .called i call :: .checked i false :: s.trace⟩ where
  threshold := ConsecutiveFailureCircuitBreaker.threshold_recordSuccess.trans hfollows.threshold
  tripped_iff := by
    rw [ConsecutiveFailureCircuitBreaker.tripped_recordSuccess, hclosed]
    simp only [Bool.false_eq_true, false_iff]
    omega
  failures _ := ConsecutiveFailureCircuitBreaker.consecutiveFailures_recordSuccess hclosed
  world := rfl
  calls := by
    rw [callsOf_cons_of_none rfl, callsOf_cons_of_none rfl, callsOf_called,
      callsOf_cons_of_none rfl, hfollows.calls]

/-- A failed request counts on both sides, and latches the breaker when the loop stops. -/
theorem Follows.recordFailure (hclosed : s.breaker.tripped = false) {world : ω} {call : UpsertCall}
    {reply : Except PyException Response} :
    self.Follows ⟨st.failures + 1, world, st.result.increment .failed, st.calls ++ [call]⟩
      ⟨s.breaker.recordFailure.2, world, .recordedFailure i s.breaker.recordFailure.1 ::
        .returned i reply :: .called i call :: .checked i false :: s.trace⟩ := by
  obtain ⟨hcount, htripped, htrips⟩ :=
    ConsecutiveFailureCircuitBreaker.recordFailure_of_not_tripped hclosed
  have hfailures := hfollows.failures hclosed
  have hthreshold := hfollows.threshold
  have hlt := s.breaker.not_reached hclosed
  exact
    { threshold := ConsecutiveFailureCircuitBreaker.threshold_recordFailure.trans hthreshold
      tripped_iff := by
        -- the breaker was closed, so the count stood below the threshold before this failure
        rw [htripped, htrips, hfailures, hthreshold]
        rw [hfailures, hthreshold] at hlt
        push_cast
        omega
      failures := fun _ => by rw [hcount, hfailures]
      world := rfl
      calls := by
        rw [callsOf_cons_of_none rfl, callsOf_cons_of_none rfl, callsOf_called,
          callsOf_cons_of_none rfl, hfollows.calls] }

/-- A turn of the loop that does not raise is what the call for its row does. -/
theorem Follows.run (hlogs : self.Logs logger)
    (hclient : ∀ call world e, (client call world).1 = .error e → isTransportFailure e = true)
    (h : self.sequentialStep client st row = .ok st') :
    ∃ outcome, ((self.upsertCallable logger client.upsert).run i row () .entered s).1 =
        .ok outcome ∧ st'.result = st.result.increment outcome ∧
      self.Follows st' ((self.upsertCallable logger client.upsert).run i row () .entered s).2 := by
  unfold sequentialStep at h
  split at h
  next hreached =>
    -- the loop has stopped upserting, and the breaker has latched
    obtain rfl := Except.ok.inj h
    rw [run_of_tripped (hfollows.tripped_iff.2 hreached)]
    exact ⟨.skipped, rfl, rfl,
      { hfollows with calls := (callsOf_cons_of_none rfl _).trans hfollows.calls }⟩
  next hreached =>
    have hclosed : s.breaker.tripped = false := by
      rw [← Bool.not_eq_true, hfollows.tripped_iff]
      exact hreached
    -- both sides read the key, build the payload and make the same request of the same client
    obtain ⟨key, hkey, h⟩ := Except.bind_eq_ok.1 h
    obtain ⟨payload, hpayload, h⟩ := Except.bind_eq_ok.1 h
    rw [run_of_closed hclosed, run_of_prepared hkey hpayload]
    simp only [Client.upsert, hfollows.world]
    cases hreply : client (self.upsertCall key payload) st.world with
    | mk reply world =>
      simp only [hreply] at h
      cases reply with
      | ok response =>
        obtain rfl := Except.ok.inj h
        simp only
        rw [run_of_response]
        exact ⟨outcomeOf response, rfl, rfl, hfollows.recordSuccess hclosed⟩
      | error e =>
        obtain rfl := Except.ok.inj h
        have he := hclient (self.upsertCall key payload) st.world e (by rw [hreply])
        simp only
        rw [run_of_rejected hlogs key he]
        exact ⟨.failed, rfl, rfl, hfollows.recordFailure hclosed⟩

/-- A turn of the loop raises when it cannot read the key, and then so does the call. -/
theorem Follows.run_of_error (hbuild : ∃ payload, self.buildPayload row = .ok payload)
    {e : PyException} (h : self.sequentialStep client st row = .error e) :
    ((self.upsertCallable logger client.upsert).run i row () .entered s).1 = .error e := by
  unfold sequentialStep at h
  split at h
  next => cases h
  next hreached =>
    have hclosed : s.breaker.tripped = false := by
      rw [← Bool.not_eq_true, hfollows.tripped_iff]
      exact hreached
    rw [run_of_closed hclosed]
    rcases Except.bind_eq_error.1 h with hkey | ⟨key, -, h⟩
    · rw [run_of_unreadable hkey]
    · -- the payload builds, so the error would come from the request
      obtain ⟨payload, hpayload⟩ := hbuild
      rw [hpayload] at h
      -- whatever the client answers, the loop goes on
      change (match client _ st.world with | (.ok _, _) => _ | (.error _, _) => _) = _ at h
      split at h <;> cases h

end Turn

section Turns

variable {st st' : LoopState ω} {s : Shared ω} {records : List NamedTuple}

/-- The turns of the loop are the calls for its rows, run one after the other. -/
theorem Follows.runAll (hlogs : self.Logs logger)
    (hclient : ∀ call world e, (client call world).1 = .error e → isTransportFailure e = true)
    (hfollows : self.Follows st s) (h : records.foldlM (self.sequentialStep client) st = .ok st')
    (i : ℕ) :
    ∃ outcomes : List Outcome,
      ((self.upsertCallable logger client.upsert).runAll i records s).1 = outcomes.map .ok ∧
      st'.result = outcomes.foldl Result.increment st.result ∧
      self.Follows st' ((self.upsertCallable logger client.upsert).runAll i records s).2 := by
  induction records generalizing st s i with
  | nil =>
    obtain rfl := Except.ok.inj h
    exact ⟨[], rfl, rfl, hfollows⟩
  | cons row records ih =>
    obtain ⟨st₁, hrow, hrest⟩ := Except.foldlM_cons_eq_ok.1 h
    obtain ⟨outcome, hrun, hresult, hnext⟩ := hfollows.run (i := i) hlogs hclient hrow
    obtain ⟨outcomes, hruns, hresults, hlast⟩ := ih hnext hrest (i + 1)
    refine ⟨outcome :: outcomes, ?_, ?_, hlast⟩
    · exact List.cons_eq_cons.2 ⟨hrun, hruns⟩
    · rw [hresults, hresult, List.foldl_cons]

/-- If the loop raises, so does some call. -/
theorem Follows.exists_error_of_runAll (hlogs : self.Logs logger)
    (hclient : ∀ call world e, (client call world).1 = .error e → isTransportFailure e = true)
    (hbuild : ∀ row ∈ records, ∃ payload, self.buildPayload row = .ok payload)
    (hfollows : self.Follows st s) {e : PyException}
    (h : records.foldlM (self.sequentialStep client) st = .error e) (i : ℕ) :
    .error e ∈ ((self.upsertCallable logger client.upsert).runAll i records s).1 := by
  induction records generalizing st s i with
  | nil => cases h
  | cons row records ih =>
    rw [List.foldlM_cons] at h
    rcases Except.bind_eq_error.1 h with hrow | ⟨st₁, hrow, hrest⟩
    · have hrun : ((self.upsertCallable logger client.upsert).run i row () .entered s).1 =
          .error e := hfollows.run_of_error (hbuild row List.mem_cons_self) hrow
      -- the call of this row raises, whatever the later ones do
      exact List.mem_cons.2 (.inl hrun.symm)
    · obtain ⟨outcome, -, -, hnext⟩ := hfollows.run (i := i) hlogs hclient hrow
      have hrest := ih (fun row' hrow' => hbuild row' (List.mem_cons_of_mem _ hrow')) hnext hrest
        (i + 1)
      exact List.mem_cons_of_mem _ hrest

end Turns

/-- Counting outcomes one by one. -/
theorem foldl_increment (outcomes : List Outcome) (result : Result) (outcome : Outcome) :
    outcomes.foldl Result.increment result outcome = result outcome + outcomes.count outcome := by
  induction outcomes generalizing result with
  | nil => rfl
  | cons first outcomes ih =>
    rw [List.foldl_cons, ih, Result.increment, List.count_cons]
    by_cases heq : outcome = first
    · subst heq
      rw [Function.update_self, if_pos (beq_self_eq_true outcome)]
      omega
    · rw [Function.update_of_ne heq, if_neg (by simpa using Ne.symm heq), Nat.add_zero]

/-! ### Runs in order -/

variable (self logger client) in
/-- The states in which a `sync_records` call ends on an executor that keeps the order of
submission. -/
def SyncEndsInOrder (records : List NamedTuple) (world : ω)
    (s : WriteLoop NamedTuple Stage (Shared ω)) : Prop :=
  (∃ schedule, TransitionSystem.exec (WriteLoop.stepInOrder self.maxWorkers.toNat
      self.writeWindowSize (self.upsertCallable logger client.upsert))
    (WriteLoop.start records ⟨.new self.failureThreshold, world, []⟩) schedule = some s) ∧
    TransitionSystem.Stuck (WriteLoop.stepInOrder self.maxWorkers.toNat self.writeWindowSize
      (self.upsertCallable logger client.upsert)) s

/-- A schedule in order is a schedule. -/
theorem syncReaches_of_execInOrder {records : List NamedTuple} {world : ω}
    {schedule : List (WriteLoop.Label Unit)} {s : WriteLoop NamedTuple Stage (Shared ω)}
    (hrun : TransitionSystem.exec (WriteLoop.stepInOrder self.maxWorkers.toNat
        self.writeWindowSize (self.upsertCallable logger client.upsert))
      (WriteLoop.start records ⟨.new self.failureThreshold, world, []⟩) schedule = some s) :
    self.SyncReaches logger client.upsert records world s :=
  ⟨schedule, TransitionSystem.exec_mono
    (fun _ _ _ hstep => (WriteLoop.stepInOrder_eq_some.1 hstep).2) hrun⟩

variable (self logger client) in
/-- A schedule in order that leads out of `sync_records` leads to an end. -/
theorem syncEndsInOrder_of_exec (records : List NamedTuple) (world : ω)
    (schedule : List (WriteLoop.Label Unit)) {raised : Option PyException}
    {s : WriteLoop NamedTuple Stage (Shared ω)}
    (hrun : TransitionSystem.exec (WriteLoop.stepInOrder self.maxWorkers.toNat
        self.writeWindowSize (self.upsertCallable logger client.upsert))
      (WriteLoop.start records ⟨.new self.failureThreshold, world, []⟩) schedule = some s)
    (hphase : s.phase = .exited raised) : self.SyncEndsInOrder logger client records world s := by
  refine ⟨⟨schedule, hrun⟩, fun lab => ?_⟩
  have hinv := WriteLoop.inv_of_reachable (syncReaches_of_execInOrder hrun)
  have hstuck := hinv.stuck_of_exited (W := self.maxWorkers.toNat)
    (c := self.upsertCallable logger client.upsert) hphase lab
  rw [Option.eq_none_iff_forall_ne_some]
  intro s' hstep
  rw [(WriteLoop.stepInOrder_eq_some.1 hstep).2] at hstuck
  cases hstuck

section Ends

variable {records : List NamedTuple} {world : ω} {s : WriteLoop NamedTuple Stage (Shared ω)}
  (h : self.SyncEndsInOrder logger client records world s)

include h

theorem SyncEndsInOrder.syncReaches :
    self.SyncReaches logger client.upsert records world s := by
  obtain ⟨⟨_, hrun⟩, -⟩ := h
  exact syncReaches_of_execInOrder hrun

variable (hworkers : self.maxWorkers = 1)

include hworkers

/-- The run is over. -/
theorem SyncEndsInOrder.exited : ∃ raised, s.phase = .exited raised := by
  by_contra hphase
  push Not at hphase
  -- otherwise some step is left, and the run is not stuck
  have hW : 0 < self.maxWorkers.toNat := by omega
  obtain ⟨lab, s', hstep⟩ := WriteLoop.exists_stepInOrder
    (c := self.upsertCallable logger client.upsert) hW
    (WriteLoop.inv_of_reachable h.syncReaches) hphase
  rw [h.2 lab] at hstep
  cases hstep

/-- Its calls have run one after the other. -/
theorem SyncEndsInOrder.runAll_rows : ∃ rs,
    (self.upsertCallable logger client.upsert).runAll 0 s.pool.rows
      ⟨.new self.failureThreshold, world, []⟩ = (rs, s.pool.shared) ∧
    s.pool.results = rs.map some := by
  obtain ⟨raised, hphase⟩ := h.exited hworkers
  obtain ⟨⟨schedule, hrun⟩, -⟩ := id h
  have hsequence : Pool.InSequence (self.upsertCallable logger client.upsert)
      ⟨.new self.failureThreshold, world, []⟩ s.pool := by
    -- every step of `sync_records` takes a step of the pool in order, or leaves the pool alone
    refine TransitionSystem.exec_invariant'
      (P := fun t : WriteLoop NamedTuple Stage (Shared ω) => Pool.InSequence
        (self.upsertCallable logger client.upsert) ⟨.new self.failureThreshold, world, []⟩ t.pool)
      ?_ Pool.inSequence_start hrun
    intro t lab t' ht hstep
    obtain ⟨horder, hstep⟩ := WriteLoop.stepInOrder_eq_some.1 hstep
    rcases WriteLoop.pool_step_of_inOrder horder (WriteLoop.step_eq_some_iff.1 hstep) with
      heq | ⟨m, hm, hpool⟩
    · rwa [heq]
    · rw [hworkers] at hpool
      exact Pool.inSequence_of_step ht hm hpool
  exact hsequence.runAll_rows
    ((WriteLoop.inv_of_reachable h.syncReaches).allFinished_of_exited hphase)

end Ends

/-- A `sync_records` call made the calls of the plain loop, and returned its counts; or the loop
raises, and so did it. -/
def MatchesLoop (s : WriteLoop NamedTuple Stage (Shared ω)) :
    Except PyException (LoopState ω) → Prop
  | .ok st => s.phase = .exited none ∧ s.result = st.result ∧
      callsOf s.pool.shared.trace = st.calls ∧ s.pool.shared.world = st.world
  | .error _ => ∃ e, s.phase = .exited (some e)

section Matches

variable {records : List NamedTuple} {world : ω} {s : WriteLoop NamedTuple Stage (Shared ω)}
  (h : self.SyncEndsInOrder logger client records world s) (hworkers : self.maxWorkers = 1)
  (hlogs : self.Logs logger)
  (hclient : ∀ call world e, (client call world).1 = .error e → isTransportFailure e = true)

include h hworkers hlogs hclient

/-- If the loop returns, `sync_records` returns what it does. -/
theorem SyncEndsInOrder.matchesLoop_of_ok {st : LoopState ω}
    (hloop : self.sequentialLoop client records world = .ok st) : MatchesLoop s (.ok st) := by
  obtain ⟨rs, hrun, hresults⟩ := h.runAll_rows hworkers
  obtain ⟨raised, hphase⟩ := h.exited hworkers
  have hinv := WriteLoop.inv_of_reachable h.syncReaches
  -- the submitted rows are the first records, over which the loop did not raise either
  have horder : s.pool.rows ++ s.pending = records := hinv.order
  rw [sequentialLoop, ← horder, List.foldlM_append] at hloop
  obtain ⟨st₁, hrows, hpending⟩ := Except.bind_eq_ok.1 hloop
  obtain ⟨outcomes, houtcomes, hresult, hfollows⟩ :=
    (follows_start world).runAll hlogs hclient hrows 0
  rw [hrun] at houtcomes hfollows
  rw [show rs = outcomes.map .ok from houtcomes, List.map_map] at hresults
  -- no call raised, so `sync_records` did not either
  have hraised : ∀ e, ¬s.Raised e := by
    rintro e ⟨i, hi⟩
    rw [hresults] at hi
    obtain ⟨outcome, -, heq⟩ := List.mem_map.1 (List.mem_of_getElem? hi)
    cases heq
  have hreturned : s.phase = .exited none := by
    cases raised with
    | none => exact hphase
    | some e => exact absurd (hinv.raised_of_exited hphase) (hraised e)
  -- every record was submitted, so this is where the loop ended
  have hnil : s.pending = [] := by
    rw [hinv.rows_of_returned hreturned] at horder
    simpa using horder
  rw [hnil] at hpending
  obtain rfl := Except.ok.inj hpending
  refine ⟨hreturned, ?_, hfollows.calls, hfollows.world⟩
  funext outcome
  have hinjective : Function.Injective (some ∘ Except.ok (ε := PyException) (α := Outcome)) :=
    fun a b hab => Except.ok.inj (Option.some.inj hab)
  have hcount := List.count_map_of_injective outcomes _ hinjective outcome
  rw [hinv.count_of_returned hreturned, hresults, hresult, foldl_increment, Nat.zero_add]
  exact hcount

/-- If the loop raises, so does `sync_records`. -/
theorem SyncEndsInOrder.matchesLoop_of_error
    (hbuild : ∀ row ∈ records, ∃ payload, self.buildPayload row = .ok payload) {e : PyException}
    (hloop : self.sequentialLoop client records world = .error e) : MatchesLoop s (.error e) := by
  obtain ⟨rs, hrun, hresults⟩ := h.runAll_rows hworkers
  obtain ⟨raised, hphase⟩ := h.exited hworkers
  have hinv := WriteLoop.inv_of_reachable h.syncReaches
  cases raised with
  | some e' => exact ⟨e', hphase⟩
  | none =>
    -- it cannot have returned: every record was submitted, and one of the calls raised
    rw [sequentialLoop, ← hinv.rows_of_returned hphase] at hloop
    have hbuild' : ∀ row ∈ s.pool.rows, ∃ payload, self.buildPayload row = .ok payload :=
      fun row hrow => hbuild row (hinv.mem_records row hrow)
    have hmem := (follows_start world).exists_error_of_runAll hlogs hclient hbuild' hloop 0
    rw [hrun] at hmem
    have hraised : some (Except.error e) ∈ s.pool.results :=
      hresults ▸ List.mem_map_of_mem hmem
    obtain ⟨i, hi⟩ := List.getElem?_of_mem hraised
    exact absurd ⟨i, hi⟩ (hinv.not_raised_of_returned hphase e)

theorem SyncEndsInOrder.matchesLoop
    (hbuild : ∀ row ∈ records, ∃ payload, self.buildPayload row = .ok payload) :
    MatchesLoop s (self.sequentialLoop client records world) := by
  cases hloop : self.sequentialLoop client records world with
  | ok st => exact h.matchesLoop_of_ok hworkers hlogs hclient hloop
  | error e => exact h.matchesLoop_of_error hworkers hlogs hclient hbuild hloop

end Matches

/-- With one worker and an executor that keeps the order of submission, `sync_records` makes the
calls of the plain loop and returns its counts, whatever the window; so two windows lead to the same
calls and the same counts. -/
theorem sync_refines_sequentialLoop (self : BaseODataSyncRunner) (hworkers : self.maxWorkers = 1)
    (hlogs : self.Logs logger) (client : Client ω)
    (hclient : ∀ call world e, (client call world).1 = .error e → isTransportFailure e = true)
    (records : List NamedTuple)
    (hbuild : ∀ row ∈ records, ∃ payload, self.buildPayload row = .ok payload) (world : ω) :
    (∀ window : ℤ,
      { self with writeWindowSize := window }.SyncTerminates logger client.upsert records world ∧
        ∀ s, { self with writeWindowSize := window }.SyncEndsInOrder logger client records world
            s → MatchesLoop s (self.sequentialLoop client records world)) ∧
      ∀ (window window' : ℤ) s s',
        { self with writeWindowSize := window }.SyncEndsInOrder logger client records world s →
        { self with writeWindowSize := window' }.SyncEndsInOrder logger client records world s' →
        s.phase = .exited none →
          s'.phase = .exited none ∧ s.result = s'.result ∧
            callsOf s.pool.shared.trace = callsOf s'.pool.shared.trace := by
  have hmatches : ∀ (window : ℤ) s,
      { self with writeWindowSize := window }.SyncEndsInOrder logger client records world s →
        MatchesLoop s (self.sequentialLoop client records world) := by
    intro window s h
    have hlogs' : { self with writeWindowSize := window }.Logs logger :=
      ⟨hlogs.failureLog, hlogs.tripLog⟩
    exact h.matchesLoop hworkers hlogs' hclient hbuild
  refine ⟨fun window => ⟨syncTerminates, hmatches window⟩, ?_⟩
  intro window window' s s' h h' hphase
  -- both windows are compared with the loop, which knows no window
  have hs := hmatches window s h
  have hs' := hmatches window' s' h'
  cases hloop : self.sequentialLoop client records world with
  | ok st =>
    rw [hloop] at hs hs'
    exact ⟨hs'.1, hs.2.1.trans hs'.2.1.symm, hs.2.2.1.trans hs'.2.2.1.symm⟩
  | error e =>
    rw [hloop] at hs
    obtain ⟨e', hraised⟩ := hs
    cases hphase.symm.trans hraised

/-- One worker, a breaker that trips at the first failure, and a window of two. -/
def oneWorker : BaseODataSyncRunner :=
  DataverseInventorySyncRunner.odata
    { source := .oneShot (.error ⟨.fileNotFoundError, "feed"⟩)
      maxWorkers := 1
      failureThreshold := 1
      writeWindowSize := 2 }

/-- A destination that creates the first entity and then refuses every connection. -/
def createsOnce : Client ℕ := fun _ world =>
  (if world = 0 then .ok ⟨201⟩ else .error ⟨.connectionError, "Connection refused"⟩, world + 1)

/-- The third row is submitted when the first is collected, while the second waits. -/
def oneWorkerSchedule : List (WriteLoop.Label Unit) :=
  [.main, .main, .dequeue 0] ++ List.replicate 4 (.advance 0 ()) ++ [.wait {0}, .collect 0, .main,
    .dequeue 1] ++ List.replicate 4 (.advance 1 ()) ++ [.dequeue 2, .advance 2 (), .main,
    .collect 2, .collect 1, .main, .main]

/-- Of three rows the first is created, the second fails, and the third is skipped. -/
theorem sync_refines_sequentialLoop_createsOnce :
    ∃ s st, oneWorker.SyncEndsInOrder standardLogger createsOnce threeRows 0 s ∧
      oneWorker.sequentialLoop createsOnce threeRows 0 = .ok st ∧
      s.phase = .exited none ∧ s.result = st.result ∧
      callsOf s.pool.shared.trace = st.calls ∧ st.calls.length = 2 := by
  have hclient : ∀ call world e, (createsOnce call world).1 = .error e →
      isTransportFailure e = true := by
    intro call world e he
    unfold createsOnce at he
    split at he
    · cases he
    · cases he
      rfl
  have hbuild : ∀ row ∈ threeRows, ∃ payload, oneWorker.buildPayload row = .ok payload := by
    intro row hrow
    obtain rfl | rfl | rfl := by simpa [threeRows] using hrow
    all_goals exact ⟨_, rfl⟩
  have h := (sync_refines_sequentialLoop oneWorker rfl
    (logs_of_dedupeKey standardLogger (by decide)) createsOnce hclient threeRows hbuild 0).1 2
  have hends := syncEndsInOrder_of_exec oneWorker standardLogger createsOnce threeRows 0
    oneWorkerSchedule rfl rfl
  obtain ⟨hphase, hresult, hcalls, -⟩ := h.2 _ hends
  exact ⟨_, _, hends, rfl, hphase, hresult, hcalls, rfl⟩

end BaseODataSyncRunner

end Sync
