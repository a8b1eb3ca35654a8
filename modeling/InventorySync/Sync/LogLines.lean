import InventorySync.Foundations.Journal
import InventorySync.Sync.Replies

/-!
# What a run logs

`_upsert_one` with the lines it logs. The workers of a run write to one log, each line whenever its
step is taken, so that nothing can be said of the order of the lines of two rows. What can be said
is which lines there are when the run ends: one for each row that counts as failed, with the key of
that row, and one more if the breaker tripped.

* `eraseJournal_of_logReaches`: the runs of `sync_records` are those that log, without the log;
* `oneLineEach_of_logReaches`: the lines of failed records;
* `countP_isTripLine_of_logReaches`: the line of the trip.
-/

open Python Pandas Transport ThreadPool

namespace Sync

namespace WriteLoop

variable {ρ ℓ σ ι κ : Type}

/-- The state without its journal. -/
def eraseJournal (s : WriteLoop ρ ℓ (σ × κ)) : WriteLoop ρ ℓ σ where
  pending := s.pending
  inFlight := s.inFlight
  done := s.done
  result := s.result
  phase := s.phase
  pool := s.pool.eraseJournal

theorem map_eraseJournal_collect (s : WriteLoop ρ ℓ (σ × κ)) (i : ℕ) :
    (s.collect i).map eraseJournal = s.eraseJournal.collect i := by
  have hresults : s.eraseJournal.pool.results = s.pool.results := rfl
  simp only [collect, hresults]
  cases s.pool.results[i]? with
  | none => rfl
  | some result =>
    cases result with
    | none => rfl
    | some result => cases result <;> rfl

/-- The main thread does not look at the journal either. -/
theorem map_eraseJournal_step {W : ℕ} {window : ℤ}
    {c : Callable ρ ℓ σ ι (Except PyException Outcome)} {writes : ℕ → ρ → ℓ → ι → σ → List κ}
    (s : WriteLoop ρ ℓ (σ × List (ℕ × κ))) (lab : Label ι) :
    (s.step W window (c.journaling writes) lab).map eraseJournal =
      s.eraseJournal.step W window c lab := by
  have hpool : ∀ m, (s.pool.step W (c.journaling writes) m).map Pool.eraseJournal =
      s.pool.eraseJournal.step W c m := Pool.map_eraseJournal_step s.pool
  cases lab with
  | dequeue i =>
    change Option.map _ (Option.map _ _) = (s.pool.eraseJournal.step W c (.dequeue i)).map _
    rw [← hpool, Option.map_map, Option.map_map]
    rfl
  | advance i inp =>
    change Option.map _ (Option.map _ _) = (s.pool.eraseJournal.step W c (.advance i inp)).map _
    rw [← hpool, Option.map_map, Option.map_map]
    rfl
  | main =>
    obtain ⟨pending, inFlight, done, result, phase, pool⟩ := s
    cases phase <;> cases pending <;>
      simp only [step, eraseJournal, Pool.eraseJournal, apply_ite (Option.map eraseJournal),
        Option.map_some, Option.map_none] <;> rfl
  | wait done =>
    obtain ⟨pending, inFlight, done', result, phase, pool⟩ := s
    cases phase <;> cases pending <;>
      simp only [step, eraseJournal, Pool.eraseJournal, apply_ite (Option.map eraseJournal),
        Option.map_some, Option.map_none]
    rfl
  | collect i =>
    have hcollect := map_eraseJournal_collect s i
    obtain ⟨pending, inFlight, done, result, phase, pool⟩ := s
    cases phase <;>
      simp only [step, apply_ite (Option.map eraseJournal), hcollect, Option.map_none] <;> rfl

section Reachable

variable {maxWorkers window : ℤ} {c : Callable ρ ℓ σ ι (Except PyException Outcome)}
  {writes : ℕ → ρ → ℓ → ι → σ → List κ} {records : List ρ} {shared : σ}

variable (writes) in
theorem map_eraseJournal_exec {W : ℕ} (schedule : List (Label ι)) :
    (TransitionSystem.exec (step W window (c.journaling writes)) (start records (shared, []))
        schedule).map eraseJournal =
      TransitionSystem.exec (step W window c) (start records shared) schedule :=
  TransitionSystem.map_exec map_eraseJournal_step _ schedule

/-- A run with a journal is a run without. -/
theorem eraseJournal_of_reachable {s : WriteLoop ρ ℓ (σ × List (ℕ × κ))}
    (h : Reachable maxWorkers window (c.journaling writes) records (shared, []) s) :
    Reachable maxWorkers window c records shared s.eraseJournal := by
  obtain ⟨schedule, hrun⟩ := h
  exact ⟨schedule, by rw [← map_eraseJournal_exec writes schedule, hrun, Option.map_some]⟩

/-- And every run without is one with a journal. -/
theorem exists_reachable_journaling {s : WriteLoop ρ ℓ σ}
    (h : Reachable maxWorkers window c records shared s) :
    ∃ t, Reachable maxWorkers window (c.journaling writes) records (shared, []) t ∧
      t.eraseJournal = s := by
  obtain ⟨schedule, hrun⟩ := h
  rw [← map_eraseJournal_exec writes schedule] at hrun
  obtain ⟨t, ht, rfl⟩ := Option.map_eq_some_iff.1 hrun
  exact ⟨t, ⟨schedule, ht⟩, rfl⟩

end Reachable

end WriteLoop

/-! ### The lines of `_upsert_one` -/

/-- The line of a failed record, which has the type of an exception. -/
def isFailureLine (call : LogCall) : Bool := call.extra.keys.contains "exception_type"

/-- The line of the trip. -/
def isTripLine (call : LogCall) : Bool :=
  !isFailureLine call && call.extra.keys.contains "failure_threshold"

namespace BaseODataSyncRunner

theorem isFailureLine_failureLog (runner : BaseODataSyncRunner) (key : PyValue) (e : PyException) :
    isFailureLine (runner.failureLog key e) = true := by
  rw [isFailureLine, List.contains_iff_mem, failureLog, InsertionDict.keys_ofPairs,
    List.mem_eraseDups]
  simp

theorem isFailureLine_tripLog (runner : BaseODataSyncRunner) :
    isFailureLine runner.tripLog = false := by
  rw [Bool.eq_false_iff, ne_eq, isFailureLine, List.contains_iff_mem, tripLog,
    InsertionDict.keys_ofPairs, List.mem_eraseDups]
  simp

theorem isTripLine_failureLog (runner : BaseODataSyncRunner) (key : PyValue) (e : PyException) :
    isTripLine (runner.failureLog key e) = false := by
  rw [isTripLine, isFailureLine_failureLog]
  rfl

theorem isTripLine_tripLog (runner : BaseODataSyncRunner) : isTripLine runner.tripLog = true := by
  rw [isTripLine, isFailureLine_tripLog, Bool.not_false, Bool.true_and, List.contains_iff_mem,
    tripLog, InsertionDict.keys_ofPairs, List.mem_eraseDups]
  simp

variable {ι ω : Type} (self : BaseODataSyncRunner) (logger : Logger) (upsert : Upsert ι ω)

/-- The lines that a step of `_upsert_one` logs. -/
def upsertLines (_ : ℕ) (_ : NamedTuple) : Stage → ι → Shared ω → List LogCall
  | .answered key (.error e), _, s =>
    if isTransportFailure e then
      -- a line that the logger refuses is not written, and none comes after it
      match logger.log (self.failureLog key e) with
      | .error _ => []
      | .ok () =>
        if s.breaker.recordFailure.1 then
          match logger.log self.tripLog with
          | .error _ => [self.failureLog key e]
          | .ok () => [self.failureLog key e, self.tripLog]
        else [self.failureLog key e]
    else []
  | _, _, _ => []

/-- `_upsert_one` with the log that all workers write to. -/
def loggingCallable : Callable NamedTuple Stage (Shared ω × List (ℕ × LogCall)) ι
    (Except PyException Outcome) :=
  (self.upsertCallable logger upsert).journaling (self.upsertLines logger)

/-- The states that `sync_records` can reach, with what was logged by then. -/
def LogReaches (records : List NamedTuple) (world : ω)
    (s : WriteLoop NamedTuple Stage (Shared ω × List (ℕ × LogCall))) : Prop :=
  WriteLoop.Reachable self.maxWorkers self.writeWindowSize (self.loggingCallable logger upsert)
    records (⟨.new self.failureThreshold, world, []⟩, []) s

/-- The lines a call has logged, by where it stands. -/
inductive Logged (row : NamedTuple) :
    CallState Stage (Except PyException Outcome) → List LogCall → Prop
  | queued : Logged row .queued []
  | entered : Logged row (.running .entered) []
  | checked : Logged row (.running .checked) []
  | calling {key payload} (hkey : row.getattr self.dedupeKey = .ok key) :
      Logged row (.running (.calling key payload)) []
  | answered {key reply} (hkey : row.getattr self.dedupeKey = .ok key) :
      Logged row (.running (.answered key reply)) []
  | failed {key e} (hkey : row.getattr self.dedupeKey = .ok key) :
      Logged row (.finished (.ok .failed)) [self.failureLog key e]
  | tripped {key e} (hkey : row.getattr self.dedupeKey = .ok key) :
      Logged row (.finished (.ok .failed)) [self.failureLog key e, self.tripLog]
  | other {result} (hresult : result ≠ .ok .failed) : Logged row (.finished result) []

variable {self logger upsert}

/-- What each step of a call logs. -/
theorem keepsJournal_upsertLines (hlogs : self.Logs logger) :
    Pool.KeepsJournal (self.upsertCallable logger upsert) (self.upsertLines logger)
      fun _ row => self.Logged row where
  queued _ _ := .queued
  entered _ _ lines h := by
    cases h
    exact .entered
  step i row stage inp s pr s' lines hstep h := by
    cases step_of_upsertStep hstep with
    | skip =>
      cases h
      exact .other (by simp)
    | check =>
      cases h
      exact .checked
    | unreadable =>
      cases h
      exact .other (by simp)
    | unbuilt hkey =>
      cases h
      exact .answered hkey
    | call hkey =>
      cases h
      exact .calling hkey
    | answer =>
      cases h with
      | calling hkey => exact .answered hkey
    | @succeed _ key response =>
      cases h
      refine .other ?_
      unfold outcomeOf
      split <;> simp
    | escape he =>
      cases h
      rw [upsertLines, if_neg (by simp [he]), List.append_nil]
      exact .other (by simp)
    | unlogged he hlog => cases (hlogs.failureLog _ _).symm.trans hlog
    | @fail _ key e he hlog result hresult =>
      obtain rfl : result = .ok .failed := by
        rcases hresult with hresult | ⟨-, e', htrip, -⟩
        · exact hresult
        · cases hlogs.tripLog.symm.trans htrip
      cases h with
      | answered hkey =>
        simp only [upsertLines, he, hlog, hlogs.tripLog, if_true, List.nil_append]
        -- the breaker tells whether there is a second line
        split
        · exact .tripped hkey
        · exact .failed hkey

/-- A step that trips the breaker logs the line of the trip, and no other step does. -/
theorem countP_isTripLine_upsertLines (hlogs : self.Logs logger) {i : ℕ} {row : NamedTuple}
    {stage : Stage} {inp : ι} {s s' : Shared ω} {pr : Progress Stage (Except PyException Outcome)}
    (h : self.Step logger upsert i row s stage inp pr s') :
    (if s.breaker.tripped then 1 else 0) +
        (self.upsertLines logger i row stage inp s).countP isTripLine =
      if s'.breaker.tripped then 1 else 0 := by
  cases h with
  | skip => rfl
  | check => rfl
  | unreadable => rfl
  | unbuilt => rfl
  | call => rfl
  | answer => rfl
  | succeed =>
    rw [ConsecutiveFailureCircuitBreaker.tripped_recordSuccess]
    rfl
  | escape he =>
    simp only [upsertLines, he, Bool.false_eq_true, if_false]
    rfl
  | unlogged he hlog => cases (hlogs.failureLog _ _).symm.trans hlog
  | @fail _ key e he hlog result hresult =>
    simp only [upsertLines, he, hlog, hlogs.tripLog, if_true]
    cases htripped : s.breaker.tripped with
    | true =>
      -- a tripped breaker does not trip again
      rw [ConsecutiveFailureCircuitBreaker.recordFailure_of_tripped htripped]
      simp [htripped, isTripLine_failureLog]
    | false =>
      obtain ⟨-, htrips, -⟩ :=
        ConsecutiveFailureCircuitBreaker.recordFailure_of_not_tripped htripped
      rw [htrips]
      cases s.breaker.recordFailure.1 <;> simp [isTripLine_failureLog, isTripLine_tripLog]

section Reaches

variable {records : List NamedTuple} {world : ω}
  {s : WriteLoop NamedTuple Stage (Shared ω × List (ℕ × LogCall))}

/-- Without the log, a run that logs is a run. -/
theorem syncReaches_of_logReaches (h : self.LogReaches logger upsert records world s) :
    self.SyncReaches logger upsert records world s.eraseJournal :=
  WriteLoop.eraseJournal_of_reachable h

/-- Every run logs in some way. -/
theorem exists_logReaches {t : WriteLoop NamedTuple Stage (Shared ω)}
    (h : self.SyncReaches logger upsert records world t) :
    ∃ s, self.LogReaches logger upsert records world s ∧ s.eraseJournal = t :=
  WriteLoop.exists_reachable_journaling h

theorem journaled_of_logReaches (hlogs : self.Logs logger)
    (h : self.LogReaches logger upsert records world s) :
    Pool.Journaled (fun _ row => self.Logged row) s.pool :=
  WriteLoop.pool_invariant
    (fun _ _ _ _ hp hstep => hp.of_step (keepsJournal_upsertLines hlogs) hstep)
    (Pool.journaled_start _) h

/-- Each row that failed has one line. -/
theorem oneLineEach_of_logReaches (hlogs : self.Logs logger)
    (h : self.LogReaches logger upsert records world s) :
    Pool.OneLineEach isFailureLine (.ok .failed) s.pool.shared.2 s.pool := by
  have hjournaled := journaled_of_logReaches hlogs h
  intro i
  cases hcall : s.pool.calls[i]? with
  | none =>
    have hresults : s.pool.results[i]? = none := by rw [Pool.results, List.getElem?_map, hcall]; rfl
    rw [hjournaled.linesOf_eq_nil (List.getElem?_eq_none_iff.1 hcall), hresults]
    rfl
  | some call =>
    obtain ⟨row, st⟩ := call
    have hresults : s.pool.results[i]? = some (Call.mk row st).result? := by
      rw [Pool.results, List.getElem?_map, hcall]
      rfl
    have hlogged := hjournaled.lines i row st hcall
    rw [hresults]
    generalize linesOf i s.pool.shared.2 = lines at hlogged ⊢
    cases hlogged with
    | queued => rfl
    | entered => rfl
    | checked => rfl
    | calling => rfl
    | answered => rfl
    | failed => simp [isFailureLine_failureLog, Call.result?]
    | tripped => simp [isFailureLine_failureLog, isFailureLine_tripLog, Call.result?]
    | other hresult => simp [Call.result?, hresult]

/-- There is one line of the trip if the breaker tripped, and none if it did not. -/
theorem countP_isTripLine_of_logReaches (hlogs : self.Logs logger)
    (h : self.LogReaches logger upsert records world s) :
    (s.pool.shared.2.countP fun entry => isTripLine entry.2) =
      if s.pool.shared.1.breaker.tripped then 1 else 0 := by
  refine WriteLoop.pool_invariant
    (P := fun p : Pool NamedTuple Stage (Shared ω × List (ℕ × LogCall)) _ =>
      (p.shared.2.countP fun entry => isTripLine entry.2) =
        if p.shared.1.breaker.tripped then 1 else 0) ?_ rfl h
  intro p m p' _ hp hstep
  cases hstep with
  | submit row => exact hp
  | dequeue hcall hfree => exact hp
  | @advance i inp row stage pr s' hcall hstep =>
    obtain ⟨rfl, rfl⟩ := Prod.mk.inj hstep
    have htaken : self.Step logger upsert i row p.shared.1 stage inp _ _ := step_of_upsertStep rfl
    have hline := countP_isTripLine_upsertLines hlogs htaken
    rw [← hp] at hline
    rw [List.countP_append, List.countP_map]
    exact hline

/-- Every line is that of a row that failed, or of the trip. -/
theorem exists_of_mem_log (hlogs : self.Logs logger)
    (h : self.LogReaches logger upsert records world s) {i : ℕ} {call : LogCall}
    (hcall : (i, call) ∈ s.pool.shared.2) :
    ∃ row, s.pool.calls[i]? = some ⟨row, .finished (.ok .failed)⟩ ∧
      ((∃ key e, row.getattr self.dedupeKey = .ok key ∧ call = self.failureLog key e) ∨
        call = self.tripLog) := by
  have hjournaled := journaled_of_logReaches hlogs h
  have hlt : i < s.pool.calls.length := hjournaled.id_lt _ hcall
  obtain ⟨⟨row, st⟩, hget⟩ : ∃ c, s.pool.calls[i]? = some c := ⟨_, List.getElem?_eq_getElem hlt⟩
  have hlogged := hjournaled.lines i row st hget
  have hmem := mem_linesOf.2 hcall
  generalize linesOf i s.pool.shared.2 = lines at hlogged hmem
  cases hlogged with
  | @failed key e hkey =>
    obtain rfl := List.mem_singleton.1 hmem
    exact ⟨row, hget, .inl ⟨key, e, hkey, rfl⟩⟩
  | @tripped key e hkey =>
    rcases List.mem_cons.1 hmem with rfl | hmem
    · exact ⟨row, hget, .inl ⟨key, e, hkey, rfl⟩⟩
    · exact ⟨row, hget, .inr (List.mem_singleton.1 hmem)⟩
  | queued => cases hmem
  | entered => cases hmem
  | checked => cases hmem
  | calling => cases hmem
  | answered => cases hmem
  | other => cases hmem

end Reaches

end BaseODataSyncRunner

end Sync
