import InventorySync.Sync.UpsertOne

/-!
# The windowed write loop

`BaseODataSyncRunner.sync_records`: the main thread submits one call for each row to a thread pool,
waits for some of the outstanding calls whenever a window is full, counts what finished calls
returned, and leaves the executor's `with` block, which waits for every submitted call. The loop is
written over an arbitrary `Callable`, so that what a call does plays no part in it.

* `Step`, `step_eq_some_iff`: everything a step of the loop can do;
* `Inv`, `inv_of_step`, `inv_of_reachable`: the loop invariant;
* `pool_invariant`: what every step of a pool preserves holds of the pool of every run.
-/

open Python ThreadPool

namespace Sync

/-- The counts `result`, under each outcome. -/
abbrev Result : Type := Outcome → ℕ

/-- `result[outcome] += 1` -/
def Result.increment (result : Result) (outcome : Outcome) : Result :=
  Function.update result outcome (result outcome + 1)

/-- Where the main thread stands. -/
inductive Phase
  /-- At the head of the loop over the rows. -/
  | iterating
  /-- In the loop over `done`, with a row in hand that is still to be submitted. -/
  | collecting
  /-- In the loop over `as_completed(in_flight)`. -/
  | draining
  /-- Leaving the `with` block, with the exception on its way out if there is one. -/
  | closing (raised : Option PyException)
  /-- `sync_records` returned, or raised. -/
  | exited (raised : Option PyException)

/-- The state of one `sync_records` call. Futures are named by their submission number; a future
leaves `inFlight` and `done` when it is collected. -/
structure WriteLoop (ρ ℓ σ : Type) where
  /-- The rows that have not been submitted. -/
  pending : List ρ
  inFlight : Finset ℕ
  /-- What is left to collect of the last `wait`. -/
  done : Finset ℕ
  result : Result
  phase : Phase
  pool : Pool ρ ℓ σ (Except PyException Outcome)

namespace WriteLoop

variable {ρ ℓ σ ι : Type}

/-- A choice of the scheduler: whether the main thread or a worker goes on, and where a library
call leaves it open, what that call returns. -/
inductive Label (ι : Type)
  /-- The main thread takes its next step. -/
  | main
  /-- `wait` returns with this part of its set finished. -/
  | wait (done : Finset ℕ)
  /-- The main thread collects this future. -/
  | collect (i : ℕ)
  /-- A free worker takes the queued call `i`. -/
  | dequeue (i : ℕ)
  /-- The running call `i` takes one step. -/
  | advance (i : ℕ) (inp : ι)

/-- The state in which the main thread starts. -/
def start (records : List ρ) (shared : σ) : WriteLoop ρ ℓ σ where
  pending := records
  inFlight := ∅
  done := ∅
  result := fun _ => 0
  phase := .iterating
  pool := ⟨[], shared⟩

/-- The futures that are submitted and not yet collected. -/
def held (s : WriteLoop ρ ℓ σ) : Finset ℕ := s.inFlight ∪ s.done

/-- `in_flight.add(executor.submit(...))` -/
def submitRow (s : WriteLoop ρ ℓ σ) (row : ρ) (pending : List ρ) : WriteLoop ρ ℓ σ :=
  { s with
    pending
    inFlight := insert s.pool.calls.length s.inFlight
    phase := .iterating
    pool := s.pool.submit row }

/-- `result[future.result()] += 1` -/
def collect (s : WriteLoop ρ ℓ σ) (i : ℕ) : Option (WriteLoop ρ ℓ σ) :=
  match s.pool.results[i]? with
  | some (some (.ok outcome)) =>
    some { s with
      inFlight := s.inFlight.erase i
      done := s.done.erase i
      result := s.result.increment outcome }
  -- `future.result()` raises, and the loops are left with everything still in hand
  | some (some (.error e)) => some { s with phase := .closing (some e) }
  -- `wait` and `as_completed` hand out finished futures only
  | _ => none

/-- One step of `sync_records` on a pool of `W` workers. -/
def step (W : ℕ) (window : ℤ) (c : Callable ρ ℓ σ ι (Except PyException Outcome))
    (s : WriteLoop ρ ℓ σ) : Label ι → Option (WriteLoop ρ ℓ σ)
  -- the workers go on whatever the main thread is doing
  | .dequeue i => (s.pool.step W c (.dequeue i)).map fun pool => { s with pool }
  | .advance i inp => (s.pool.step W c (.advance i inp)).map fun pool => { s with pool }
  | .main =>
    match s.phase with
    | .iterating =>
      match s.pending with
      | [] => some { s with phase := .draining }
      | row :: pending =>
        if (s.inFlight.card : ℤ) < window then some (s.submitRow row pending) else none
    | .collecting =>
      match s.pending with
      | [] => none
      | row :: pending => if s.done = ∅ then some (s.submitRow row pending) else none
    | .draining => if s.inFlight = ∅ then some { s with phase := .closing none } else none
    | .closing raised =>
      -- `executor.__exit__` waits for the queued calls too: nothing is cancelled
      if s.pool.calls.all Call.isFinished then some { s with phase := .exited raised } else none
    | .exited _ => none
  | .wait done =>
    match s.phase, s.pending with
    | .iterating, _ :: _ =>
      -- `wait` returns a nonempty finished part of its set, or at once if the set is empty
      if window ≤ s.inFlight.card ∧ done ⊆ s.inFlight ∧
          (∀ i ∈ done, (s.pool.calls[i]?).any Call.isFinished) ∧
          (done.Nonempty ∨ s.inFlight = ∅) then
        some { s with phase := .collecting, inFlight := s.inFlight \ done, done }
      else none
    | _, _ => none
  | .collect i =>
    match s.phase with
    | .collecting => if i ∈ s.done then s.collect i else none
    | .draining => if i ∈ s.inFlight then s.collect i else none
    | _ => none

/-- `step` as a relation: everything a step can do, with its guards. -/
inductive Step (W : ℕ) (window : ℤ) (c : Callable ρ ℓ σ ι (Except PyException Outcome))
    (s : WriteLoop ρ ℓ σ) : Label ι → WriteLoop ρ ℓ σ → Prop
  | dequeue {i pool} (hpool : Pool.Step W c s.pool (.dequeue i) pool) :
      Step W window c s (.dequeue i) { s with pool }
  | advance {i inp pool} (hpool : Pool.Step W c s.pool (.advance i inp) pool) :
      Step W window c s (.advance i inp) { s with pool }
  | submit {row pending} (hphase : s.phase = .iterating) (hpending : s.pending = row :: pending)
      (hroom : (s.inFlight.card : ℤ) < window) : Step W window c s .main (s.submitRow row pending)
  | submitCollected {row pending} (hphase : s.phase = .collecting)
      (hpending : s.pending = row :: pending) (hdone : s.done = ∅) :
      Step W window c s .main (s.submitRow row pending)
  | drain (hphase : s.phase = .iterating) (hpending : s.pending = []) :
      Step W window c s .main { s with phase := .draining }
  | close (hphase : s.phase = .draining) (hempty : s.inFlight = ∅) :
      Step W window c s .main { s with phase := .closing none }
  | exit {raised} (hphase : s.phase = .closing raised)
      (hfinished : s.pool.AllFinished) :
      Step W window c s .main { s with phase := .exited raised }
  | wait {done} (hphase : s.phase = .iterating) (hpending : s.pending ≠ [])
      (hfull : window ≤ s.inFlight.card) (hsub : done ⊆ s.inFlight)
      (hfinished : ∀ i ∈ done, ∃ r, s.pool.results[i]? = some (some r))
      (hsome : done.Nonempty ∨ s.inFlight = ∅) :
      Step W window c s (.wait done)
        { s with phase := .collecting, inFlight := s.inFlight \ done, done }
  | collect {i outcome}
      (hmem : s.phase = .collecting ∧ i ∈ s.done ∨ s.phase = .draining ∧ i ∈ s.inFlight)
      (hresult : s.pool.results[i]? = some (some (.ok outcome))) :
      Step W window c s (.collect i)
        { s with
          inFlight := s.inFlight.erase i
          done := s.done.erase i
          result := s.result.increment outcome }
  | raise {i e}
      (hmem : s.phase = .collecting ∧ i ∈ s.done ∨ s.phase = .draining ∧ i ∈ s.inFlight)
      (hresult : s.pool.results[i]? = some (some (.error e))) :
      Step W window c s (.collect i) { s with phase := .closing (some e) }

variable {W : ℕ} {window : ℤ} {c : Callable ρ ℓ σ ι (Except PyException Outcome)}
  {s s' : WriteLoop ρ ℓ σ} {lab : Label ι}

/-- A future that `wait` reports has a result. -/
theorem any_isFinished_iff {i : ℕ} :
    (s.pool.calls[i]?).any Call.isFinished = true ↔ ∃ r, s.pool.results[i]? = some (some r) := by
  rw [Pool.results, List.getElem?_map]
  cases s.pool.calls[i]? with
  | none => simp
  | some call => simp [Call.isFinished_iff]

theorem step_of_collect {i : ℕ} (h : s.collect i = some s')
    (hmem : s.phase = .collecting ∧ i ∈ s.done ∨ s.phase = .draining ∧ i ∈ s.inFlight) :
    Step W window c s (.collect i) s' := by
  unfold WriteLoop.collect at h
  split at h
  next outcome hresult =>
    obtain rfl := Option.some.inj h
    exact .collect hmem hresult
  next e hresult =>
    obtain rfl := Option.some.inj h
    exact .raise hmem hresult
  next => cases h

/-- The one place where the branches of the loop are taken apart. -/
theorem step_of_step_eq_some (h : s.step W window c lab = some s') : Step W window c s lab s' := by
  cases lab with
  | dequeue i =>
    obtain ⟨pool, hpool, rfl⟩ := Option.map_eq_some_iff.1 h
    exact .dequeue (Pool.step_eq_some_iff.1 hpool)
  | advance i inp =>
    obtain ⟨pool, hpool, rfl⟩ := Option.map_eq_some_iff.1 h
    exact .advance (Pool.step_eq_some_iff.1 hpool)
  | wait done =>
    simp only [step] at h
    split at h
    next hphase hpending =>
      split at h
      next hwait =>
        obtain rfl := Option.some.inj h
        obtain ⟨hfull, hsub, hfinished, hsome⟩ := hwait
        exact .wait hphase (by simp [hpending]) hfull hsub
          (fun i hi => any_isFinished_iff.1 (hfinished i hi)) hsome
      next => cases h
    next => cases h
  | collect i =>
    simp only [step] at h
    split at h
    next hphase =>
      split at h
      next hi => exact step_of_collect h (.inl ⟨hphase, hi⟩)
      next => cases h
    next hphase =>
      split at h
      next hi => exact step_of_collect h (.inr ⟨hphase, hi⟩)
      next => cases h
    next => cases h
  | main =>
    simp only [step] at h
    split at h
    next hphase =>
      split at h
      next hpending =>
        obtain rfl := Option.some.inj h
        exact .drain hphase hpending
      next row pending hpending =>
        split at h
        next hroom =>
          obtain rfl := Option.some.inj h
          exact .submit hphase hpending hroom
        next => cases h
    next hphase =>
      split at h
      next => cases h
      next row pending hpending =>
        split at h
        next hdone =>
          obtain rfl := Option.some.inj h
          exact .submitCollected hphase hpending hdone
        next => cases h
    next hphase =>
      split at h
      next hempty =>
        obtain rfl := Option.some.inj h
        exact .close hphase hempty
      next => cases h
    next raised hphase =>
      split at h
      next hfinished =>
        obtain rfl := Option.some.inj h
        exact .exit hphase (List.all_eq_true.1 hfinished)
      next => cases h
    next => cases h

/-- Every step of the relation is one of the function. -/
theorem step_eq_some_of_step (h : Step W window c s lab s') : s.step W window c lab = some s' := by
  cases h with
  | dequeue hpool => exact Option.map_eq_some_iff.2 ⟨_, Pool.step_eq_some_iff.2 hpool, rfl⟩
  | advance hpool => exact Option.map_eq_some_iff.2 ⟨_, Pool.step_eq_some_iff.2 hpool, rfl⟩
  | submit hphase hpending hroom => simp only [step, hphase, hpending, hroom, if_true]
  | submitCollected hphase hpending hdone => simp only [step, hphase, hpending, hdone, if_true]
  | drain hphase hpending => simp only [step, hphase, hpending]
  | close hphase hempty => simp only [step, hphase, hempty, if_true]
  | exit hphase hfinished =>
    simp only [step, hphase, List.all_eq_true.2 hfinished, if_true]
  | @wait done hphase hpending hfull hsub hfinished hsome =>
    obtain ⟨row, pending, hpending⟩ := List.exists_cons_of_ne_nil hpending
    have hany : ∀ i ∈ done, (s.pool.calls[i]?).any Call.isFinished = true :=
      fun i hi => any_isFinished_iff.2 (hfinished i hi)
    simp only [step, hphase, hpending]
    exact if_pos ⟨hfull, hsub, hany, hsome⟩
  | collect hmem hresult =>
    rcases hmem with ⟨hphase, hi⟩ | ⟨hphase, hi⟩ <;>
      simp only [step, hphase, hi, if_true, WriteLoop.collect, hresult]
  | raise hmem hresult =>
    rcases hmem with ⟨hphase, hi⟩ | ⟨hphase, hi⟩ <;>
      simp only [step, hphase, hi, if_true, WriteLoop.collect, hresult]

theorem step_eq_some_iff : s.step W window c lab = some s' ↔ Step W window c s lab s' :=
  ⟨step_of_step_eq_some, step_eq_some_of_step⟩

/-! ### The pool below the loop -/

/-- A step of the loop is no step or one step of its pool. -/
theorem pool_step_of_step (h : Step W window c s lab s') :
    s'.pool = s.pool ∨ ∃ m, Pool.Step W c s.pool m s'.pool := by
  cases h with
  | dequeue hpool => exact .inr ⟨_, hpool⟩
  | advance hpool => exact .inr ⟨_, hpool⟩
  | submit hphase hpending hroom => exact .inr ⟨_, .submit _⟩
  | submitCollected hphase hpending hdone => exact .inr ⟨_, .submit _⟩
  | drain => exact .inl rfl
  | close => exact .inl rfl
  | exit => exact .inl rfl
  | wait => exact .inl rfl
  | collect => exact .inl rfl
  | raise => exact .inl rfl

/-! ### The loop invariant -/

/-- Some call raised `e`. -/
def Raised (s : WriteLoop ρ ℓ σ) (e : PyException) : Prop :=
  ∃ i : ℕ, s.pool.results[i]? = some (some (Except.error e))

/-- What holds in each phase besides the loop invariant proper. -/
def PhaseInv (window : ℤ) (s : WriteLoop ρ ℓ σ) : Phase → Prop
  | .iterating => s.done = ∅
  | .collecting => s.pending ≠ [] ∧ (s.inFlight.card : ℤ) < max 1 window
  | .draining => s.pending = [] ∧ s.done = ∅
  | .closing none => s.pending = [] ∧ s.held = ∅
  | .closing (some e) => s.Raised e
  | .exited none => s.pending = [] ∧ s.held = ∅ ∧ s.pool.AllFinished
  | .exited (some e) => s.Raised e ∧ s.pool.AllFinished

/-- The loop invariant. -/
structure Inv (records : List ρ) (window : ℤ) (s : WriteLoop ρ ℓ σ) : Prop where
  /-- The rows submitted so far are the records before the pending ones. -/
  order : s.pool.rows ++ s.pending = records
  held_lt : ∀ i ∈ s.held, i < s.pool.calls.length
  disjoint : Disjoint s.inFlight s.done
  card_held : (s.held.card : ℤ) ≤ max 1 window
  done_finished : ∀ i ∈ s.done, ∃ r, s.pool.results[i]? = some (some r)
  /-- A call that is no longer held returned an outcome. -/
  collected : ∀ i < s.pool.calls.length, i ∉ s.held →
    ∃ outcome, s.pool.results[i]? = some (some (.ok outcome))
  /-- Exactly the collected calls are counted, each under the outcome it returned. -/
  counted : ∀ outcome, s.result outcome =
    ((Finset.range s.pool.calls.length \ s.held).filter fun i =>
      s.pool.results[i]? = some (some (.ok outcome))).card
  phase : PhaseInv window s s.phase

theorem inv_start (records : List ρ) (shared : σ) :
    Inv records window (start records shared : WriteLoop ρ ℓ σ) where
  order := by simp [start, Pool.rows]
  held_lt := by simp [held, start]
  disjoint := by simp [start]
  card_held := by simp [held, start]
  done_finished := by simp [start]
  collected := by simp [start]
  counted := by simp [start]
  phase := rfl

/-- The calls that are counted under an outcome. -/
theorem counted_congr {held : Finset ℕ} {pool pool' : Pool ρ ℓ σ (Except PyException Outcome)}
    (hlen : pool'.calls.length = pool.calls.length)
    (hcollected : ∀ i < pool.calls.length, i ∉ held →
      ∃ outcome, pool.results[i]? = some (some (.ok outcome)))
    (hkept : ∀ (i : ℕ) r, pool.results[i]? = some (some r) → pool'.results[i]? = some (some r))
    (outcome : Outcome) :
    ((Finset.range pool'.calls.length \ held).filter fun i =>
        pool'.results[i]? = some (some (.ok outcome))) =
      (Finset.range pool.calls.length \ held).filter fun i =>
        pool.results[i]? = some (some (.ok outcome)) := by
  rw [hlen]
  -- an uncollected call may get its result in this step, but it is held and not counted
  apply Finset.filter_congr
  intro i hi
  obtain ⟨hlt, hheld⟩ := Finset.mem_sdiff.1 hi
  obtain ⟨outcome', hresult⟩ := hcollected i (Finset.mem_range.1 hlt) hheld
  rw [hresult, hkept i _ hresult]

theorem raised_worker {pool : Pool ρ ℓ σ (Except PyException Outcome)} {m : ThreadPool.Label ρ ι}
    (hpool : Pool.Step W c s.pool m pool) {e : PyException} (h : s.Raised e) :
    { s with pool }.Raised e :=
  h.imp fun _ => Pool.results_of_step hpool

theorem phaseInv_worker {pool : Pool ρ ℓ σ (Except PyException Outcome)}
    {m : ThreadPool.Label ρ ι} (hpool : Pool.Step W c s.pool m pool) (hm : ∀ row, m ≠ .submit row)
    {phase : Phase} (h : PhaseInv window s phase) : PhaseInv window { s with pool } phase := by
  match phase, h with
  | .iterating, h => exact h
  | .collecting, h => exact h
  | .draining, h => exact h
  | .closing none, h => exact h
  | .closing (some e), h => exact raised_worker hpool h
  | .exited none, ⟨hpending, hheld, hall⟩ =>
    exact ⟨hpending, hheld, Pool.allFinished_of_step hpool hm hall⟩
  | .exited (some e), ⟨hraised, hall⟩ =>
    exact ⟨raised_worker hpool hraised, Pool.allFinished_of_step hpool hm hall⟩

theorem inv_worker {records : List ρ} (hs : Inv records window s)
    {pool : Pool ρ ℓ σ (Except PyException Outcome)} {m : ThreadPool.Label ρ ι}
    (hpool : Pool.Step W c s.pool m pool) (hm : ∀ row, m ≠ .submit row) :
    Inv records window { s with pool } := by
  have hrows : pool.rows = s.pool.rows := Pool.rows_eq_of_step hpool hm
  have hlen : pool.calls.length = s.pool.calls.length := Pool.length_eq_of_step hpool hm
  -- workers add results and change none, so what was collected stays as it was
  have hkept : ∀ (i : ℕ) r, s.pool.results[i]? = some (some r) → pool.results[i]? = some (some r) :=
    fun i r => Pool.results_of_step hpool
  exact
    { order := hrows ▸ hs.order
      held_lt := fun i hi => hlen ▸ hs.held_lt i hi
      disjoint := hs.disjoint
      card_held := hs.card_held
      done_finished := fun i hi => (hs.done_finished i hi).imp fun r => hkept i r
      collected := fun i hi hheld =>
        (hs.collected i (hlen ▸ hi) hheld).imp fun outcome => hkept i _
      counted := fun outcome => by
        rw [hs.counted outcome]
        exact congrArg Finset.card (counted_congr hlen hs.collected hkept outcome).symm
      phase := phaseInv_worker hpool hm hs.phase }

/-- The new call is held, and the old ones are as they were. -/
theorem inv_submitRow {records pending : List ρ} {row : ρ} (hs : Inv records window s)
    (hpending : s.pending = row :: pending) (hdone : s.done = ∅)
    (hroom : (s.inFlight.card : ℤ) < max 1 window) :
    Inv records window (s.submitRow row pending) := by
  -- the new future is the number of calls so far, which no held future has
  have hheld : (s.submitRow row pending).held = insert s.pool.calls.length s.held :=
    Finset.insert_union _ _ _
  have hlen : (s.pool.submit row).calls.length = s.pool.calls.length + 1 := by simp [Pool.submit]
  have hfresh : s.pool.calls.length ∉ s.held := fun hmem => (hs.held_lt _ hmem).false
  have huncollected : Finset.range (s.pool.calls.length + 1) \ insert s.pool.calls.length s.held =
      Finset.range s.pool.calls.length \ s.held := by
    rw [Finset.range_add_one, Finset.insert_sdiff_insert,
      Finset.sdiff_insert_of_notMem Finset.notMem_range_self]
  exact
    { order := by
        rw [← hs.order, hpending]
        simp [submitRow, Pool.rows_submit]
      held_lt := by
        intro i hi
        rw [hheld, Finset.mem_insert] at hi
        change i < (s.pool.submit row).calls.length
        rw [hlen]
        rcases hi with rfl | hi
        · exact Nat.lt_succ_self _
        · exact Nat.lt_succ_of_lt (hs.held_lt i hi)
      disjoint := by
        change Disjoint (insert _ s.inFlight) s.done
        simp [hdone]
      card_held := by
        rw [hheld, Finset.card_insert_of_notMem hfresh, held, hdone, Finset.union_empty]
        push_cast
        omega
      done_finished := by
        intro i hi
        change i ∈ s.done at hi
        simp [hdone] at hi
      collected := by
        intro i hi hnotMem
        rw [hheld, Finset.mem_insert, not_or] at hnotMem
        obtain ⟨hne, hnotMem⟩ := hnotMem
        have hlt : i < s.pool.calls.length := by
          change i < (s.pool.submit row).calls.length at hi
          omega
        exact (hs.collected i hlt hnotMem).imp fun outcome =>
          (Pool.results_submit_getElem? row i _).2
      counted := by
        intro outcome
        change s.result outcome = _
        rw [hs.counted outcome, hheld]
        change _ = (Finset.filter _
          (Finset.range (s.pool.submit row).calls.length \ _)).card
        rw [hlen, huncollected]
        refine congrArg Finset.card (Finset.filter_congr fun i _ => ?_)
        exact (Pool.results_submit_getElem? row i _).symm
      phase := hdone }

/-- `wait` moves finished futures from `inFlight` to `done`. -/
theorem inv_wait {records : List ρ} {done : Finset ℕ} (hs : Inv records window s)
    (hphase : s.phase = .iterating) (hpending : s.pending ≠ []) (hsub : done ⊆ s.inFlight)
    (hfinished : ∀ i ∈ done, ∃ r, s.pool.results[i]? = some (some r))
    (hsome : done.Nonempty ∨ s.inFlight = ∅) :
    Inv records window { s with phase := .collecting, inFlight := s.inFlight \ done, done } := by
  have hdone : s.done = ∅ := by
    have := hs.phase
    rwa [hphase] at this
  have hheld : WriteLoop.held { s with phase := .collecting, inFlight := s.inFlight \ done, done } =
      s.held := by
    simp only [held, hdone, Finset.union_empty, Finset.sdiff_union_of_subset hsub]
  have hcard : (s.inFlight.card : ℤ) ≤ max 1 window := by
    simpa [held, hdone] using hs.card_held
  -- a nonempty part was taken out, which leaves room for the row in hand
  have hroom : ((s.inFlight \ done).card : ℤ) < max 1 window := by
    have hle := Finset.card_sdiff_add_card_eq_card hsub
    rcases hsome with hne | hempty
    · have hpos := Finset.card_pos.2 hne
      omega
    · simp [hempty]
  exact
    { order := hs.order
      held_lt := hheld ▸ hs.held_lt
      disjoint := Finset.sdiff_disjoint
      card_held := hheld ▸ hs.card_held
      done_finished := hfinished
      collected := hheld ▸ hs.collected
      counted := hheld ▸ hs.counted
      phase := ⟨hpending, hroom⟩ }

/-- The collected future is no longer held, and is counted once. -/
theorem inv_collect {records : List ρ} {i : ℕ} {outcome : Outcome} (hs : Inv records window s)
    (hmem : s.phase = .collecting ∧ i ∈ s.done ∨ s.phase = .draining ∧ i ∈ s.inFlight)
    (hresult : s.pool.results[i]? = some (some (.ok outcome))) :
    Inv records window { s with
      inFlight := s.inFlight.erase i
      done := s.done.erase i
      result := s.result.increment outcome } := by
  have hi : i ∈ s.held := by
    rcases hmem with ⟨-, hi⟩ | ⟨-, hi⟩
    · exact Finset.mem_union_right _ hi
    · exact Finset.mem_union_left _ hi
  have hheld : WriteLoop.held { s with
      inFlight := s.inFlight.erase i
      done := s.done.erase i
      result := s.result.increment outcome } = s.held.erase i :=
    (Finset.erase_union_distrib _ _ _).symm
  -- releasing call `i` adds it to the counted calls, under its outcome only
  have hcounted : ∀ outcome', s.result.increment outcome outcome' =
      ((Finset.range s.pool.calls.length \ s.held.erase i).filter fun j =>
        s.pool.results[j]? = some (some (.ok outcome'))).card := by
    intro outcome'
    rw [Finset.sdiff_erase (Finset.mem_range.2 (hs.held_lt i hi)), Finset.filter_insert,
      Result.increment]
    by_cases heq : outcome' = outcome
    · have hnotMem : i ∉ (Finset.range s.pool.calls.length \ s.held).filter fun j =>
          s.pool.results[j]? = some (some (.ok outcome')) := by simp [hi]
      rw [if_pos (heq ▸ hresult), Finset.card_insert_of_notMem hnotMem, ← hs.counted, heq,
        Function.update_self]
    · have hne : s.pool.results[i]? ≠ some (some (.ok outcome')) := by
        rw [hresult]
        simpa [eq_comm] using heq
      rw [if_neg hne, ← hs.counted, Function.update_of_ne heq]
  have hphase : PhaseInv window { s with
      inFlight := s.inFlight.erase i
      done := s.done.erase i
      result := s.result.increment outcome } s.phase := by
    have hold := hs.phase
    rcases hmem with ⟨hphase, -⟩ | ⟨hphase, -⟩
    · rw [hphase] at hold ⊢
      have hle : (s.inFlight.erase i).card ≤ s.inFlight.card := Finset.card_erase_le
      exact ⟨hold.1, by have := hold.2; simp only; omega⟩
    · rw [hphase] at hold ⊢
      exact ⟨hold.1, by simp [hold.2]⟩
  exact
    { order := hs.order
      held_lt := fun j hj => hs.held_lt j (Finset.mem_of_mem_erase (hheld ▸ hj))
      disjoint := Finset.disjoint_of_subset_left (Finset.erase_subset _ _)
        (Finset.disjoint_of_subset_right (Finset.erase_subset _ _) hs.disjoint)
      card_held := by
        have hle : (s.held.erase i).card ≤ s.held.card := Finset.card_erase_le
        have := hs.card_held
        rw [hheld]
        omega
      done_finished := fun j hj => hs.done_finished j (Finset.mem_of_mem_erase hj)
      collected := by
        intro j hj hnotMem
        by_cases hji : j = i
        · exact ⟨outcome, hji ▸ hresult⟩
        · exact hs.collected j hj fun hmem => hnotMem (hheld ▸ Finset.mem_erase.2 ⟨hji, hmem⟩)
      counted := hheld ▸ hcounted
      phase := hphase }

/-- The loop invariant depends on the phase only through `PhaseInv`. -/
theorem inv_phase {records : List ρ} {phase : Phase} (hs : Inv records window s)
    (hphase : PhaseInv window s phase) : Inv records window { s with phase } where
  order := hs.order
  held_lt := hs.held_lt
  disjoint := hs.disjoint
  card_held := hs.card_held
  done_finished := hs.done_finished
  collected := hs.collected
  counted := hs.counted
  phase := by
    -- the phase decides only what the invariant says of the phase
    match phase, hphase with
    | .iterating, h => exact h
    | .collecting, h => exact h
    | .draining, h => exact h
    | .closing none, h => exact h
    | .closing (some _), h => exact h
    | .exited none, h => exact h
    | .exited (some _), h => exact h

theorem inv_of_step {records : List ρ} (hs : Inv records window s)
    (h : Step W window c s lab s') : Inv records window s' := by
  have hold := hs.phase
  cases h with
  | dequeue hpool => exact inv_worker hs hpool (by simp)
  | advance hpool => exact inv_worker hs hpool (by simp)
  | submit hphase hpending hroom =>
    rw [hphase] at hold
    exact inv_submitRow hs hpending hold (hroom.trans_le (le_max_right _ _))
  | submitCollected hphase hpending hdone =>
    rw [hphase] at hold
    exact inv_submitRow hs hpending hdone hold.2
  | drain hphase hpending =>
    rw [hphase] at hold
    exact inv_phase hs ⟨hpending, hold⟩
  | close hphase hempty =>
    rw [hphase] at hold
    -- nothing is in flight and nothing is left of a `wait`
    refine inv_phase hs ⟨hold.1, ?_⟩
    rw [held, hempty, hold.2, Finset.union_empty]
  | @exit raised hphase hfinished =>
    rw [hphase] at hold
    -- the `with` block is left with every call finished
    cases raised with
    | none => exact inv_phase hs ⟨hold.1, hold.2, hfinished⟩
    | some e => exact inv_phase hs ⟨hold, hfinished⟩
  | wait hphase hpending hfull hsub hfinished hsome =>
    exact inv_wait hs hphase hpending hsub hfinished hsome
  | collect hmem hresult => exact inv_collect hs hmem hresult
  | raise hmem hresult => exact inv_phase hs ⟨_, hresult⟩

/-! ### Runs -/

/-- The states that a `sync_records` call on `records` can reach, under any schedule. -/
def Reachable (maxWorkers window : ℤ) (c : Callable ρ ℓ σ ι (Except PyException Outcome))
    (records : List ρ) (shared : σ) (s : WriteLoop ρ ℓ σ) : Prop :=
  ∃ schedule, TransitionSystem.exec (step maxWorkers.toNat window c) (start records shared)
    schedule = some s

variable {maxWorkers : ℤ} {records : List ρ} {shared : σ}

theorem inv_of_reachable (h : Reachable maxWorkers window c records shared s) :
    Inv records window s := by
  obtain ⟨schedule, hrun⟩ := h
  exact TransitionSystem.exec_invariant'
    (fun _ _ _ hs hstep => inv_of_step hs (step_eq_some_iff.1 hstep)) (inv_start records shared)
    hrun

/-- Every submitted row is one of the records. -/
theorem Inv.mem_records (hs : Inv records window s) : ∀ row ∈ s.pool.rows, row ∈ records := by
  intro row hrow
  rw [← hs.order]
  exact List.mem_append_left _ hrow

/-- Invariant rule for the pool of a run: what every pool step preserves, on pools whose calls are
for the first records of the run in their order, holds of the pool in every state the run
reaches. -/
theorem pool_invariant {P : Pool ρ ℓ σ (Except PyException Outcome) → Prop}
    (hstep : ∀ p m p', p'.rows <+: records → P p →
      Pool.Step maxWorkers.toNat c p m p' → P p')
    (hstart : P ⟨[], shared⟩) (h : Reachable maxWorkers window c records shared s) : P s.pool := by
  obtain ⟨schedule, hrun⟩ := h
  -- the loop invariant is carried along: it gives that the rows submitted are the first records
  have hboth : Inv records window s ∧ P s.pool := by
    refine TransitionSystem.exec_invariant'
      (P := fun t : WriteLoop ρ ℓ σ => Inv records window t ∧ P t.pool) ?_
      ⟨inv_start records shared, hstart⟩ hrun
    rintro t lab t' ⟨ht, hP⟩ ht'
    have hstep' := step_eq_some_iff.1 ht'
    have hinv : Inv records window t' := inv_of_step ht hstep'
    refine ⟨hinv, ?_⟩
    rcases pool_step_of_step hstep' with heq | ⟨m, hpool⟩
    · rwa [heq]
    · exact hstep t.pool m t'.pool (hinv.order ▸ List.prefix_append _ _) hP hpool
  exact hboth.2

end WriteLoop

end Sync
