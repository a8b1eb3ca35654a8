import InventorySync.Sync.SyncRecords

/-!
# Every row is dispatched once and counted once

What the loop invariant of `sync_records` says about the calls it makes: rows are submitted once
and in order, the window bounds the futures that are held, the call always comes to an end, and its
counts are the outcomes that its calls returned.
-/

open Python ThreadPool

namespace Sync

/-- The sum of the four counts. -/
def Result.total (result : Result) : ℕ :=
  result .created + result .updated + result .failed + result .skipped

/-- How far a phase is from the end. -/
def Phase.rank : Phase → ℕ
  | .iterating => 3
  | .collecting => 2
  | .draining => 2
  | .closing _ => 1
  | .exited _ => 0

namespace WriteLoop

variable {ρ ℓ σ ι : Type} {W : ℕ} {window : ℤ}
  {c : Callable ρ ℓ σ ι (Except PyException Outcome)} {s s' : WriteLoop ρ ℓ σ} {lab : Label ι}
  {records : List ρ}

/-! ### The loop comes to an end -/

/-- A bound on the number of steps that are left. Submitting a row costs what its call costs, two
for the future that is then held, and one for each turn of the loop. -/
def stepsLeft (c : Callable ρ ℓ σ ι (Except PyException Outcome)) (s : WriteLoop ρ ℓ σ) : ℕ :=
  s.pool.cost c + (s.pending.map fun row => c.rank (c.entry row) + 7).sum +
    2 * s.inFlight.card + s.done.card + s.phase.rank

theorem stepsLeft_submitRow {row : ρ} {pending : List ρ} (hpending : s.pending = row :: pending)
    (hphase : 2 ≤ s.phase.rank) : (s.submitRow row pending).stepsLeft c < s.stepsLeft c := by
  have hcard := Finset.card_insert_le s.pool.calls.length s.inFlight
  have hrank : Phase.iterating.rank = 3 := rfl
  simp only [stepsLeft, submitRow, Pool.cost_submit, hpending, List.map_cons, List.sum_cons, hrank]
  omega

theorem stepsLeft_lt_of_step (h : Step W window c s lab s') : s'.stepsLeft c < s.stepsLeft c := by
  cases h with
  | dequeue hpool =>
    have := Pool.cost_lt_of_step hpool (by simp)
    simp only [stepsLeft]
    omega
  | advance hpool =>
    have := Pool.cost_lt_of_step hpool (by simp)
    simp only [stepsLeft]
    omega
  | submit hphase hpending hroom =>
    exact stepsLeft_submitRow hpending (by simp [hphase, Phase.rank])
  | submitCollected hphase hpending hdone =>
    exact stepsLeft_submitRow hpending (by simp [hphase, Phase.rank])
  | drain hphase hpending => simp [stepsLeft, hphase, Phase.rank]
  | close hphase hempty => simp [stepsLeft, hphase, Phase.rank]
  | exit hphase hfinished => simp [stepsLeft, hphase, Phase.rank]
  | wait hphase hpending hfull hsub hfinished hsome =>
    have hcard := Finset.card_sdiff_add_card_eq_card hsub
    simp only [stepsLeft, hphase, Phase.rank]
    omega
  | @collect i outcome hmem hresult =>
    -- a future leaves `done` or `inFlight`, and the phase stays
    rcases hmem with ⟨hphase, hi⟩ | ⟨hphase, hi⟩
    · have hlt := Finset.card_erase_lt_of_mem hi
      have hle : (s.inFlight.erase i).card ≤ s.inFlight.card := Finset.card_erase_le
      simp only [stepsLeft]
      omega
    · have hlt := Finset.card_erase_lt_of_mem hi
      have hle : (s.done.erase i).card ≤ s.done.card := Finset.card_erase_le
      simp only [stepsLeft]
      omega
  | raise hmem hresult =>
    rcases hmem with ⟨hphase, -⟩ | ⟨hphase, -⟩ <;> simp [stepsLeft, hphase, Phase.rank]

/-- Every schedule of a run is bounded. -/
theorem length_le_of_exec {shared : σ} {schedule : List (Label ι)}
    (h : TransitionSystem.exec (step W window c) (start records shared) schedule = some s) :
    schedule.length ≤ (start records shared : WriteLoop ρ ℓ σ).stepsLeft c := by
  have hle := TransitionSystem.exec_length_add_le (μ := stepsLeft c)
    (fun _ _ _ hstep => stepsLeft_lt_of_step (step_eq_some_iff.1 hstep)) h
  omega

/-- A worker step of the pool is a step of the loop. -/
theorem exists_step_of_worker {m : ThreadPool.Label ρ ι}
    {pool : Pool ρ ℓ σ (Except PyException Outcome)} (hpool : s.pool.step W c m = some pool)
    (hm : ∀ row, m ≠ .submit row) : ∃ lab s', s.step W window c lab = some s' := by
  cases m with
  | submit row => exact absurd rfl (hm row)
  | dequeue i => exact ⟨.dequeue i, _, Option.map_eq_some_iff.2 ⟨pool, hpool, rfl⟩⟩
  | advance i inp => exact ⟨.advance i inp, _, Option.map_eq_some_iff.2 ⟨pool, hpool, rfl⟩⟩

/-- When every call is over, the main thread can collect any future it still holds. -/
theorem exists_collect_step {i : ℕ} (hs : Inv records window s) (hall : s.pool.AllFinished)
    (hmem : s.phase = .collecting ∧ i ∈ s.done ∨ s.phase = .draining ∧ i ∈ s.inFlight) :
    ∃ lab s', s.step W window c lab = some s' := by
  have hi : i ∈ s.held := by
    rcases hmem with ⟨-, hi⟩ | ⟨-, hi⟩
    · exact Finset.mem_union_right _ hi
    · exact Finset.mem_union_left _ hi
  obtain ⟨r, hr⟩ := Pool.allFinished_iff.1 hall i (hs.held_lt i hi)
  cases r with
  | ok outcome => exact ⟨_, _, step_eq_some_iff.2 (.collect hmem hr)⟩
  | error e => exact ⟨_, _, step_eq_some_iff.2 (.raise hmem hr)⟩

/-- No run gets stuck before `sync_records` is over. -/
theorem exists_step [Nonempty ι] (hW : 0 < W) (hs : Inv records window s)
    (hphase : ∀ raised, s.phase ≠ .exited raised) : ∃ lab s', s.step W window c lab = some s' := by
  by_cases hall : s.pool.AllFinished
  -- no worker has anything to do, so the main thread must be able to go on
  · cases hcase : s.phase with
    | iterating =>
      cases hpending : s.pending with
      | nil => exact ⟨_, _, step_eq_some_iff.2 (.drain hcase hpending)⟩
      | cons row pending =>
        by_cases hroom : (s.inFlight.card : ℤ) < window
        · exact ⟨_, _, step_eq_some_iff.2 (.submit hcase hpending hroom)⟩
        -- `wait` may return everything in flight
        · have hfinished : ∀ i ∈ s.inFlight, ∃ r, s.pool.results[i]? = some (some r) :=
            fun i hi => Pool.allFinished_iff.1 hall i (hs.held_lt i (Finset.mem_union_left _ hi))
          exact ⟨_, _, step_eq_some_iff.2 (.wait hcase (by simp [hpending]) (not_lt.1 hroom)
            Finset.Subset.rfl hfinished s.inFlight.eq_empty_or_nonempty.symm)⟩
    | collecting =>
      have hpending : s.pending ≠ [] := by
        have hinv := hs.phase
        rw [hcase] at hinv
        exact hinv.1
      obtain ⟨row, pending, hpending⟩ := List.exists_cons_of_ne_nil hpending
      rcases s.done.eq_empty_or_nonempty with hdone | ⟨i, hi⟩
      · exact ⟨_, _, step_eq_some_iff.2 (.submitCollected hcase hpending hdone)⟩
      · exact exists_collect_step hs hall (.inl ⟨hcase, hi⟩)
    | draining =>
      rcases s.inFlight.eq_empty_or_nonempty with hempty | ⟨i, hi⟩
      · exact ⟨_, _, step_eq_some_iff.2 (.close hcase hempty)⟩
      · exact exists_collect_step hs hall (.inr ⟨hcase, hi⟩)
    | closing raised => exact ⟨_, _, step_eq_some_iff.2 (.exit hcase hall)⟩
    | exited raised => exact absurd hcase (hphase raised)
  -- otherwise some worker is
  · unfold Pool.AllFinished at hall
    push Not at hall
    obtain ⟨call, hcall, hunfinished⟩ := hall
    obtain ⟨i, hi, hget⟩ := List.getElem_of_mem hcall
    obtain ⟨m, pool, hm, hpool⟩ := Pool.exists_worker_step (ι := ι) (c := c) hW
      (List.getElem?_eq_some_iff.2 ⟨hi, hget⟩) (Bool.not_eq_true _ ▸ hunfinished)
    exact exists_step_of_worker hpool hm

/-! ### What holds when `sync_records` is over -/

/-- Every call is over when `sync_records` is. -/
theorem Inv.allFinished_of_exited {raised : Option PyException} (hs : Inv records window s)
    (hphase : s.phase = .exited raised) : s.pool.AllFinished := by
  have hinv := hs.phase
  rw [hphase] at hinv
  cases raised with
  | none => exact hinv.2.2
  | some e => exact hinv.2

/-- An exception leaves `sync_records` only if some call raised it. -/
theorem Inv.raised_of_exited {e : PyException} (hs : Inv records window s)
    (hphase : s.phase = .exited (some e)) : s.Raised e := by
  have hinv := hs.phase
  rw [hphase] at hinv
  exact hinv.1

/-- Nothing happens after `sync_records` is over. -/
theorem Inv.stuck_of_exited {raised : Option PyException} (hs : Inv records window s)
    (hphase : s.phase = .exited raised) : TransitionSystem.Stuck (step W window c) s := by
  have hall := hs.allFinished_of_exited hphase
  have hcall : ∀ (i : ℕ) (row : ρ) (st : CallState ℓ (Except PyException Outcome)),
      s.pool.calls[i]? = some ⟨row, st⟩ → ∃ r, st = .finished r := by
    intro i row st hget
    obtain ⟨r, hr⟩ := Call.isFinished_iff.1 (hall _ (List.mem_of_getElem? hget))
    cases st with
    | finished r => exact ⟨r, rfl⟩
    | queued => cases hr
    | running l => cases hr
  intro lab
  rw [Option.eq_none_iff_forall_ne_some]
  intro s' hs'
  -- a worker step needs an unfinished call, and every other step another phase
  cases step_eq_some_iff.1 hs' with
  | dequeue hpool =>
    cases hpool with
    | dequeue hget => obtain ⟨r, hr⟩ := hcall _ _ _ hget; cases hr
  | advance hpool =>
    cases hpool with
    | advance hget => obtain ⟨r, hr⟩ := hcall _ _ _ hget; cases hr
  | submit hphase' => cases hphase.symm.trans hphase'
  | submitCollected hphase' => cases hphase.symm.trans hphase'
  | drain hphase' => cases hphase.symm.trans hphase'
  | close hphase' => cases hphase.symm.trans hphase'
  | exit hphase' => cases hphase.symm.trans hphase'
  | wait hphase' => cases hphase.symm.trans hphase'
  | collect hmem =>
    rcases hmem with ⟨hphase', -⟩ | ⟨hphase', -⟩ <;> cases hphase.symm.trans hphase'
  | raise hmem =>
    rcases hmem with ⟨hphase', -⟩ | ⟨hphase', -⟩ <;> cases hphase.symm.trans hphase'

section Returned

variable (hs : Inv records window s) (hphase : s.phase = .exited none)

include hs hphase

/-- A `sync_records` call that returns has submitted every row. -/
theorem Inv.rows_of_returned : s.pool.rows = records := by
  have hinv := hs.phase
  rw [hphase] at hinv
  have horder := hs.order
  rwa [hinv.1, List.append_nil] at horder

theorem Inv.held_of_returned : s.held = ∅ := by
  have hinv := hs.phase
  rw [hphase] at hinv
  exact hinv.2.1

theorem Inv.length_of_returned : s.pool.calls.length = records.length := by
  simpa [Pool.rows] using congrArg List.length (hs.rows_of_returned hphase)

/-- When `sync_records` returns, every call returned an outcome. -/
theorem Inv.result_of_returned {i : ℕ} (hi : i < records.length) :
    ∃ outcome, s.pool.results[i]? = some (some (.ok outcome)) := by
  refine hs.collected i (hs.length_of_returned hphase ▸ hi) ?_
  rw [hs.held_of_returned hphase]
  exact Finset.notMem_empty i

theorem Inv.not_raised_of_returned (e : PyException) : ¬s.Raised e := by
  rintro ⟨i, hi⟩
  have hlt : i < records.length := by
    have := (List.getElem?_eq_some_iff.1 hi).1
    rwa [Pool.results, List.length_map, hs.length_of_returned hphase] at this
  obtain ⟨outcome, houtcome⟩ := hs.result_of_returned hphase hlt
  rw [houtcome] at hi
  cases hi

/-- When `sync_records` returns, each count is the number of calls that returned that outcome. -/
theorem Inv.count_of_returned (outcome : Outcome) :
    s.result outcome = s.pool.results.count (some (.ok outcome)) := by
  rw [hs.counted, hs.held_of_returned hphase, Finset.sdiff_empty, Pool.count_results]

end Returned

/-- Calls that returned an outcome, sorted by it. -/
theorem card_filter_add {calls : Finset ℕ} {f : ℕ → Option (Option (Except PyException Outcome))}
    (h : ∀ i ∈ calls, ∃ outcome, f i = some (some (.ok outcome))) :
    (calls.filter fun i => f i = some (some (.ok .created))).card +
        (calls.filter fun i => f i = some (some (.ok .updated))).card +
      (calls.filter fun i => f i = some (some (.ok .failed))).card +
      (calls.filter fun i => f i = some (some (.ok .skipped))).card = calls.card := by
  induction calls using Finset.induction_on with
  | empty => rfl
  | @insert i calls hi ih =>
    obtain ⟨outcome, houtcome⟩ := h i (Finset.mem_insert_self _ _)
    have hrest := ih fun j hj => h j (Finset.mem_insert_of_mem hj)
    simp only [Finset.filter_insert, houtcome]
    -- the new call is counted under its own outcome and under no other
    cases outcome <;> simp [hi] <;> omega

/-- At any time, the counts and the held futures make up the submitted calls. -/
theorem Inv.total_add_card_held (hs : Inv records window s) :
    s.result.total + s.held.card = s.pool.rows.length := by
  have hheld : s.held ⊆ Finset.range s.pool.calls.length :=
    fun i hi => Finset.mem_range.2 (hs.held_lt i hi)
  have htotal : s.result.total = (Finset.range s.pool.calls.length \ s.held).card := by
    rw [Result.total, hs.counted, hs.counted, hs.counted, hs.counted]
    apply card_filter_add
    intro i hi
    obtain ⟨hlt, hnotMem⟩ := Finset.mem_sdiff.1 hi
    exact hs.collected i (Finset.mem_range.1 hlt) hnotMem
  rw [htotal, Finset.card_sdiff_add_card_eq_card hheld, Finset.card_range, Pool.rows,
    List.length_map]

/-- When `sync_records` returns, its four counts add up to the number of records. -/
theorem Inv.total_of_returned (hs : Inv records window s) (hphase : s.phase = .exited none) :
    s.result.total = records.length := by
  have htotal := hs.total_add_card_held
  rwa [hs.held_of_returned hphase, hs.rows_of_returned hphase, Finset.card_empty,
    Nat.add_zero] at htotal

/-- `sync_records` submits the records once each and in order, holds at most a window of futures,
always comes to an end with every call over, raises if and only if some call did, and otherwise
counts every row under the outcome its call returned. -/
theorem dispatches_each_row_once [Nonempty ι] (maxWorkers : ℤ) (hworkers : 1 ≤ maxWorkers)
    (window : ℤ) (c : Callable ρ ℓ σ ι (Except PyException Outcome)) (records : List ρ) (shared : σ)
    (schedule : List (Label ι)) (s : WriteLoop ρ ℓ σ)
    (hrun : TransitionSystem.exec (step maxWorkers.toNat window c) (start records shared) schedule =
      some s) :
    schedule.length ≤ (start records shared : WriteLoop ρ ℓ σ).stepsLeft c ∧
      s.pool.rows <+: records ∧
      s.result.total + s.held.card = s.pool.rows.length ∧
      (s.held.card : ℤ) ≤ max 1 window ∧
      ((∀ raised, s.phase ≠ .exited raised) →
        ∃ lab s', s.step maxWorkers.toNat window c lab = some s') ∧
      ∀ raised, s.phase = .exited raised →
        s.pool.AllFinished ∧
          ((∀ e, ¬s.Raised e) →
            raised = none ∧ s.pool.rows = records ∧
              (∀ outcome, s.result outcome = s.pool.results.count (some (.ok outcome))) ∧
              s.result.total = records.length) ∧
          ((∃ e, s.Raised e) → ∃ e, raised = some e ∧ s.Raised e) := by
  have hs : Inv records window s := inv_of_reachable ⟨schedule, hrun⟩
  have hprefix : s.pool.rows <+: records := ⟨s.pending, hs.order⟩
  refine ⟨length_le_of_exec hrun, hprefix, hs.total_add_card_held, hs.card_held,
    exists_step (by omega) hs, ?_⟩
  intro raised hphase
  refine ⟨hs.allFinished_of_exited hphase, ?_, ?_⟩
  · intro hnone
    cases raised with
    | none =>
      exact ⟨rfl, hs.rows_of_returned hphase, hs.count_of_returned hphase,
        hs.total_of_returned hphase⟩
    -- what leaves the `with` block was raised by some call
    | some e => exact absurd (hs.raised_of_exited hphase) (hnone e)
  · rintro ⟨e, he⟩
    cases raised with
    -- every future was collected, and collecting this one would have raised
    | none => exact absurd he (hs.not_raised_of_returned hphase e)
    | some e' => exact ⟨e', rfl, hs.raised_of_exited hphase⟩

/-- Code whose only step finishes with the argument itself. -/
def returnArgument :
    Callable (Except PyException Outcome) Unit Unit Unit (Except PyException Outcome) where
  entry _ := ()
  step _ row _ _ _ := (.finished row, ())
  rank _ := 0
  rank_lt _ _ _ _ _ _ _ h := by cases h

/-- A run over three rows with a window of one: the second call is submitted when the first is
collected, and the third raises. -/
def windowOneSchedule : List (Label Unit) :=
  [.main, .dequeue 0, .advance 0 (), .wait {0}, .collect 0, .main, .dequeue 1, .advance 1 (),
    .wait {1}, .collect 1, .main, .main, .dequeue 2, .advance 2 (), .collect 2, .main]

theorem dispatches_each_row_once_window_one :
    ∃ s, TransitionSystem.exec (step (2 : ℤ).toNat 1 returnArgument)
        (start [.ok .created, .ok .skipped, .error ⟨.keyError, "k"⟩] ()) windowOneSchedule =
          some s ∧
      s.phase = .exited (some ⟨.keyError, "k"⟩) ∧
      s.result.total + s.held.card = s.pool.rows.length ∧ s.pool.AllFinished := by
  have h := dispatches_each_row_once 2 (by decide) 1 returnArgument
    [.ok .created, .ok .skipped, .error ⟨.keyError, "k"⟩] () windowOneSchedule _ rfl
  exact ⟨_, rfl, rfl, h.2.2.1, (h.2.2.2.2.2 _ rfl).1⟩

end WriteLoop

end Sync
