import Mathlib.Algebra.BigOperators.Group.List.Basic
import Mathlib.Algebra.GroupWithZero.Nat
import Mathlib.Data.Finset.Card
import Mathlib.Order.Interval.Finset.Nat
import InventorySync.Foundations.TransitionSystem

/-!
# A pool of workers running submitted calls

`Callable` is code that a pool runs once for each submitted argument, cut into atomic steps on a
state that all calls share. A `Pool` records every submitted call, in submission order, as queued,
running or finished. At most `W` calls run at a time; which queued call a worker takes, and which
running call steps next, is the scheduler's choice.

Main results:

* `step_eq_some_iff`: the inversion of `step`, on which every invariant is proved;
* `card_runningIds_le_of_step`: never more than `W` calls run;
* `rows_eq_of_step`, `finished_of_step`: only a submission adds a call, and a finished call keeps
  its result;
* `cost_lt_of_step`: every worker step decreases `cost`, so no call runs forever;
* `exists_worker_step`: while some call is unfinished, a worker step is enabled.
-/

namespace ThreadPool

/-- What one atomic step of a running call leads to. -/
inductive Progress (ℓ α : Type*)
  /-- The call goes on from the local state `l`. -/
  | running (l : ℓ)
  /-- The call is over, with the result `r`. -/
  | finished (r : α)

/-- Code run once for each submitted argument: `ρ` arguments, `ℓ` local states, `σ` the state
shared by all calls, `ι` what the environment answers in a step, `α` results. -/
structure Callable (ρ ℓ σ ι α : Type*) where
  /-- The local state a call starts in. -/
  entry : ρ → ℓ
  /-- One atomic step of the call with the given submission number and argument. -/
  step : ℕ → ρ → ℓ → ι → σ → Progress ℓ α × σ
  /-- A bound on the number of steps left in a local state. -/
  rank : ℓ → ℕ
  /-- A step that does not finish the call decreases the bound. -/
  rank_lt : ∀ i row l inp s l' s', step i row l inp s = (.running l', s') → rank l' < rank l

/-- The steps of one call taken without interruption, under one answer of the environment: its
result and the shared state it leaves. -/
def Callable.run {ρ ℓ σ ι α : Type*} (c : Callable ρ ℓ σ ι α) (i : ℕ) (row : ρ) (inp : ι) (l : ℓ)
    (s : σ) : α × σ :=
  match _h : c.step i row l inp s with
  | (.finished r, s') => (r, s')
  | (.running l', s') => c.run i row inp l' s'
termination_by c.rank l
decreasing_by exact c.rank_lt i row l inp s l' s' _h

theorem Callable.run_of_finished {ρ ℓ σ ι α : Type*} {c : Callable ρ ℓ σ ι α} {i : ℕ} {row : ρ}
    {inp : ι} {l : ℓ} {s s' : σ} {r : α} (h : c.step i row l inp s = (.finished r, s')) :
    c.run i row inp l s = (r, s') := by
  unfold run
  split
  next h' => simpa using h'.symm.trans h
  next h' => cases (h'.symm.trans h)

theorem Callable.run_of_running {ρ ℓ σ ι α : Type*} {c : Callable ρ ℓ σ ι α} {i : ℕ} {row : ρ}
    {inp : ι} {l l' : ℓ} {s s' : σ} (h : c.step i row l inp s = (.running l', s')) :
    c.run i row inp l s = c.run i row inp l' s' := by
  rw [run]
  split
  next h' => cases (h'.symm.trans h)
  next h' =>
    obtain ⟨hl, hs⟩ := Prod.mk.inj (h'.symm.trans h)
    obtain rfl := Progress.running.inj hl
    rw [hs]

/-- Where a submitted call stands. -/
inductive CallState (ℓ α : Type*)
  | queued
  | running (l : ℓ)
  | finished (r : α)

/-- A submitted call: its argument and where it stands. -/
structure Call (ρ ℓ α : Type*) where
  row : ρ
  state : CallState ℓ α

/-- All submitted calls, in submission order, and the state they share. -/
structure Pool (ρ ℓ σ α : Type*) where
  calls : List (Call ρ ℓ α)
  shared : σ

/-- One choice of the scheduler. -/
inductive Label (ρ ι : Type*)
  /-- A new call is submitted. -/
  | submit (row : ρ)
  /-- A free worker takes the queued call `i`. -/
  | dequeue (i : ℕ)
  /-- The running call `i` takes one step, with the environment's answer `inp`. -/
  | advance (i : ℕ) (inp : ι)

variable {ρ ℓ σ ι α : Type*}

/-- The state of a call after a step of it. -/
def Progress.toState : Progress ℓ α → CallState ℓ α
  | .running l => .running l
  | .finished r => .finished r

/-- The call is on a worker. -/
def Call.isRunning (c : Call ρ ℓ α) : Bool :=
  match c.state with
  | .running _ => true
  | _ => false

/-- The call is over. -/
def Call.isFinished (c : Call ρ ℓ α) : Bool :=
  match c.state with
  | .finished _ => true
  | _ => false

/-- The result of the call, if it is over. -/
def Call.result? (c : Call ρ ℓ α) : Option α :=
  match c.state with
  | .finished r => some r
  | _ => none

theorem Call.isFinished_iff {c : Call ρ ℓ α} : c.isFinished = true ↔ ∃ r, c.result? = some r := by
  rw [isFinished, result?]
  split <;> simp_all

namespace Pool

/-- The submission numbers of the calls that are on a worker. -/
def runningIds (p : Pool ρ ℓ σ α) : Finset ℕ :=
  (Finset.range p.calls.length).filter fun i => (p.calls[i]?).any Call.isRunning

/-- The arguments of the submitted calls, in submission order. -/
def rows (p : Pool ρ ℓ σ α) : List ρ := p.calls.map Call.row

/-- The results of the submitted calls, in submission order. -/
def results (p : Pool ρ ℓ σ α) : List (Option α) := p.calls.map Call.result?

/-- Every submitted call is over. -/
def AllFinished (p : Pool ρ ℓ σ α) : Prop := ∀ call ∈ p.calls, call.isFinished = true

/-- Queue a new call. -/
def submit (p : Pool ρ ℓ σ α) (row : ρ) : Pool ρ ℓ σ α :=
  { p with calls := p.calls ++ [⟨row, .queued⟩] }

/-- Put call `i` into the given state. -/
def setState (p : Pool ρ ℓ σ α) (i : ℕ) (row : ρ) (st : CallState ℓ α) : List (Call ρ ℓ α) :=
  p.calls.set i ⟨row, st⟩

/-- The pool of `W` workers running `c` takes the scheduler's choice. -/
def step (W : ℕ) (c : Callable ρ ℓ σ ι α) (p : Pool ρ ℓ σ α) :
    Label ρ ι → Option (Pool ρ ℓ σ α)
  | .submit row => some (p.submit row)
  | .dequeue i =>
    -- any queued call, not only the oldest: nothing below depends on the queue's order
    match p.calls[i]? with
    | some ⟨row, .queued⟩ =>
      if p.runningIds.card < W then
        some { p with calls := p.setState i row (.running (c.entry row)) }
      else none
    | _ => none
  | .advance i inp =>
    match p.calls[i]? with
    | some ⟨row, .running l⟩ =>
      let out := c.step i row l inp p.shared
      some { calls := p.setState i row out.1.toState, shared := out.2 }
    | _ => none

/-- `step` as a relation: everything a step can do, with its guards. -/
inductive Step (W : ℕ) (c : Callable ρ ℓ σ ι α) (p : Pool ρ ℓ σ α) :
    Label ρ ι → Pool ρ ℓ σ α → Prop
  | submit (row : ρ) : Step W c p (.submit row) (p.submit row)
  | dequeue {i : ℕ} {row : ρ} (hcall : p.calls[i]? = some ⟨row, .queued⟩)
      (hfree : p.runningIds.card < W) :
      Step W c p (.dequeue i) { p with calls := p.setState i row (.running (c.entry row)) }
  | advance {i : ℕ} {inp : ι} {row : ρ} {l : ℓ} {pr : Progress ℓ α} {s : σ}
      (hcall : p.calls[i]? = some ⟨row, .running l⟩)
      (hstep : c.step i row l inp p.shared = (pr, s)) :
      Step W c p (.advance i inp) { calls := p.setState i row pr.toState, shared := s }

variable {W : ℕ} {c : Callable ρ ℓ σ ι α} {p p' : Pool ρ ℓ σ α}

/-- The one place where the branches of `step` are taken apart. -/
theorem step_eq_some_iff {lab : Label ρ ι} : p.step W c lab = some p' ↔ Step W c p lab p' := by
  constructor
  · intro h
    cases lab with
    | submit row =>
      obtain rfl : p.submit row = p' := by simpa [step] using h
      exact .submit row
    | dequeue i =>
      simp only [step] at h
      split at h
      next row hcall =>
        -- a worker is free, or the step is none
        split at h
        next hfree =>
          obtain rfl := Option.some.inj h
          exact .dequeue hcall hfree
        next => cases h
      next => cases h
    | advance i inp =>
      simp only [step] at h
      split at h
      next row l hcall =>
        obtain rfl := Option.some.inj h
        exact .advance hcall rfl
      next => cases h
  · intro h
    cases h with
    | submit row => rfl
    | dequeue hcall hfree => simp only [step, hcall, hfree, ↓reduceIte]
    | advance hcall hstep => simp only [step, hcall, hstep]

theorem mem_runningIds {i : ℕ} :
    i ∈ p.runningIds ↔ ∃ row l, p.calls[i]? = some ⟨row, .running l⟩ := by
  rw [runningIds, Finset.mem_filter, Finset.mem_range]
  constructor
  · rintro ⟨hi, hrun⟩
    obtain ⟨⟨row, st⟩, hcall⟩ : ∃ call, p.calls[i]? = some call :=
      ⟨_, List.getElem?_eq_getElem hi⟩
    cases st with
    | running l => exact ⟨row, l, hcall⟩
    | queued => simp [hcall, Call.isRunning] at hrun
    | finished r => simp [hcall, Call.isRunning] at hrun
  · rintro ⟨row, l, hcall⟩
    exact ⟨(List.getElem?_eq_some_iff.1 hcall).1, by simp [hcall, Call.isRunning]⟩

theorem getElem?_submit {row : ρ} {i : ℕ} (call : Call ρ ℓ α) :
    (p.submit row).calls[i]? = some call ↔
      p.calls[i]? = some call ∨ (i = p.calls.length ∧ call = ⟨row, .queued⟩) := by
  rw [submit, List.getElem?_append]
  split
  -- an old call
  next hi => simp [Nat.ne_of_lt hi]
  -- the new call is the last one, and nothing is behind it
  next hi =>
    have hnone : p.calls[i]? = none := List.getElem?_eq_none (Nat.le_of_not_lt hi)
    rcases Nat.eq_or_lt_of_le (Nat.le_of_not_lt hi) with rfl | hlt
    · simp [eq_comm]
    · have hne : i ≠ p.calls.length := Nat.ne_of_gt hlt
      have hsub : i - p.calls.length ≠ 0 := Nat.sub_ne_zero_of_lt hlt
      simp [hne, hnone, hsub]

/-- Setting the state of call `i` changes call `i` only. -/
theorem getElem?_setState {i j : ℕ} {row : ρ} {st st' : CallState ℓ α}
    (hcall : p.calls[i]? = some ⟨row, st'⟩) (call : Call ρ ℓ α) :
    (p.setState i row st)[j]? = some call ↔
      (j = i ∧ call = ⟨row, st⟩) ∨ (j ≠ i ∧ p.calls[j]? = some call) := by
  have hi : i < p.calls.length := (List.getElem?_eq_some_iff.1 hcall).1
  rw [setState, List.getElem?_set]
  by_cases hij : i = j
  · subst hij
    simp [hi, eq_comm]
  · simp [hij, Ne.symm hij]

/-- The arguments of the calls do not depend on where the calls stand. -/
theorem map_row_setState {i : ℕ} {row : ρ} {st st' : CallState ℓ α}
    (hcall : p.calls[i]? = some ⟨row, st'⟩) : (p.setState i row st).map Call.row = p.rows := by
  apply List.ext_getElem?
  intro j
  rw [setState, List.map_set, List.getElem?_set, rows]
  by_cases hij : i = j
  · subst hij
    obtain ⟨hi, hget⟩ := List.getElem?_eq_some_iff.1 hcall
    simp [hi, hget]
  · simp [hij]

theorem rows_submit (row : ρ) : (p.submit row).rows = p.rows ++ [row] := by
  simp [rows, submit]

theorem results_submit (row : ρ) : (p.submit row).results = p.results ++ [none] := by
  simp [results, submit, Call.result?]

/-- A new call has no result. -/
theorem results_submit_getElem? (row : ρ) (i : ℕ) (r : α) :
    (p.submit row).results[i]? = some (some r) ↔ p.results[i]? = some (some r) := by
  rw [results_submit, List.getElem?_append]
  split
  next => rfl
  next hi =>
    rw [List.getElem?_singleton, List.getElem?_eq_none (Nat.le_of_not_lt hi)]
    split <;> simp

/-- Only a submission adds a call. -/
theorem rows_eq_of_step {lab : Label ρ ι} (h : Step W c p lab p')
    (hlab : ∀ row, lab ≠ .submit row) : p'.rows = p.rows := by
  cases h with
  | submit row => exact absurd rfl (hlab row)
  | dequeue hcall hfree => exact map_row_setState hcall
  | advance hcall hstep => exact map_row_setState hcall

/-- A finished call keeps its result. -/
theorem finished_of_step {lab : Label ρ ι} (h : Step W c p lab p') {i : ℕ} {row : ρ} {r : α}
    (hi : p.calls[i]? = some ⟨row, .finished r⟩) : p'.calls[i]? = some ⟨row, .finished r⟩ := by
  cases h with
  | submit row' => exact (getElem?_submit _).2 (.inl hi)
  | @dequeue j row' hcall hfree =>
    refine (getElem?_setState hcall _).2 (.inr ⟨?_, hi⟩)
    rintro rfl
    simp [hi] at hcall
  | @advance j inp row' l pr s hcall hstep =>
    refine (getElem?_setState hcall _).2 (.inr ⟨?_, hi⟩)
    rintro rfl
    simp [hi] at hcall

theorem results_getElem?_eq_some {i : ℕ} {r : α} :
    p.results[i]? = some (some r) ↔ ∃ row, p.calls[i]? = some ⟨row, .finished r⟩ := by
  rw [results, List.getElem?_map]
  constructor
  · intro h
    obtain ⟨⟨row, st⟩, hcall, hr⟩ := Option.map_eq_some_iff.1 h
    -- only a call that is over has a result
    cases st with
    | queued => cases hr
    | running l => cases hr
    | finished r' =>
      obtain rfl : r' = r := Option.some.inj hr
      exact ⟨row, hcall⟩
  · rintro ⟨row, hcall⟩
    rw [hcall]
    rfl

/-- A call that is over keeps its result. -/
theorem results_of_step {lab : Label ρ ι} (h : Step W c p lab p') {i : ℕ} {r : α}
    (hi : p.results[i]? = some (some r)) : p'.results[i]? = some (some r) := by
  obtain ⟨row, hcall⟩ := results_getElem?_eq_some.1 hi
  exact results_getElem?_eq_some.2 ⟨row, finished_of_step h hcall⟩

theorem length_eq_of_step {lab : Label ρ ι} (h : Step W c p lab p')
    (hlab : ∀ row, lab ≠ .submit row) : p'.calls.length = p.calls.length := by
  simpa [rows] using congrArg List.length (rows_eq_of_step h hlab)

theorem allFinished_iff :
    p.AllFinished ↔ ∀ i < p.calls.length, ∃ r, p.results[i]? = some (some r) := by
  have hget : ∀ i (hi : i < p.calls.length), p.results[i]? = some (p.calls[i].result?) := by
    intro i hi
    rw [results, List.getElem?_map, List.getElem?_eq_getElem hi]
    rfl
  constructor
  · intro h i hi
    obtain ⟨r, hr⟩ := Call.isFinished_iff.1 (h _ (List.getElem_mem hi))
    exact ⟨r, by rw [hget i hi, hr]⟩
  · intro h call hcall
    obtain ⟨i, hi, rfl⟩ := List.getElem_of_mem hcall
    obtain ⟨r, hr⟩ := h i hi
    exact Call.isFinished_iff.2 ⟨r, Option.some.inj ((hget i hi).symm.trans hr)⟩

theorem allFinished_of_step {lab : Label ρ ι} (h : Step W c p lab p')
    (hlab : ∀ row, lab ≠ .submit row) (hp : p.AllFinished) : p'.AllFinished := by
  rw [allFinished_iff, length_eq_of_step h hlab]
  exact fun i hi => (allFinished_iff.1 hp i hi).imp fun r => results_of_step h

/-- The number of calls with a given result, counted by submission number. -/
theorem count_results [DecidableEq α] (r : α) :
    p.results.count (some r) =
      ((Finset.range p.calls.length).filter fun i => p.results[i]? = some (some r)).card := by
  have hlen : p.calls.length = p.results.length := (List.length_map _).symm
  rw [hlen]
  -- from the back, so that the earlier submission numbers stay what they are
  induction p.results using List.reverseRecOn with
  | nil => rfl
  | append_singleton l x ih =>
    rw [List.count_append, ih, List.length_append, List.length_singleton, Finset.range_add_one,
      Finset.filter_insert]
    have hcongr : ((Finset.range l.length).filter fun i => (l ++ [x])[i]? = some (some r)) =
        (Finset.range l.length).filter fun i => l[i]? = some (some r) := by
      apply Finset.filter_congr
      intro i hi
      rw [List.getElem?_append_left (Finset.mem_range.1 hi)]
    rw [hcongr, List.getElem?_concat_length]
    by_cases hx : x = some r
    · rw [if_pos (congrArg some hx), Finset.card_insert_of_notMem (by simp), hx,
        List.count_singleton_self]
    · have hne : some x ≠ some (some r) := fun heq => hx (Option.some.inj heq)
      rw [if_neg hne, List.count_singleton, beq_eq_false_iff_ne.2 hx, if_neg Bool.false_ne_true,
        Nat.add_zero]

/-! ### At most `W` calls run -/

theorem runningIds_submit (row : ρ) : (p.submit row).runningIds = p.runningIds := by
  ext i
  rw [mem_runningIds, mem_runningIds]
  constructor
  · rintro ⟨row', l, hcall⟩
    rcases (getElem?_submit _).1 hcall with hold | ⟨-, hnew⟩
    · exact ⟨row', l, hold⟩
    · cases hnew
  · rintro ⟨row', l, hcall⟩
    exact ⟨row', l, (getElem?_submit _).2 (.inl hcall)⟩

/-- Only call `i` can start or stop running when the state of call `i` is set. -/
theorem runningIds_setState_subset {i : ℕ} {row : ρ} {st st' : CallState ℓ α} {s : σ}
    (hcall : p.calls[i]? = some ⟨row, st'⟩) :
    (Pool.mk (p.setState i row st) s).runningIds ⊆ insert i p.runningIds := by
  intro j hj
  obtain ⟨row', l, hj⟩ := mem_runningIds.1 hj
  rw [Finset.mem_insert]
  rcases (getElem?_setState hcall _).1 hj with ⟨hji, -⟩ | ⟨-, hold⟩
  · exact .inl hji
  · exact .inr (mem_runningIds.2 ⟨row', l, hold⟩)

theorem card_runningIds_le_of_step {lab : Label ρ ι} (h : Step W c p lab p')
    (hp : p.runningIds.card ≤ W) : p'.runningIds.card ≤ W := by
  cases h with
  | submit row => rwa [runningIds_submit]
  | dequeue hcall hfree =>
    -- the guard left room for one more
    calc
      _ ≤ (insert _ p.runningIds).card := Finset.card_le_card (runningIds_setState_subset hcall)
      _ ≤ p.runningIds.card + 1 := Finset.card_insert_le _ _
      _ ≤ W := hfree
  | advance hcall hstep =>
    -- the stepping call was running before
    refine (Finset.card_le_card (runningIds_setState_subset hcall)).trans ?_
    rwa [Finset.insert_eq_of_mem (mem_runningIds.2 ⟨_, _, hcall⟩)]

/-! ### Worker steps cannot go on forever, nor get stuck -/

/-- A bound on the number of worker steps that a call in the given state still takes. -/
def callCost (c : Callable ρ ℓ σ ι α) (call : Call ρ ℓ α) : ℕ :=
  match call.state with
  | .queued => c.rank (c.entry call.row) + 2
  | .running l => c.rank l + 1
  | .finished _ => 0

/-- A bound on the number of worker steps that the submitted calls still take. -/
def cost (c : Callable ρ ℓ σ ι α) (p : Pool ρ ℓ σ α) : ℕ := (p.calls.map (callCost c)).sum

theorem cost_submit (row : ρ) : (p.submit row).cost c = p.cost c + (c.rank (c.entry row) + 2) := by
  simp [cost, submit, callCost]

theorem sum_map_set {β : Type*} (f : β → ℕ) {l : List β} {i : ℕ} {a : β} (h : l[i]? = some a)
    (b : β) : ((l.set i b).map f).sum + f a = (l.map f).sum + f b := by
  induction l generalizing i with
  | nil => simp at h
  | cons x l ih =>
    cases i with
    | zero =>
      obtain rfl : x = a := by simpa using h
      simp only [List.set_cons_zero, List.map_cons, List.sum_cons]
      omega
    | succ i =>
      have hrest := ih (i := i) (by simpa using h)
      simp only [List.set_cons_succ, List.map_cons, List.sum_cons]
      omega

/-- Every worker step decreases the cost. -/
theorem cost_lt_of_step {lab : Label ρ ι} (h : Step W c p lab p')
    (hlab : ∀ row, lab ≠ .submit row) : p'.cost c < p.cost c := by
  cases h with
  | submit row => exact absurd rfl (hlab row)
  | @dequeue i row hcall hfree =>
    -- a queued call costs one more than the same call at its entry
    have hsum := sum_map_set (callCost c) hcall ⟨row, .running (c.entry row)⟩
    simp only [callCost] at hsum
    simp only [cost, setState]
    omega
  | @advance i inp row l pr s hcall hstep =>
    have hsum := sum_map_set (callCost c) hcall ⟨row, pr.toState⟩
    cases pr with
    | running l' =>
      have hrank := c.rank_lt i row l inp p.shared l' s hstep
      simp only [callCost, Progress.toState] at hsum
      simp only [cost, setState, Progress.toState]
      omega
    | finished r =>
      simp only [callCost, Progress.toState] at hsum
      simp only [cost, setState, Progress.toState]
      omega

/-- While some submitted call is unfinished, a worker can take a step. -/
theorem exists_worker_step [Nonempty ι] (hW : 0 < W) {i : ℕ} {call : Call ρ ℓ α}
    (hcall : p.calls[i]? = some call) (hunfinished : call.isFinished = false) :
    ∃ lab p', (∀ row, lab ≠ .submit row) ∧ p.step W c lab = some p' := by
  obtain ⟨inp⟩ := ‹Nonempty ι›
  -- a worker is free for the unfinished call, or some running call steps
  by_cases hrun : p.runningIds = ∅
  · obtain ⟨row, st⟩ := call
    cases st with
    | queued =>
      have hfree : p.runningIds.card < W := by simpa [hrun] using hW
      exact ⟨.dequeue i, _, by simp, step_eq_some_iff.2 (.dequeue hcall hfree)⟩
    | running l =>
      have hmem : i ∈ p.runningIds := mem_runningIds.2 ⟨row, l, hcall⟩
      simp [hrun] at hmem
    | finished r => simp [Call.isFinished] at hunfinished
  · obtain ⟨j, hj⟩ := Finset.nonempty_of_ne_empty hrun
    obtain ⟨row, l, hj⟩ := mem_runningIds.1 hj
    exact ⟨.advance j inp, _, by simp, step_eq_some_iff.2 (.advance hj rfl)⟩

end Pool

end ThreadPool
