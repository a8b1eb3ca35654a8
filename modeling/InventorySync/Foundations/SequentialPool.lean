import InventorySync.Foundations.ThreadPool

/-!
# A pool with one worker

One worker that takes the calls in the order of their submission finishes each before it takes the
next. So however the submissions fall between its steps, its results and the shared state are those
of running the calls one after the other, which is `Callable.runAll`.

* `InSequence`, `inSequence_of_step`: what such a pool looks like after any number of steps;
* `InSequence.runAll_rows`: what it has computed when every call is over.
-/

namespace ThreadPool

variable {ρ ℓ σ α : Type*}

/-- The calls for a list of arguments, run one after the other with submission numbers from `i` on:
their results and the shared state they leave. -/
def Callable.runAll (c : Callable ρ ℓ σ Unit α) : ℕ → List ρ → σ → List α × σ
  | _, [], s => ([], s)
  | i, row :: rows, s =>
    let out := c.run i row () (c.entry row) s
    let rest := c.runAll (i + 1) rows out.2
    (out.1 :: rest.1, rest.2)

/-- One more call runs in the state that the calls before it leave. -/
theorem Callable.runAll_concat (c : Callable ρ ℓ σ Unit α) (i : ℕ) (rows : List ρ) (row : ρ)
    (s : σ) :
    c.runAll i (rows ++ [row]) s =
      ((c.runAll i rows s).1 ++
          [(c.run (i + rows.length) row () (c.entry row) (c.runAll i rows s).2).1],
        (c.run (i + rows.length) row () (c.entry row) (c.runAll i rows s).2).2) := by
  induction rows generalizing i s with
  | nil => rfl
  | cons first rows ih =>
    -- the rest of the list is numbered from `i + 1`, so the last call keeps its number
    have hnumber : i + 1 + rows.length = i + (first :: rows).length := by
      rw [List.length_cons]
      omega
    rw [List.cons_append, runAll, ih, hnumber]
    rfl

/-- The call waits for a worker. -/
def Call.isQueued (call : Call ρ ℓ α) : Bool :=
  match call.state with
  | .queued => true
  | _ => false

/-- A call that returned. -/
def Call.over (run : ρ × α) : Call ρ ℓ α := ⟨run.1, .finished run.2⟩

/-- A call that waits for a worker. -/
def Call.waiting (row : ρ) : Call ρ ℓ α := ⟨row, .queued⟩

namespace Pool

/-- A worker takes a call only if no call submitted before it is waiting. -/
def inOrder {ι : Type*} (p : Pool ρ ℓ σ α) : Label ρ ι → Bool
  | .dequeue i => (p.calls.take i).all fun call => !call.isQueued
  | _ => true

/-- The calls so far have run one after the other from the state `start`: the pool is between two
calls, or in the middle of one. -/
inductive InSequence (c : Callable ρ ℓ σ Unit α) (start : σ) (p : Pool ρ ℓ σ α) : Prop
  | idle {ran : List (ρ × α)} {queue : List ρ}
      (hcalls : p.calls = ran.map Call.over ++ queue.map Call.waiting)
      (hran : c.runAll 0 (ran.map Prod.fst) start = (ran.map Prod.snd, p.shared))
  | busy {ran : List (ρ × α)} {row : ρ} {l : ℓ} {queue : List ρ} {s : σ}
      (hcalls : p.calls = ran.map Call.over ++ ⟨row, .running l⟩ :: queue.map Call.waiting)
      (hran : c.runAll 0 (ran.map Prod.fst) start = (ran.map Prod.snd, s))
      (hrun : c.run ran.length row () (c.entry row) s = c.run ran.length row () l p.shared)

section Calls

variable {ran : List (ρ × α)} {mid : Call ρ ℓ α} {queue : List ρ}

/-- A call that is over stands before the middle one, and a waiting call behind it. -/
theorem getElem?_calls {i : ℕ} {call : Call ρ ℓ α}
    (h : (ran.map Call.over ++ mid :: queue.map Call.waiting)[i]? = some call) :
    (∃ r, call.state = .finished r) ∨ (i = ran.length ∧ call = mid) ∨
      (ran.length < i ∧ call.state = .queued) := by
  rcases Nat.lt_trichotomy i ran.length with hlt | rfl | hgt
  · left
    rw [List.getElem?_append_left (by simpa using hlt)] at h
    obtain ⟨run, -, rfl⟩ := List.mem_map.1 (List.mem_of_getElem? h)
    exact ⟨run.2, rfl⟩
  · -- at the position itself stands the middle call
    right; left
    refine ⟨rfl, ?_⟩
    rw [List.getElem?_append_right (by simp)] at h
    simpa [eq_comm] using h
  · right; right
    refine ⟨hgt, ?_⟩
    obtain ⟨k, hk⟩ := Nat.exists_eq_add_of_lt hgt
    have hindex : i - (ran.map (Call.over (ℓ := ℓ))).length = k + 1 := by
      rw [List.length_map]
      omega
    rw [List.getElem?_append_right (by rw [List.length_map]; omega), hindex,
      List.getElem?_cons_succ] at h
    obtain ⟨row, -, rfl⟩ := List.mem_map.1 (List.mem_of_getElem? h)
    rfl

theorem getElem?_mid :
    (ran.map Call.over ++ mid :: queue.map Call.waiting)[ran.length]? = some mid := by
  rw [List.getElem?_append_right (by simp)]
  simp

/-- Only the middle call changes when its state is set. -/
theorem set_calls (call : Call ρ ℓ α) :
    (ran.map Call.over ++ mid :: queue.map Call.waiting).set ran.length call =
      ran.map Call.over ++ call :: queue.map Call.waiting := by
  rw [List.set_append_right _ _ (by simp)]
  simp

end Calls

variable {c : Callable ρ ℓ σ Unit α} {start : σ} {p p' : Pool ρ ℓ σ α}

theorem inSequence_start : InSequence c start ⟨[], start⟩ := by
  have hcalls : ([] : List (Call ρ ℓ α)) = ([] : List (ρ × α)).map Call.over ++
      ([] : List ρ).map Call.waiting := rfl
  exact .idle hcalls rfl

/-- A queued call that a worker may take is the first that waits. -/
theorem eq_of_inOrder {ran : List (ρ × α)} {queue : List ρ} {i : ℕ} {row : ρ}
    (hcalls : p.calls = ran.map Call.over ++ queue.map Call.waiting)
    (hcall : p.calls[i]? = some ⟨row, .queued⟩)
    (horder : p.inOrder (.dequeue i : Label ρ Unit) = true) :
    i = ran.length ∧ ∃ rest, queue = row :: rest := by
  cases queue with
  | nil =>
    -- nothing waits, so call `i` is over
    rw [hcalls, List.map_nil, List.append_nil] at hcall
    obtain ⟨run, -, hrun⟩ := List.mem_map.1 (List.mem_of_getElem? hcall)
    cases hrun
  | cons first queue =>
    rw [hcalls, List.map_cons] at hcall
    rcases getElem?_calls hcall with ⟨r, hr⟩ | ⟨rfl, hmid⟩ | ⟨hgt, -⟩
    · cases hr
    · cases hmid
      exact ⟨rfl, queue, rfl⟩
    · -- the first waiting call stands before call `i`
      have hfirst : p.calls[ran.length]? = some (Call.waiting first) := by
        rw [hcalls, List.map_cons, getElem?_mid]
      have hmem : Call.waiting first ∈ p.calls.take i :=
        List.mem_of_getElem? ((List.getElem?_take_of_lt hgt).trans hfirst)
      have hnot := List.all_eq_true.1 horder _ hmem
      simp [Call.isQueued, Call.waiting] at hnot

/-- A new call waits behind the others. -/
theorem inSequence_submit (hp : InSequence c start p) (row : ρ) :
    InSequence c start (p.submit row) := by
  cases hp with
  | @idle ran queue hcalls hran =>
    have hcalls' : (p.submit row).calls =
        ran.map Call.over ++ (queue ++ [row]).map Call.waiting := by
      rw [submit, hcalls, List.map_append, List.append_assoc]
      rfl
    exact .idle hcalls' hran
  | @busy ran row' l queue s hcalls hran hrun =>
    have hcalls' : (p.submit row).calls =
        ran.map Call.over ++ ⟨row', .running l⟩ :: (queue ++ [row]).map Call.waiting := by
      rw [submit, hcalls, List.map_append, List.append_assoc]
      rfl
    exact .busy hcalls' hran hrun

/-- Between two calls, the worker takes the first that waits. -/
theorem inSequence_dequeue {i : ℕ} {row : ρ} (hp : InSequence c start p)
    (horder : p.inOrder (.dequeue i : Label ρ Unit) = true)
    (hcall : p.calls[i]? = some ⟨row, .queued⟩) (hfree : p.runningIds.card < 1) :
    InSequence c start { p with calls := p.setState i row (.running (c.entry row)) } := by
  cases hp with
  | @idle ran queue hcalls hran =>
    -- what is left of the call is all of it, so its run is the whole run
    obtain ⟨rfl, rest, rfl⟩ := eq_of_inOrder hcalls hcall horder
    have hcalls' : p.setState ran.length row (.running (c.entry row)) =
        ran.map Call.over ++ ⟨row, .running (c.entry row)⟩ :: rest.map Call.waiting := by
      rw [setState, hcalls, List.map_cons, set_calls]
    exact .busy hcalls' hran rfl
  | @busy ran row' l queue s hcalls hran hrun =>
    -- the only worker is taken
    have hmem : ran.length ∈ p.runningIds :=
      mem_runningIds.2 ⟨row', l, by rw [hcalls, getElem?_mid]⟩
    rw [Nat.lt_one_iff, Finset.card_eq_zero] at hfree
    simp [hfree] at hmem

/-- The call in the middle goes on, or it is over and the pool is between two calls. -/
theorem inSequence_advance {i : ℕ} {row : ρ} {l : ℓ} {pr : Progress ℓ α} {s : σ}
    (hp : InSequence c start p) (hcall : p.calls[i]? = some ⟨row, .running l⟩)
    (hstep : c.step i row l () p.shared = (pr, s)) :
    InSequence c start { calls := p.setState i row pr.toState, shared := s } := by
  cases hp with
  | @idle ran queue hcalls hran =>
    -- no call is running: those in front are over, the others wait
    rw [hcalls] at hcall
    rcases List.mem_append.1 (List.mem_of_getElem? hcall) with hmem | hmem
    · obtain ⟨run, -, hrun⟩ := List.mem_map.1 hmem
      cases hrun
    · obtain ⟨row', -, hrow⟩ := List.mem_map.1 hmem
      cases hrow
  | @busy ran row' l' queue s' hcalls hran hrun =>
    -- the only running call is the middle one
    have hmid : i = ran.length ∧ row = row' ∧ l = l' := by
      rw [hcalls] at hcall
      rcases getElem?_calls hcall with ⟨r, hr⟩ | ⟨hi, hmid⟩ | ⟨-, hqueued⟩
      · cases hr
      · cases hmid
        exact ⟨hi, rfl, rfl⟩
      · cases hqueued
    obtain ⟨rfl, rfl, rfl⟩ := hmid
    cases pr with
    | running l'' =>
      have hcalls' : p.setState ran.length row (Progress.running l'').toState =
          ran.map Call.over ++ ⟨row, .running l''⟩ :: queue.map Call.waiting := by
        rw [setState, hcalls, set_calls]
        rfl
      -- the step left is one less, and what the whole call computes stays the same
      exact .busy hcalls' hran (hrun.trans (Callable.run_of_running hstep))
    | finished r =>
      -- the call is over, and its run was that of the step just taken
      have hresult : c.run ran.length row () (c.entry row) s' = (r, s) :=
        hrun.trans (Callable.run_of_finished hstep)
      have hcalls' : p.setState ran.length row (Progress.finished r).toState =
          (ran ++ [(row, r)]).map Call.over ++ queue.map Call.waiting := by
        rw [setState, hcalls, set_calls, List.map_append, List.append_assoc]
        rfl
      have hran' : c.runAll 0 ((ran ++ [(row, r)]).map Prod.fst) start =
          ((ran ++ [(row, r)]).map Prod.snd, s) := by
        rw [List.map_append, List.map_append]
        change c.runAll 0 (ran.map Prod.fst ++ [row]) start = (ran.map Prod.snd ++ [r], s)
        rw [Callable.runAll_concat, hran, List.length_map, Nat.zero_add, hresult]
      exact .idle hcalls' hran'

/-- A worker that takes the calls in order keeps them in sequence. -/
theorem inSequence_of_step {lab : Label ρ Unit} (hp : InSequence c start p)
    (horder : p.inOrder lab = true) (h : Step 1 c p lab p') : InSequence c start p' := by
  cases h with
  | submit row => exact inSequence_submit hp row
  | dequeue hcall hfree => exact inSequence_dequeue hp horder hcall hfree
  | advance hcall hstep => exact inSequence_advance hp hcall hstep

/-- When every call is over, they have run one after the other. -/
theorem InSequence.runAll_rows (hp : InSequence c start p) (hall : p.AllFinished) :
    ∃ rs, c.runAll 0 p.rows start = (rs, p.shared) ∧ p.results = rs.map some := by
  cases hp with
  | @idle ran queue hcalls hran =>
    cases queue with
    | nil =>
      rw [List.map_nil, List.append_nil] at hcalls
      refine ⟨ran.map Prod.snd, ?_, ?_⟩
      · rw [rows, hcalls, List.map_map]
        exact hran
      · rw [results, hcalls, List.map_map, List.map_map]
        rfl
    | cons row queue =>
      -- a call that waits is not over
      have hwaiting := hall (Call.waiting row) (by simp [hcalls])
      cases hwaiting
  | @busy ran row l queue s hcalls hran hrun =>
    have hrunning := hall ⟨row, .running l⟩ (by simp [hcalls])
    cases hrunning

end Pool

end ThreadPool
