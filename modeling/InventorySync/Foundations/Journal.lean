import InventorySync.Foundations.ThreadPool

/-!
# Calls that keep a journal

The steps of a pool's calls may write lines to a journal that all calls share, each line under the
number of the call that wrote it. Nothing reads the journal: leaving it out of a pool gives the pool
of the code without it (`map_eraseJournal_step`).

* `Journaled.of_step`: what each step keeps of where its call stands and the lines that the call
  wrote holds of every call of a pool;
* `OneLineEach`: which calls wrote the lines of a kind, and how many there are.
-/

namespace ThreadPool

variable {ρ ℓ σ ι α κ : Type*}

/-- The code, with a journal for the lines that its steps write. -/
def Callable.journaling (c : Callable ρ ℓ σ ι α) (writes : ℕ → ρ → ℓ → ι → σ → List κ) :
    Callable ρ ℓ (σ × List (ℕ × κ)) ι α where
  entry := c.entry
  step i row l inp s :=
    let out := c.step i row l inp s.1
    (out.1, out.2, s.2 ++ (writes i row l inp s.1).map fun line => (i, line))
  rank := c.rank
  rank_lt := by
    intro i row l inp s l' s' h
    obtain ⟨hrunning, -⟩ := Prod.mk.inj h
    exact c.rank_lt i row l inp s.1 l' _ (Prod.ext hrunning rfl)

/-- The lines that a call wrote, in order. -/
def linesOf (i : ℕ) (journal : List (ℕ × κ)) : List κ :=
  (journal.filter fun entry => entry.1 == i).map Prod.snd

theorem mem_linesOf {i : ℕ} {line : κ} {journal : List (ℕ × κ)} :
    line ∈ linesOf i journal ↔ (i, line) ∈ journal := by
  simp [linesOf]

/-- New lines of one call are no lines of another. -/
theorem linesOf_append (i j : ℕ) (journal : List (ℕ × κ)) (lines : List κ) :
    linesOf i (journal ++ lines.map fun line => (j, line)) =
      linesOf i journal ++ if i = j then lines else [] := by
  rw [linesOf, List.filter_append, List.map_append, linesOf]
  congr 1
  split
  next h =>
    subst h
    induction lines with
    | nil => rfl
    | cons line lines ih => simpa using ih
  next h =>
    have hnone : ∀ entry ∈ lines.map fun line => (j, line), ¬(entry.1 == i) = true := by
      intro entry hentry
      obtain ⟨line, -, rfl⟩ := List.mem_map.1 hentry
      simpa using Ne.symm h
    rw [List.filter_eq_nil_iff.2 hnone, List.map_nil]

/-! ### Lines of a kind -/

/-- The numbers of the calls that wrote the lines of a kind, one for each line. -/
def callersOf (kind : κ → Bool) (journal : List (ℕ × κ)) : List ℕ :=
  (journal.filter fun entry => kind entry.2).map Prod.fst

theorem callersOf_cons (kind : κ → Bool) (entry : ℕ × κ) (journal : List (ℕ × κ)) :
    callersOf kind (entry :: journal) =
      if kind entry.2 then entry.1 :: callersOf kind journal else callersOf kind journal := by
  rw [callersOf, List.filter_cons]
  split <;> rfl

theorem count_callersOf (kind : κ → Bool) (journal : List (ℕ × κ)) (i : ℕ) :
    (callersOf kind journal).count i = (linesOf i journal).countP kind := by
  induction journal with
  | nil => rfl
  | cons entry journal ih =>
    rw [callersOf, linesOf, List.filter_cons, List.filter_cons]
    rw [callersOf, linesOf] at ih
    -- the entry counts on both sides if it is of the kind and of the call
    cases hkind : kind entry.2 <;> by_cases hi : entry.1 = i <;> simp [hkind, hi, ih]

namespace Pool

/-- The pool without its journal. -/
def eraseJournal {κ : Type*} (p : Pool ρ ℓ (σ × κ) α) : Pool ρ ℓ σ α := ⟨p.calls, p.shared.1⟩

section Journal

variable {W : ℕ} {c : Callable ρ ℓ σ ι α} {writes : ℕ → ρ → ℓ → ι → σ → List κ}
  {p p' : Pool ρ ℓ (σ × List (ℕ × κ)) α} {lab : Label ρ ι}

/-- No step looks at the journal. -/
theorem map_eraseJournal_step (p : Pool ρ ℓ (σ × List (ℕ × κ)) α) (lab : Label ρ ι) :
    (p.step W (c.journaling writes) lab).map eraseJournal = p.eraseJournal.step W c lab := by
  cases lab with
  | submit row => rfl
  | dequeue i =>
    have hcalls : p.eraseJournal.calls = p.calls := rfl
    have hids : p.eraseJournal.runningIds = p.runningIds := rfl
    simp only [step, hcalls, hids]
    cases p.calls[i]? with
    | none => rfl
    | some call =>
      obtain ⟨row, st⟩ := call
      cases st with
      | queued =>
        by_cases hfree : p.runningIds.card < W
        · simp only [hfree, if_true]
          rfl
        · simp only [hfree, if_false]
          rfl
      | running l => rfl
      | finished r => rfl
  | advance i inp =>
    have hcalls : p.eraseJournal.calls = p.calls := rfl
    simp only [step, hcalls]
    cases p.calls[i]? with
    | none => rfl
    | some call =>
      obtain ⟨row, st⟩ := call
      cases st <;> rfl

/-- A relation between where a call stands and the lines it wrote that every step keeps. -/
structure KeepsJournal (c : Callable ρ ℓ σ ι α) (writes : ℕ → ρ → ℓ → ι → σ → List κ)
    (J : ℕ → ρ → CallState ℓ α → List κ → Prop) : Prop where
  queued : ∀ i row, J i row .queued []
  entered : ∀ i row lines, J i row .queued lines → J i row (.running (c.entry row)) lines
  step : ∀ i row l inp s pr s' lines, c.step i row l inp s = (pr, s') →
    J i row (.running l) lines → J i row pr.toState (lines ++ writes i row l inp s)

/-- It holds of every call, and every line is of some call. -/
structure Journaled (J : ℕ → ρ → CallState ℓ α → List κ → Prop)
    (p : Pool ρ ℓ (σ × List (ℕ × κ)) α) : Prop where
  lines : ∀ i row st, p.calls[i]? = some ⟨row, st⟩ → J i row st (linesOf i p.shared.2)
  id_lt : ∀ entry ∈ p.shared.2, entry.1 < p.calls.length

variable {J : ℕ → ρ → CallState ℓ α → List κ → Prop}

theorem journaled_start (s : σ) : Journaled J (Pool.mk [] (s, [])) := ⟨by simp, by simp⟩

/-- A call that is yet to be submitted has written no lines. -/
theorem Journaled.linesOf_eq_nil (hp : Journaled J p) {i : ℕ} (hi : p.calls.length ≤ i) :
    linesOf i p.shared.2 = [] := by
  rw [List.eq_nil_iff_forall_not_mem]
  intro line hline
  exact absurd (hp.id_lt _ (mem_linesOf.1 hline)) (Nat.not_lt.2 hi)

theorem Journaled.of_step (hJ : KeepsJournal c writes J) (hp : Journaled J p)
    (h : Step W (c.journaling writes) p lab p') : Journaled J p' := by
  cases h with
  | submit row =>
    have hlength : (p.submit row).calls.length = p.calls.length + 1 := by simp [submit]
    refine ⟨?_, fun entry hentry => hlength ▸ Nat.lt_succ_of_lt (hp.id_lt entry hentry)⟩
    intro i row' st hcall
    rcases (getElem?_submit _).1 hcall with hold | ⟨rfl, hnew⟩
    · exact hp.lines i row' st hold
    · cases hnew
      have hnone := hp.linesOf_eq_nil le_rfl
      exact hnone.symm ▸ hJ.queued p.calls.length row
  | @dequeue j row hcall hfree =>
    refine ⟨?_, fun entry hentry => by simpa [setState] using hp.id_lt entry hentry⟩
    intro i row' st hi
    rcases (getElem?_setState hcall _).1 hi with ⟨rfl, hnew⟩ | ⟨-, hold⟩
    · cases hnew
      exact hJ.entered i row _ (hp.lines i row .queued hcall)
    · exact hp.lines i row' st hold
  | @advance j inp row l pr s' hcall hstep =>
    obtain ⟨rfl, rfl⟩ := Prod.mk.inj hstep
    refine ⟨?_, ?_⟩
    · intro i row' st hi
      -- only the call that steps writes
      change J i row' st (linesOf i (p.shared.2 ++ _))
      rw [linesOf_append]
      rcases (getElem?_setState hcall _).1 hi with ⟨rfl, hnew⟩ | ⟨hij, hold⟩
      · cases hnew
        rw [if_pos rfl]
        exact hJ.step i row l inp p.shared.1 _ _ _ rfl (hp.lines i row _ hcall)
      · rw [if_neg hij, List.append_nil]
        exact hp.lines i row' st hold
    · intro entry hentry
      have hlt : entry.1 < p.calls.length := by
        rcases List.mem_append.1 hentry with hold | hnew
        · exact hp.id_lt entry hold
        · obtain ⟨line, -, rfl⟩ := List.mem_map.1 hnew
          exact (List.getElem?_eq_some_iff.1 hcall).1
      simpa [setState] using hlt

end Journal

/-! ### One line for each call with a result -/

/-- Each call with the result wrote one line of the kind, and no other call wrote any. -/
def OneLineEach [DecidableEq α] (kind : κ → Bool) (r : α) (journal : List (ℕ × κ))
    (p : Pool ρ ℓ σ α) : Prop :=
  ∀ i, (linesOf i journal).countP kind = if p.results[i]? = some (some r) then 1 else 0

section OneLineEach

variable [DecidableEq α] {kind : κ → Bool} {r : α} {journal : List (ℕ × κ)} {p : Pool ρ ℓ σ α}

/-- The calls with the result wrote the lines of the kind. -/
theorem OneLineEach.mem_callersOf_iff (h : OneLineEach kind r journal p) (i : ℕ) :
    i ∈ callersOf kind journal ↔ p.results[i]? = some (some r) := by
  rw [← List.count_pos_iff, count_callersOf, h]
  split
  next hresult => simpa using hresult
  next hresult => simpa using hresult

theorem OneLineEach.nodup_callersOf (h : OneLineEach kind r journal p) :
    (callersOf kind journal).Nodup := by
  rw [List.nodup_iff_count_le_one]
  intro i
  rw [count_callersOf, h]
  split <;> simp

/-- There are as many lines of the kind as calls with the result. -/
theorem OneLineEach.length_callersOf (h : OneLineEach kind r journal p) :
    (callersOf kind journal).length = p.results.count (some r) := by
  rw [count_results, ← List.toFinset_card_of_nodup h.nodup_callersOf]
  congr 1
  ext i
  rw [List.mem_toFinset, h.mem_callersOf_iff, Finset.mem_filter, Finset.mem_range]
  constructor
  · intro hresult
    obtain ⟨row, hcall⟩ := results_getElem?_eq_some.1 hresult
    exact ⟨(List.getElem?_eq_some_iff.1 hcall).1, hresult⟩
  · exact fun hresult => hresult.2

end OneLineEach

end Pool

end ThreadPool
