import Mathlib.Data.List.Infix
import InventorySync.Foundations.RefreshCell
import InventorySync.Transport.TokenRefresh

/-!
# Token refresh is single-flight

What holds however the threads that share a client interleave, and whenever the cached token
expires: the thread that holds the lock is the one inside the `with` block, and the cache is empty
while a refresh is under way. So the refreshes and the expiries of a run are those of a cell that is
refreshed only when it is empty, and a call returns a token that the cache held while it ran.

* `inv_of_exec`: the lock, the stages and the cache agree in every state reached;
* `acquire_bearer_token_single_flight`: the guarantees, in every state reached.
-/

open Python

namespace Transport

namespace TokenState

variable {θ : Type}

/-- A token is issued. -/
def Label.isIssue : Label θ → Bool
  | .grant _ (.issued _ _ _) => true
  | _ => false

/-- The cached token expires. -/
def Label.isExpire : Label θ → Bool
  | .expire => true
  | _ => false

/-- The label is a step of the thread `i` inside its call. -/
def Label.isStepOf [DecidableEq θ] (i : θ) : Label θ → Bool
  | .call _ => false
  | .advance j => decide (j = i)
  | .grant j _ => decide (j = i)
  | .expire => false

/-- What a label does to the cell that the cache is. -/
def Label.move : Label θ → Option (RefreshCell.Move String)
  | .grant _ (.issued token _ _) => some (.refresh token)
  | .expire => some .expire
  | _ => none

theorem countP_isRefresh_move (schedule : List (Label θ)) :
    (schedule.filterMap Label.move).countP RefreshCell.Move.isRefresh =
      schedule.countP Label.isIssue := by
  rw [List.countP_filterMap]
  refine List.countP_congr fun lab _ => ?_
  rcases lab with _ | _ | ⟨i, _ | _⟩ | _ <;> simp [Label.move, Label.isIssue,
    RefreshCell.Move.isRefresh]

theorem countP_isExpire_move (schedule : List (Label θ)) :
    (schedule.filterMap Label.move).countP RefreshCell.Move.isExpire =
      schedule.countP Label.isExpire := by
  rw [List.countP_filterMap]
  refine List.countP_congr fun lab _ => ?_
  rcases lab with _ | _ | ⟨i, _ | _⟩ | _ <;> simp [Label.move, Label.isExpire,
    RefreshCell.Move.isExpire]

/-- The lock, the stages and the cache agree. -/
structure Inv (s : TokenState θ) : Prop where
  /-- The lock is held by the thread that is inside the `with` block. -/
  owner : ∀ i, s.lock = some i ↔ (s.stage i).holdsLock = true
  /-- No token is cached while one is asked for. -/
  empty : ∀ i, s.stage i = .refreshing → s.cache = none

theorem inv_start (cache : Option String) : Inv (start (θ := θ) cache) where
  owner _ := by simp [start, TokenStage.holdsLock]
  empty i h := by cases h

variable {s s' : TokenState θ}

namespace Inv

/-- Two threads inside the `with` block are one. -/
theorem eq_of_holdsLock (hinv : Inv s) {i j : θ} (hi : (s.stage i).holdsLock = true)
    (hj : (s.stage j).holdsLock = true) : i = j :=
  Option.some.inj (((hinv.owner i).2 hi).symm.trans ((hinv.owner j).2 hj))

/-- The lock is free exactly while no thread is inside the `with` block. -/
theorem lock_eq_none_iff (hinv : Inv s) :
    s.lock = none ↔ ∀ i, (s.stage i).holdsLock = false := by
  constructor
  · intro hlock i
    rw [Bool.eq_false_iff]
    intro hi
    rw [(hinv.owner i).2 hi] at hlock
    cases hlock
  · intro hfree
    cases hlock : s.lock with
    | none => rfl
    | some i =>
      have hi := (hinv.owner i).1 hlock
      rw [hfree i] at hi
      cases hi

end Inv

variable [DecidableEq θ] {app : MsalApp} {lab : Label θ}

/-- A thread that stays on its side of the lock and does not ask for a token moves freely. -/
theorem inv_goTo (hinv : Inv s) {i : θ} {stage : TokenStage}
    (hlock : stage.holdsLock = (s.stage i).holdsLock)
    (hempty : stage = .refreshing → s.cache = none) : Inv (s.goTo i stage) where
  owner j := by
    rw [lock_goTo]
    rcases eq_or_ne j i with rfl | hj
    · rw [stage_goTo_self, hlock]
      exact hinv.owner j
    · rw [stage_goTo_of_ne hj]
      exact hinv.owner j
  empty j h := by
    rw [cache_goTo]
    rcases eq_or_ne j i with rfl | hj
    · rw [stage_goTo_self] at h
      exact hempty h
    · rw [stage_goTo_of_ne hj] at h
      exact hinv.empty j h

theorem holdsLock_of_stepsLeft_eq_zero {stage : TokenStage} (h : stage.stepsLeft = 0) :
    stage.holdsLock = false := by
  cases stage <;> simp_all [TokenStage.stepsLeft, TokenStage.holdsLock]

/-- Every step keeps the lock, the stages and the cache in agreement. -/
theorem inv_of_step (hinv : Inv s) (h : Step app s lab s') : Inv s' := by
  cases h with
  | call hstage =>
    exact inv_goTo hinv (holdsLock_of_stepsLeft_eq_zero hstage).symm (by rintro ⟨⟩)
  | hit hstage hcache => exact inv_goTo hinv (by rw [hstage]; rfl) (by rintro ⟨⟩)
  | miss hstage hcache => exact inv_goTo hinv (by rw [hstage]; rfl) (by rintro ⟨⟩)
  | rehit hstage hcache => exact inv_goTo hinv (by rw [hstage]; rfl) (by rintro ⟨⟩)
  | remiss hstage hcache => exact inv_goTo hinv (by rw [hstage]; rfl) fun _ => hcache
  | answer hstage => exact inv_goTo hinv (by rw [hstage]; rfl) (by rintro ⟨⟩)
  | expire hcache => exact ⟨hinv.owner, fun _ _ => rfl⟩
  | @acquire i hstage hlock =>
    -- the lock was free, so nobody else was inside
    have hfree := hinv.lock_eq_none_iff.1 hlock
    constructor
    · intro j
      rcases eq_or_ne j i with rfl | hj
      · simp [TokenStage.holdsLock]
      · simp [stage_goTo_of_ne hj, hfree j, hj.symm]
    · intro j hrefreshing
      rcases eq_or_ne j i with rfl | hj
      · simp at hrefreshing
      · simp only [stage_goTo_of_ne hj] at hrefreshing
        have hj := hfree j
        rw [hrefreshing] at hj
        cases hj
  | @grant i grant hstage =>
    have hlock : s.lock = some i := (hinv.owner i).2 (by rw [hstage]; rfl)
    constructor
    · intro j
      rcases eq_or_ne j i with rfl | hj
      · simp [TokenStage.holdsLock, hlock]
      · simp only [stage_goTo_of_ne hj]
        exact hinv.owner j
    · intro j hrefreshing
      rcases eq_or_ne j i with rfl | hj
      · simp at hrefreshing
      · simp only [stage_goTo_of_ne hj] at hrefreshing
        have hj' := hinv.eq_of_holdsLock (i := i) (j := j) (by rw [hstage]; rfl)
          (by rw [hrefreshing]; rfl)
        exact absurd hj'.symm hj
  | @release i result hstage =>
    have hlock : s.lock = some i := (hinv.owner i).2 (by rw [hstage]; rfl)
    constructor
    · intro j
      rcases eq_or_ne j i with rfl | hj
      · simp [TokenStage.holdsLock]
      · have hj' : ¬ (s.stage j).holdsLock = true := by
          rw [← hinv.owner j, hlock, Option.some.injEq]
          exact hj.symm
        simp [stage_goTo_of_ne hj, hj']
    · intro j hrefreshing
      rcases eq_or_ne j i with rfl | hj
      · simp at hrefreshing
      · simp only [stage_goTo_of_ne hj] at hrefreshing
        exact hinv.empty j hrefreshing

variable {cache : Option String} {schedule : List (Label θ)}

/-- The lock, the stages and the cache agree in every state reached. -/
theorem inv_of_exec (h : TransitionSystem.exec (step app) (start cache) schedule = some s) :
    Inv s :=
  TransitionSystem.exec_invariant' (P := Inv)
    (fun _ _ _ hinv hstep => inv_of_step hinv (step_eq_some_iff.1 hstep)) (inv_start cache) h

/-! ### Refreshes and expiries -/

/-- The cache changes as the cell does. -/
theorem move_of_step (hinv : Inv s) (h : Step app s lab s') :
    TransitionSystem.exec RefreshCell.step s.cache lab.move.toList = some s'.cache := by
  cases h with
  | @grant i grant hstage =>
    -- the cell is empty, because this thread is refreshing it
    have hcache := hinv.empty i hstage
    cases grant with
    | issued token fields haccess => simp [Label.move, hcache, TransitionSystem.exec_cons,
        RefreshCell.step, Grant.cacheAfter]
    | refused result haccess => rfl
  | expire hcache => simp [Label.move, hcache, TransitionSystem.exec_cons, RefreshCell.step]
  | _ => rfl

/-- A run has at most one successful refresh more than it has expiries. -/
theorem countP_isIssue_le
    (h : TransitionSystem.exec (step app) (start cache) schedule = some s) :
    schedule.countP Label.isIssue ≤ 1 + schedule.countP Label.isExpire := by
  have hcell : TransitionSystem.exec RefreshCell.step (start (θ := θ) cache).cache
      (schedule.filterMap Label.move) = some s.cache :=
    TransitionSystem.exec_project (fun _ _ _ _ hrun hstep =>
      move_of_step (inv_of_exec hrun) (step_eq_some_iff.1 hstep)) h
  have hle := RefreshCell.countP_refresh_le hcell
  rwa [countP_isRefresh_move, countP_isExpire_move] at hle

/-! ### What a call comes to -/

/-- A step of one thread settles the outcome of no other. -/
theorem outcome_goTo {i j : θ} {stage : TokenStage} {outcome : Except PyException PyValue}
    (hstage : stage.outcome? = some outcome → (s.stage j).outcome? = some outcome)
    (h : ((s.goTo j stage).stage i).outcome? = some outcome) :
    (s.stage i).outcome? = some outcome := by
  rcases eq_or_ne i j with rfl | hi
  · rw [stage_goTo_self] at h
    exact hstage h
  · rwa [stage_goTo_of_ne hi] at h

/-- A call's outcome is settled by a token that is cached before or after the step, or it is an
authentication error. -/
theorem outcome_of_step {i : θ} {outcome : Except PyException PyValue} (h : Step app s lab s')
    (houtcome : (s'.stage i).outcome? = some outcome) :
    (s.stage i).outcome? = some outcome ∨
      (∃ token, outcome = .ok (.str token) ∧ s.cache = some token ∧
        0 < (s.stage i).stepsLeft) ∨
      (∃ token, outcome = .ok (.str token) ∧ s'.cache = some token ∧
        0 < (s'.stage i).stepsLeft) ∨
      ∃ message, outcome = .error ⟨.dataverseAuthenticationError, message⟩ := by
  have hsilent {token : String} (h' : some (tokenOf (some (app.cachedResult token))) =
      some outcome) : outcome = .ok (.str token) := by
    rw [tokenOf_cachedResult] at h'
    exact (Option.some.inj h').symm
  cases h with
  | call hstage => exact .inl (outcome_goTo (by rintro ⟨⟩) houtcome)
  | miss hstage hcache => exact .inl (outcome_goTo (by rintro ⟨⟩) houtcome)
  | acquire hstage hlock => exact .inl (outcome_goTo (by rintro ⟨⟩) houtcome)
  | remiss hstage hcache => exact .inl (outcome_goTo (by rintro ⟨⟩) houtcome)
  | release hstage => exact .inl (outcome_goTo (by rw [hstage]; exact id) houtcome)
  | answer hstage => exact .inl (outcome_goTo (by rw [hstage]; exact id) houtcome)
  | expire hcache => exact .inl houtcome
  | @hit j token hstage hcache =>
    rcases eq_or_ne i j with rfl | hi
    · rw [stage_goTo_self] at houtcome
      exact .inr (.inl ⟨token, hsilent houtcome, hcache, by simp [hstage, TokenStage.stepsLeft]⟩)
    · rw [stage_goTo_of_ne hi] at houtcome
      exact .inl houtcome
  | @rehit j token hstage hcache =>
    rcases eq_or_ne i j with rfl | hi
    · rw [stage_goTo_self] at houtcome
      exact .inr (.inl ⟨token, hsilent houtcome, hcache, by simp [hstage, TokenStage.stepsLeft]⟩)
    · rw [stage_goTo_of_ne hi] at houtcome
      exact .inl houtcome
  | @grant j grant hstage =>
    rcases eq_or_ne i j with rfl | hi
    · simp only [stage_goTo_self] at houtcome
      have hgrant : outcome = tokenOf grant.result := (Option.some.inj houtcome).symm
      cases grant with
      | issued token fields haccess =>
        -- the cache holds the token from here on
        have htoken : tokenOf (some fields) = .ok (.str token) := by
          rw [tokenOf]
          simp only [Option.getD_some, haccess]
        exact .inr (.inr (.inl ⟨token, hgrant.trans htoken, rfl, by simp [TokenStage.stepsLeft]⟩))
      | refused result haccess =>
        obtain ⟨message, hmessage⟩ := tokenOf_of_refused haccess
        exact .inr (.inr (.inr ⟨message, hgrant.trans hmessage⟩))
    · simp only [stage_goTo_of_ne hi] at houtcome
      exact .inl houtcome

/-- `token` is cached at a moment of the call that `i` makes after the steps `before`, while the
steps `during` are taken. -/
def CachedDuring (app : MsalApp) (cache : Option String) (before : List (Label θ)) (i : θ)
    (during : List (Label θ)) (token : String) : Prop :=
  ∃ sofar s₁, sofar <+: during ∧
    TransitionSystem.exec (step app) (start cache) (before ++ .call i :: sofar) = some s₁ ∧
    s₁.cache = some token ∧ 0 < (s₁.stage i).stepsLeft

/-- A call comes to a token that is cached while it runs, or to an authentication error. -/
theorem outcome_of_exec {before during : List (Label θ)} {i : θ}
    (h : TransitionSystem.exec (step app) (start cache) (before ++ .call i :: during) = some s)
    {outcome : Except PyException PyValue} (houtcome : (s.stage i).outcome? = some outcome) :
    (∃ token, outcome = .ok (.str token) ∧ CachedDuring app cache before i during token) ∨
      ∃ message, outcome = .error ⟨.dataverseAuthenticationError, message⟩ := by
  -- the call starts in `t`, where its outcome is open
  rw [List.append_cons, TransitionSystem.exec_append, Option.bind_eq_some_iff] at h
  obtain ⟨t, hbefore, hduring⟩ := h
  have hstart : (t.stage i).outcome? = none := by
    obtain ⟨t₀, _, hcall⟩ := TransitionSystem.exec_concat_eq_some.1 hbefore
    cases step_eq_some_iff.1 hcall with
    | call hstage => rw [stage_goTo_self]; rfl
  have hfrom {sofar : List (Label θ)} {s₁ : TokenState θ}
      (hsofar : TransitionSystem.exec (step app) t sofar = some s₁) :
      TransitionSystem.exec (step app) (start cache) (before ++ .call i :: sofar) = some s₁ := by
    rw [List.append_cons, TransitionSystem.exec_append, hbefore]
    exact hsofar
  have hmono {ls ms : List (Label θ)} {token : String} (hcached : CachedDuring app cache before i ls
      token) : CachedDuring app cache before i (ls ++ ms) token := by
    obtain ⟨sofar, s₁, hsofar, hrest⟩ := hcached
    exact ⟨sofar, s₁, hsofar.trans (List.prefix_append ls ms), hrest⟩
  refine TransitionSystem.exec_history (P := fun ls s =>
    ∀ outcome, (s.stage i).outcome? = some outcome →
      (∃ token, outcome = .ok (.str token) ∧ CachedDuring app cache before i ls token) ∨
        ∃ message, outcome = .error ⟨.dataverseAuthenticationError, message⟩)
    ?_ ?_ hduring outcome houtcome
  · intro outcome houtcome
    rw [hstart] at houtcome
    cases houtcome
  · intro ls s₁ lab s₂ hrun hsettled hstep outcome houtcome
    rcases outcome_of_step (step_eq_some_iff.1 hstep) houtcome with
      hbefore | ⟨token, rfl, hcache, hleft⟩ | ⟨token, rfl, hcache, hleft⟩ | herror
    · rcases hsettled outcome hbefore with ⟨token, htoken, hcached⟩ | herror
      · exact .inl ⟨token, htoken, hmono hcached⟩
      · exact .inr herror
    · exact .inl ⟨token, rfl, ls, s₁, List.prefix_append ls [lab], hfrom hrun, hcache, hleft⟩
    · exact .inl ⟨token, rfl, ls ++ [lab], s₂, List.prefix_rfl,
        hfrom (TransitionSystem.exec_concat_eq_some.2 ⟨s₁, hrun, hstep⟩), hcache, hleft⟩
    · exact .inr herror

/-! ### Progress -/

/-- A step inside a call uses up a step of the thread that takes it, and of no other. -/
theorem stepsLeft_of_step {i : θ} (h : Step app s lab s') (hcall : lab ≠ .call i) :
    (if lab.isStepOf i then 1 else 0) + (s'.stage i).stepsLeft ≤ (s.stage i).stepsLeft := by
  have hgoTo {j : θ} {stage : TokenStage} (hstage : stage.stepsLeft < (s.stage j).stepsLeft) :
      (if decide (j = i) then 1 else 0) + ((s.goTo j stage).stage i).stepsLeft ≤
        (s.stage i).stepsLeft := by
    rcases eq_or_ne j i with rfl | hj
    · simp only [decide_true, if_true, stage_goTo_self]
      omega
    · simp [hj, stage_goTo_of_ne hj.symm]
  cases h with
  | @call j hstage =>
    have hj : i ≠ j := fun hj => hcall (by rw [hj])
    simp [Label.isStepOf, stage_goTo_of_ne hj]
  | hit hstage hcache => exact hgoTo (by simp [hstage, TokenStage.stepsLeft])
  | miss hstage hcache => exact hgoTo (by simp [hstage, TokenStage.stepsLeft])
  | acquire hstage hlock => exact hgoTo (by simp [hstage, TokenStage.stepsLeft])
  | rehit hstage hcache => exact hgoTo (by simp [hstage, TokenStage.stepsLeft])
  | remiss hstage hcache => exact hgoTo (by simp [hstage, TokenStage.stepsLeft])
  | grant hstage => exact hgoTo (by simp [hstage, TokenStage.stepsLeft])
  | release hstage => exact hgoTo (by simp [hstage, TokenStage.stepsLeft])
  | answer hstage => exact hgoTo (by simp [hstage, TokenStage.stepsLeft])
  | expire hcache => simp [Label.isStepOf]

/-- A call takes at most six steps of its thread. -/
theorem countP_isStepOf_le {before during : List (Label θ)} {i : θ}
    (h : TransitionSystem.exec (step app) (start cache) (before ++ .call i :: during) = some s)
    (hlast : .call i ∉ during) : during.countP (Label.isStepOf i) ≤ 6 := by
  rw [List.append_cons, TransitionSystem.exec_append, Option.bind_eq_some_iff] at h
  obtain ⟨t, hbefore, hduring⟩ := h
  have hstart : (t.stage i).stepsLeft = 6 := by
    obtain ⟨t₀, _, hcall⟩ := TransitionSystem.exec_concat_eq_some.1 hbefore
    cases step_eq_some_iff.1 hcall with
    | call hstage => rw [stage_goTo_self]; rfl
  have hused : .call i ∉ during →
      during.countP (Label.isStepOf i) + (s.stage i).stepsLeft ≤ 6 := by
    refine TransitionSystem.exec_history (P := fun ls s => .call i ∉ ls →
      ls.countP (Label.isStepOf i) + (s.stage i).stepsLeft ≤ 6) ?_ ?_ hduring
    · intro _
      rw [hstart]
      rfl
    · intro ls s₁ lab s₂ _ hused hstep hlast
      rw [List.mem_append, List.mem_singleton, not_or] at hlast
      have hle := stepsLeft_of_step (i := i) (step_eq_some_iff.1 hstep) (Ne.symm hlast.2)
      have hsofar := hused hlast.1
      rw [List.countP_append, List.countP_singleton]
      omega
  exact le_trans (Nat.le_add_right _ _) (hused hlast)

/-- The thread `i` can take a step of its call. -/
def CanStep (app : MsalApp) (s : TokenState θ) (i : θ) : Prop :=
  ∃ lab s', lab.isStepOf i = true ∧ s.step app lab = some s'

/-- Inside the `with` block nothing blocks a thread. -/
theorem canStep_of_holdsLock {i : θ} (h : (s.stage i).holdsLock = true) : CanStep app s i := by
  have hadvance : Label.isStepOf i (.advance i) = true := decide_eq_true rfl
  cases hstage : s.stage i with
  | locked =>
    cases hcache : s.cache with
    | none => exact ⟨.advance i, _, hadvance, step_eq_some_of_step (.remiss hstage hcache)⟩
    | some token => exact ⟨.advance i, _, hadvance, step_eq_some_of_step (.rehit hstage hcache)⟩
  | refreshing =>
    exact ⟨.grant i (.refused none (by rintro _ ⟨⟩)), _, decide_eq_true rfl,
      step_eq_some_of_step (.grant hstage)⟩
  | releasing result => exact ⟨.advance i, _, hadvance, step_eq_some_of_step (.release hstage)⟩
  | _ => simp [hstage, TokenStage.holdsLock] at h

/-- A thread in a call can go on, or it waits for one that can. -/
theorem canStep_or_waits (hinv : Inv s) {i : θ} (h : 0 < (s.stage i).stepsLeft) :
    CanStep app s i ∨ ∃ j, s.lock = some j ∧ j ≠ i ∧ CanStep app s j := by
  have hadvance : Label.isStepOf i (.advance i) = true := decide_eq_true rfl
  cases hstage : s.stage i with
  | outside => simp [hstage, TokenStage.stepsLeft] at h
  | returned outcome => simp [hstage, TokenStage.stepsLeft] at h
  | locked => exact .inl (canStep_of_holdsLock (by rw [hstage]; rfl))
  | refreshing => exact .inl (canStep_of_holdsLock (by rw [hstage]; rfl))
  | releasing result => exact .inl (canStep_of_holdsLock (by rw [hstage]; rfl))
  | entered =>
    cases hcache : s.cache with
    | none => exact .inl ⟨.advance i, _, hadvance, step_eq_some_of_step (.miss hstage hcache)⟩
    | some token => exact .inl ⟨.advance i, _, hadvance, step_eq_some_of_step (.hit hstage hcache)⟩
  | answered result => exact .inl ⟨.advance i, _, hadvance, step_eq_some_of_step (.answer hstage)⟩
  | missed =>
    cases hlock : s.lock with
    | none => exact .inl ⟨.advance i, _, hadvance, step_eq_some_of_step (.acquire hstage hlock)⟩
    | some j =>
      -- the lock is held by a thread inside the `with` block, which goes on
      have hj : (s.stage j).holdsLock = true := (hinv.owner j).1 hlock
      refine .inr ⟨j, rfl, ?_, canStep_of_holdsLock hj⟩
      rintro rfl
      simp [hstage, TokenStage.holdsLock] at hj

/-- Token refresh is single-flight in the state `s` that a schedule leads to. -/
structure SingleFlight (app : MsalApp) (cache : Option String) (schedule : List (Label θ))
    (s : TokenState θ) : Prop where
  /-- At most one thread is inside `acquire_token_for_client`. -/
  one_refresh : ∀ i j, s.stage i = .refreshing → s.stage j = .refreshing → i = j
  /-- Each successful refresh but the first is preceded by an expiry of its own. -/
  refreshes : schedule.countP Label.isIssue ≤ 1 + schedule.countP Label.isExpire
  /-- A call that is over returned a token that was cached while it ran, or raised
  `DataverseAuthenticationError`. -/
  outcome : ∀ before i during outcome, schedule = before ++ .call i :: during →
    .call i ∉ during → s.stage i = .returned outcome →
      (∃ token, outcome = .ok (.str token) ∧ CachedDuring app cache before i during token) ∨
        ∃ message, outcome = .error ⟨.dataverseAuthenticationError, message⟩
  /-- The lock is free exactly while no thread is inside the `with` block. -/
  lock_free : s.lock = none ↔ ∀ i, (s.stage i).holdsLock = false
  /-- A thread in a call can go on, or it waits for one that can. -/
  progress : ∀ i, 0 < (s.stage i).stepsLeft →
    CanStep app s i ∨ ∃ j, s.lock = some j ∧ j ≠ i ∧ CanStep app s j
  /-- A call takes at most six steps of its thread. -/
  steps : ∀ before i during, schedule = before ++ .call i :: during → .call i ∉ during →
    during.countP (Label.isStepOf i) ≤ 6

/-- Token refresh is single-flight, for any threads, any order of their steps, and any moments at
which the cached token expires. -/
theorem acquire_bearer_token_single_flight
    (h : TransitionSystem.exec (step app) (start cache) schedule = some s) :
    SingleFlight app cache schedule s where
  one_refresh i j hi hj :=
    (inv_of_exec h).eq_of_holdsLock (by rw [hi]; rfl) (by rw [hj]; rfl)
  refreshes := countP_isIssue_le h
  outcome before i during outcome hschedule _ houtcome := by
    rw [hschedule] at h
    exact outcome_of_exec h (by rw [houtcome]; rfl)
  lock_free := (inv_of_exec h).lock_eq_none_iff
  progress _ hleft := canStep_or_waits (inv_of_exec h) hleft
  steps before i during hschedule hlast := by
    rw [hschedule] at h
    exact countP_isStepOf_le h hlast

/-- What MSAL hands out for a cached token. -/
def cachingApp : MsalApp where
  cachedResult token := .ofPairs
    [("access_token", .str token), ("token_type", .str "Bearer"), ("token_source", .str "cache")]
  accessToken _ := rfl

/-- A token issued by Entra ID. -/
def issue (token : String) : Grant :=
  .issued token (.ofPairs
    [("token_type", .str "Bearer"), ("expires_in", .int 3599), ("access_token", .str token)]) rfl

/-- Two threads miss, one refreshes and the other finds its token, which expires before either of
them returns. -/
def missedTogether : List (Label ℕ) :=
  [.call 0, .call 1, .advance 0, .advance 1, .advance 0, .advance 0, .grant 0 (issue "t"),
    .advance 0, .advance 1, .advance 1, .expire, .advance 1, .advance 0, .advance 1]

theorem missedTogether_single_flight : ∃ s,
    TransitionSystem.exec (step cachingApp) (start none) missedTogether = some s ∧
      s.stage 1 = .returned (.ok (.str "t")) ∧ SingleFlight cachingApp none missedTogether s :=
  ⟨_, rfl, rfl, acquire_bearer_token_single_flight rfl⟩

end TokenState

end Transport
