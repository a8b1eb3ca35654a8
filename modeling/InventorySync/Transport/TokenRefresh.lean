import Mathlib.Logic.Function.Basic
import InventorySync.Foundations.InsertionDict
import InventorySync.Foundations.TransitionSystem
import InventorySync.Python.Values

/-!
# Acquiring a bearer token

`DataverseClient.acquire_bearer_token`, once as the function it is (`acquireBearerToken`) and once
cut into the steps that threads interleave: the unlocked lookup, the acquisition of the lock, the
second lookup, the refresh, and the release. MSAL is a parameter, as far as the method relies on it:
`acquire_token_silent` returns the token that is cached, and `acquire_token_for_client` caches the
token it returns or changes nothing. A cached token may expire between any two steps.

* `Step`, `step_eq_some_iff`: everything a step can do;
* `exec_alone`: the steps of one call, taken without interruption, are `acquireBearerToken`.
-/

open Python

namespace Transport

/-- What a token call of MSAL returns. -/
abbrev MsalResult := Option (InsertionDict String PyValue)

/-- `not result` -/
def isFalsy : MsalResult → Bool
  | none => true
  | some result => result.entries.isEmpty

/-- The return value of `acquire_bearer_token`, or what it raises, by the result it ends up with. -/
def tokenOf (result : MsalResult) : Except PyException PyValue :=
  -- `result or {}`, which has no token if `result` is falsy
  let fields := result.getD .empty
  match fields.get? "access_token" with
  | some token => .ok token
  | none =>
    let errorDescription := (fields.get? "error_description").getD
      (.str "No error description returned by Microsoft Entra ID.")
    .error ⟨.dataverseAuthenticationError,
      "Failed to acquire Bearer token from Microsoft Entra ID: " ++ errorDescription.text⟩

/-- A confidential client application: how it hands out a token that it has cached. -/
structure MsalApp where
  cachedResult : String → InsertionDict String PyValue
  /-- The token is in the dictionary that is returned. -/
  accessToken : ∀ token, (cachedResult token).get? "access_token" = some (.str token)

/-- `acquire_token_silent`, by the unexpired token in the cache. -/
def MsalApp.acquireTokenSilent (app : MsalApp) (cache : Option String) : MsalResult :=
  cache.map app.cachedResult

/-- What an `acquire_token_for_client` call comes to. -/
inductive Grant
  /-- A token is issued, and it is cached. -/
  | issued (token : String) (fields : InsertionDict String PyValue)
      (haccess : fields.get? "access_token" = some (.str token))
  /-- An error or nothing is returned, and the cache is left as it is. -/
  | refused (result : MsalResult)
      (haccess : ∀ fields, result = some fields → fields.get? "access_token" = none)

/-- What the call returns. -/
def Grant.result : Grant → MsalResult
  | .issued _ fields _ => some fields
  | .refused result _ => result

/-- The cache after the call. -/
def Grant.cacheAfter (cache : Option String) : Grant → Option String
  | .issued token _ _ => some token
  | .refused _ _ => cache

/-- Acquire a bearer token, where `grant` is what a refresh comes to. The second component is the
cache that the call leaves. -/
def acquireBearerToken (app : MsalApp) (grant : Grant) (cache : Option String) :
    Except PyException PyValue × Option String :=
  let result := app.acquireTokenSilent cache
  if isFalsy result then
    -- under the lock
    let result := app.acquireTokenSilent cache
    if isFalsy result then (tokenOf grant.result, grant.cacheAfter cache)
    else (tokenOf result, cache)
  else (tokenOf result, cache)

/-- A cached token is a result. -/
theorem isFalsy_cachedResult (app : MsalApp) (token : String) :
    isFalsy (some (app.cachedResult token)) = false := by
  have haccess := app.accessToken token
  change (app.cachedResult token).entries.isEmpty = false
  cases hentries : (app.cachedResult token).entries with
  | nil =>
    rw [InsertionDict.get?, hentries] at haccess
    cases haccess
  | cons entry entries => rfl

theorem tokenOf_cachedResult (app : MsalApp) (token : String) :
    tokenOf (some (app.cachedResult token)) = .ok (.str token) := by
  rw [tokenOf]
  simp only [Option.getD_some, app.accessToken token]

/-- A result without a token raises `DataverseAuthenticationError`. -/
theorem tokenOf_of_refused {result : MsalResult}
    (h : ∀ fields, result = some fields → fields.get? "access_token" = none) :
    ∃ message, tokenOf result = .error ⟨.dataverseAuthenticationError, message⟩ := by
  have hnone : (result.getD .empty).get? "access_token" = none := by
    cases result with
    | none => rfl
    | some fields => exact h fields rfl
  rw [tokenOf]
  simp only [hnone]
  exact ⟨_, rfl⟩

/-! ### The steps of a call -/

/-- Where a thread stands in `acquire_bearer_token`. -/
inductive TokenStage
  /-- It has not called the method. -/
  | outside
  | entered
  /-- The unlocked lookup found nothing. -/
  | missed
  /-- It holds the lock. -/
  | locked
  /-- The second lookup found nothing, and it is inside `acquire_token_for_client`. -/
  | refreshing
  /-- It is at the end of the `with` block. -/
  | releasing (result : MsalResult)
  /-- It is past the lock, or never came to it. -/
  | answered (result : MsalResult)
  /-- Its call returned, or raised. -/
  | returned (outcome : Except PyException PyValue)

namespace TokenStage

/-- The thread is inside the `with` block. -/
def holdsLock : TokenStage → Bool
  | .locked => true
  | .refreshing => true
  | .releasing _ => true
  | _ => false

/-- How many more steps the thread takes at most before its call is over. -/
def stepsLeft : TokenStage → ℕ
  | .outside => 0
  | .entered => 6
  | .missed => 5
  | .locked => 4
  | .refreshing => 3
  | .releasing _ => 2
  | .answered _ => 1
  | .returned _ => 0

/-- What the thread's call comes to, once that is settled. -/
def outcome? : TokenStage → Option (Except PyException PyValue)
  | .releasing result => some (tokenOf result)
  | .answered result => some (tokenOf result)
  | .returned outcome => some outcome
  | _ => none

end TokenStage

/-- The state of a client that the threads `θ` share: where each stands, who holds the lock, and the
token that is cached, if it has not expired. -/
structure TokenState (θ : Type) where
  stage : θ → TokenStage
  lock : Option θ
  cache : Option String

namespace TokenState

/-- What happens next: a thread calls the method, takes its next step, is answered by
`acquire_token_for_client`, or the cached token expires. -/
inductive Label (θ : Type)
  | call (i : θ)
  | advance (i : θ)
  | grant (i : θ) (grant : Grant)
  | expire

/-- No thread has called the method. -/
def start {θ : Type} (cache : Option String) : TokenState θ := ⟨fun _ => .outside, none, cache⟩

variable {θ : Type} [DecidableEq θ] (app : MsalApp) (s : TokenState θ)

/-- Only one thread moves. -/
def goTo (i : θ) (stage : TokenStage) : TokenState θ :=
  { s with stage := Function.update s.stage i stage }

/-- One step. -/
def step : Label θ → Option (TokenState θ)
  | .call i =>
    match s.stage i with
    | .outside => some (s.goTo i .entered)
    | .returned _ => some (s.goTo i .entered)
    | _ => none
  | .advance i =>
    match s.stage i with
    | .entered =>
      let result := app.acquireTokenSilent s.cache
      if isFalsy result then some (s.goTo i .missed) else some (s.goTo i (.answered result))
    -- a thread waits here while another holds the lock
    | .missed => if s.lock.isNone then some { s.goTo i .locked with lock := some i } else none
    | .locked =>
      let result := app.acquireTokenSilent s.cache
      if isFalsy result then some (s.goTo i .refreshing) else some (s.goTo i (.releasing result))
    | .releasing result => some { s.goTo i (.answered result) with lock := none }
    | .answered result => some (s.goTo i (.returned (tokenOf result)))
    | _ => none
  | .grant i grant =>
    match s.stage i with
    | .refreshing =>
      some { s.goTo i (.releasing grant.result) with cache := grant.cacheAfter s.cache }
    | _ => none
  | .expire =>
    match s.cache with
    | some _ => some { s with cache := none }
    | none => none

/-- Everything a step can do. -/
inductive Step : Label θ → TokenState θ → Prop
  | call {i} (hstage : (s.stage i).stepsLeft = 0) : Step (.call i) (s.goTo i .entered)
  | hit {i token} (hstage : s.stage i = .entered) (hcache : s.cache = some token) :
      Step (.advance i) (s.goTo i (.answered (some (app.cachedResult token))))
  | miss {i} (hstage : s.stage i = .entered) (hcache : s.cache = none) :
      Step (.advance i) (s.goTo i .missed)
  | acquire {i} (hstage : s.stage i = .missed) (hlock : s.lock = none) :
      Step (.advance i) { s.goTo i .locked with lock := some i }
  | rehit {i token} (hstage : s.stage i = .locked) (hcache : s.cache = some token) :
      Step (.advance i) (s.goTo i (.releasing (some (app.cachedResult token))))
  | remiss {i} (hstage : s.stage i = .locked) (hcache : s.cache = none) :
      Step (.advance i) (s.goTo i .refreshing)
  | grant {i grant} (hstage : s.stage i = .refreshing) :
      Step (.grant i grant)
        { s.goTo i (.releasing grant.result) with cache := grant.cacheAfter s.cache }
  | release {i result} (hstage : s.stage i = .releasing result) :
      Step (.advance i) { s.goTo i (.answered result) with lock := none }
  | answer {i result} (hstage : s.stage i = .answered result) :
      Step (.advance i) (s.goTo i (.returned (tokenOf result)))
  | expire {token} (hcache : s.cache = some token) : Step .expire { s with cache := none }

variable {app s} {s' : TokenState θ} {lab : Label θ}

/-- The one place where the branches of `step` are taken apart. -/
theorem step_of_step_eq_some (h : s.step app lab = some s') : Step app s lab s' := by
  cases lab with
  | call i =>
    simp only [step] at h
    split at h
    next hstage => exact Option.some.inj h ▸ .call (by rw [hstage]; rfl)
    next hstage => exact Option.some.inj h ▸ .call (by rw [hstage]; rfl)
    next => cases h
  | advance i =>
    simp only [step] at h
    split at h
    next hstage =>
      cases hcache : s.cache with
      | none =>
        simp only [hcache, MsalApp.acquireTokenSilent, Option.map_none, isFalsy, if_true] at h
        exact Option.some.inj h ▸ .miss hstage hcache
      | some token =>
        simp only [hcache, MsalApp.acquireTokenSilent, Option.map_some, isFalsy_cachedResult,
          Bool.false_eq_true, if_false] at h
        exact Option.some.inj h ▸ .hit hstage hcache
    next hstage =>
      split at h
      next hlock => exact Option.some.inj h ▸ .acquire hstage (Option.isNone_iff_eq_none.1 hlock)
      next => cases h
    next hstage =>
      cases hcache : s.cache with
      | none =>
        simp only [hcache, MsalApp.acquireTokenSilent, Option.map_none, isFalsy, if_true] at h
        exact Option.some.inj h ▸ .remiss hstage hcache
      | some token =>
        simp only [hcache, MsalApp.acquireTokenSilent, Option.map_some, isFalsy_cachedResult,
          Bool.false_eq_true, if_false] at h
        exact Option.some.inj h ▸ .rehit hstage hcache
    next result hstage => exact Option.some.inj h ▸ .release hstage
    next result hstage => exact Option.some.inj h ▸ .answer hstage
    next => cases h
  | grant i grant =>
    simp only [step] at h
    split at h
    next hstage => exact Option.some.inj h ▸ .grant hstage
    next => cases h
  | expire =>
    simp only [step] at h
    split at h
    next token hcache => exact Option.some.inj h ▸ .expire hcache
    next => cases h

theorem step_eq_some_of_step (h : Step app s lab s') : s.step app lab = some s' := by
  cases h with
  | @call i hstage =>
    cases hi : s.stage i with
    | outside => simp only [step, hi]
    | returned outcome => simp only [step, hi]
    | _ => simp [hi, TokenStage.stepsLeft] at hstage
  | hit hstage hcache =>
    simp [step, hstage, hcache, MsalApp.acquireTokenSilent, isFalsy_cachedResult]
  | miss hstage hcache => simp [step, hstage, hcache, MsalApp.acquireTokenSilent, isFalsy]
  | acquire hstage hlock => simp [step, hstage, hlock]
  | rehit hstage hcache =>
    simp [step, hstage, hcache, MsalApp.acquireTokenSilent, isFalsy_cachedResult]
  | remiss hstage hcache => simp [step, hstage, hcache, MsalApp.acquireTokenSilent, isFalsy]
  | grant hstage => simp only [step, hstage]
  | release hstage => simp only [step, hstage]
  | answer hstage => simp only [step, hstage]
  | expire hcache => simp only [step, hcache]

theorem step_eq_some_iff : s.step app lab = some s' ↔ Step app s lab s' :=
  ⟨step_of_step_eq_some, step_eq_some_of_step⟩

@[simp]
theorem stage_goTo_self (i : θ) (stage : TokenStage) : (s.goTo i stage).stage i = stage :=
  Function.update_self _ _ _

theorem stage_goTo_of_ne {i j : θ} (h : j ≠ i) (stage : TokenStage) :
    (s.goTo i stage).stage j = s.stage j :=
  Function.update_of_ne h _ _

@[simp]
theorem lock_goTo (i : θ) (stage : TokenStage) : (s.goTo i stage).lock = s.lock := rfl

@[simp]
theorem cache_goTo (i : θ) (stage : TokenStage) : (s.goTo i stage).cache = s.cache := rfl

/-- The steps of one call, taken without interruption while the lock is free, are
`acquireBearerToken`. -/
theorem exec_alone {i : θ} (hstage : s.stage i = .entered) (hlock : s.lock = none)
    (grant : Grant) : ∃ schedule s', TransitionSystem.exec (step app) s schedule = some s' ∧
      s'.stage i = .returned (acquireBearerToken app grant s.cache).1 ∧
      s'.cache = (acquireBearerToken app grant s.cache).2 ∧ s'.lock = none := by
  cases hcache : s.cache with
  | some token =>
    -- served from the cache, the call does not touch the lock
    have halone : acquireBearerToken app grant (some token) =
        (tokenOf (some (app.cachedResult token)), some token) := by
      rw [acquireBearerToken]
      simp only [MsalApp.acquireTokenSilent, Option.map_some, isFalsy_cachedResult,
        Bool.false_eq_true, if_false]
    rw [halone]
    refine ⟨[.advance i, .advance i], _, TransitionSystem.exec_cons_eq_some.2
      ⟨_, step_eq_some_of_step (.hit hstage hcache), TransitionSystem.exec_cons_eq_some.2
        ⟨_, step_eq_some_of_step (.answer (stage_goTo_self i _)), rfl⟩⟩, ?_, hcache, hlock⟩
    rw [stage_goTo_self]
  | none =>
    refine ⟨[.advance i, .advance i, .advance i, .grant i grant, .advance i, .advance i], _,
      TransitionSystem.exec_cons_eq_some.2 ⟨_, step_eq_some_of_step (.miss hstage hcache),
        TransitionSystem.exec_cons_eq_some.2
          ⟨_, step_eq_some_of_step (.acquire (stage_goTo_self i _) hlock),
            TransitionSystem.exec_cons_eq_some.2
              ⟨_, step_eq_some_of_step (.remiss (stage_goTo_self i _) hcache),
                TransitionSystem.exec_cons_eq_some.2
                  ⟨_, step_eq_some_of_step (.grant (stage_goTo_self i _)),
                    TransitionSystem.exec_cons_eq_some.2
                      ⟨_, step_eq_some_of_step (.release (stage_goTo_self i _)),
                        TransitionSystem.exec_cons_eq_some.2
                          ⟨_, step_eq_some_of_step (.answer (stage_goTo_self i _)),
                            rfl⟩⟩⟩⟩⟩⟩, ?_, ?_, rfl⟩
    · rw [stage_goTo_self, acquireBearerToken]
      rfl
    · change grant.cacheAfter s.cache = _
      rw [hcache]
      rfl

end TokenState

end Transport
