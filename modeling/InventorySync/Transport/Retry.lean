import InventorySync.Foundations.Resending
import InventorySync.Transport.ODataClient

/-!
# Re-sending a request

`DEFAULT_RETRY`, and the session's adapter, which sends a request again while re-sends are left and
the last send was not answered, or with an answer that the policy retries. Not every end of that is
an answer or one of the failures that the engine counts: when the re-sends run out on an answer that
is retried, the adapter raises `RetryError`, and `requests` has exceptions of its own for an answer
that it cannot make use of. The adapter itself is third-party code, so `HttpAdapter` states what is
documented of a single send, and `documentedAdapter` is an adapter that does just that.

* `Settles`, `EndsBadly`: how the sends of a request end, as a question about the sends alone;
* `HttpAdapter.requestEnds`: so a request settles or not whatever else the world looks like.
-/

open Python Resending

namespace Transport

/-- A retry policy, `raise_on_status` being at its default, true. -/
structure Retry where
  total : ℕ
  backoffFactor : ℚ
  statusForcelist : List ℕ
  allowedMethods : List String
  respectRetryAfterHeader : Bool

/-- Retry rate limiting (429) and upstream server hiccups (502/503/504), but not a plain 500. -/
def defaultRetry : Retry where
  total := 3
  backoffFactor := 1
  statusForcelist := [429, 502, 503, 504]
  allowedMethods := ["GET", "PATCH", "DELETE"]
  respectRetryAfterHeader := true

/-- What the `Retry-After` header of an answer says. -/
inductive RetryAfter
  | absent
  /-- It has no value. -/
  | empty
  /-- A delay, or the date at which it is over. -/
  | delay
  /-- Neither of these, or a delay longer than a process can sleep. -/
  | malformed
  deriving DecidableEq

/-- Whether the adapter takes it that there is such a header. -/
def RetryAfter.isGiven : RetryAfter → Bool
  | .absent => false
  | .empty => false
  | .delay => true
  | .malformed => true

/-- Whether the adapter can wait as the header says; without one it waits for the backoff. -/
def RetryAfter.isReadable : RetryAfter → Bool
  | .absent => true
  | .empty => false
  | .delay => true
  | .malformed => false

/-- What the adapter looks at in an answer. -/
structure Answer where
  status : ℕ
  retryAfter : RetryAfter := .absent
  deriving DecidableEq

/-- What a single send of a request leads to. -/
inductive Sent (α : Type)
  /-- It is answered. -/
  | answered (a : α)
  /-- It is answered, but reading the body of the answer raises. -/
  | unread (a : α) (e : PyException)
  /-- It is redirected to where it is answered in the end. -/
  | followed (a : α)
  /-- It is not answered, and if it is not sent again this is raised. -/
  | unanswered (e : {e : PyException // e.isInstance [.connectionError, .timeout] = true})
  /-- `requests` gives it up: it cannot be sent, or it is redirected without end. -/
  | raised (e : PyException)

/-! ### The policy -/

namespace Retry

variable (retry : Retry) (method : String) {α : Type} (answerOf : α → Answer)

/-- Whether an answer is retried with the given number of re-sends left. -/
def isRetry (answer : Answer) (left : ℕ) : Bool :=
  retry.allowedMethods.contains method &&
    -- a status of the list is retried even with no re-send left: that is what exhausts
    (retry.statusForcelist.contains answer.status ||
      (left != 0 && retry.respectRetryAfterHeader && answer.retryAfter.isGiven &&
        [413, 429, 503].contains answer.status))

/-- Whether a send is answered with a retried answer, whose body is not looked at then. -/
def isRetried (sent : Sent α) (left : ℕ) : Bool :=
  match sent with
  | .answered a => retry.isRetry method (answerOf a) left
  | .unread a _ => retry.isRetry method (answerOf a) left
  | .followed _ => false
  | .unanswered _ => false
  | .raised _ => false

/-- Whether the adapter can wait before it sends again. -/
def canWait (answer : Answer) : Bool :=
  !retry.respectRetryAfterHeader || answer.retryAfter.isReadable

/-- Whether a request of an allowed method is sent again after such a send. -/
def isResent (sent : Sent α) (left : ℕ) : Bool :=
  match sent with
  | .answered a => retry.isRetry method (answerOf a) left && retry.canWait (answerOf a)
  | .unread a _ => retry.isRetry method (answerOf a) left && retry.canWait (answerOf a)
  | .followed _ => false
  | .unanswered _ => true
  | .raised _ => false

/-- What the adapter may return or raise after the last send. -/
inductive Concludes : Sent α → ℕ → Except PyException α → Prop
  /-- An answer that is not retried is returned. -/
  | answered {a left} (h : retry.isRetry method (answerOf a) left = false) :
      Concludes (.answered a) left (.ok a)
  /-- Then its body is read. -/
  | unread {a e left} (h : retry.isRetry method (answerOf a) left = false) :
      Concludes (.unread a e) left (.error e)
  | followed {a left} : Concludes (.followed a) left (.ok a)
  | unanswered {e left} : Concludes (.unanswered e) left (.error e)
  | raised {e left} : Concludes (.raised e) left (.error e)
  /-- No re-sends are left for an answer that is retried. -/
  | exhausted {sent message} (h : retry.isRetried method answerOf sent 0 = true) :
      Concludes sent 0 (.error ⟨.retryError, message⟩)
  /-- The delay before the next send cannot be read, or not be slept. -/
  | misread {sent left e} (h : retry.isRetried method answerOf sent (left + 1) = true)
      (he : e.cls ∈ [.invalidHeader, .valueError, .overflowError]) :
      Concludes sent (left + 1) (.error e)

/-- The answer that a send leads to, as the last one. -/
def kept (sent : Sent α) (left : ℕ) : Option α :=
  if retry.isRetried method answerOf sent left then none
  else
    match sent with
    | .answered a => some a
    | .unread _ _ => none
    | .followed a => some a
    | .unanswered _ => none
    | .raised _ => none

/-- What is returned does not depend on the adapter, if what is raised may. -/
theorem toOption_of_concludes {sent : Sent α} {left : ℕ} {result : Except PyException α}
    (h : retry.Concludes method answerOf sent left result) :
    result.toOption = retry.kept method answerOf sent left := by
  unfold kept
  cases h with
  | answered h => exact (if_neg (Bool.eq_false_iff.1 h)).symm
  | unread h => exact (if_neg (Bool.eq_false_iff.1 h)).symm
  | followed => rfl
  | unanswered => rfl
  | raised => rfl
  | exhausted h => exact (if_pos h).symm
  | misread h he => exact (if_pos h).symm

/-- One way to do that. -/
def conclude (sent : Sent α) (left : ℕ) : Except PyException α :=
  if retry.isRetried method answerOf sent left then
    match left with
    | 0 => .error ⟨.retryError, "Max retries exceeded (too many error responses)"⟩
    | _ + 1 => .error ⟨.invalidHeader, "Invalid Retry-After header"⟩
  else
    match sent with
    | .answered a => .ok a
    | .unread _ e => .error e
    | .followed a => .ok a
    | .unanswered e => .error e
    | .raised e => .error e

theorem concludes_conclude (sent : Sent α) (left : ℕ) :
    retry.Concludes method answerOf sent left (retry.conclude method answerOf sent left) := by
  unfold conclude
  split
  next hretried =>
    cases left with
    | zero => exact .exhausted hretried
    | succ left => exact .misread hretried List.mem_cons_self
  next hretried =>
    cases sent with
    | answered a => exact .answered (Bool.eq_false_iff.2 hretried)
    | unread a e => exact .unread (Bool.eq_false_iff.2 hretried)
    | followed a => exact .followed
    | unanswered e => exact .unanswered
    | raised e => exact .raised

end Retry

/-! ### The adapter -/

/-- The adapter of a session, for answers of which it sees `answerOf`. -/
structure HttpAdapter (ω : Type) {α : Type} (answerOf : α → Answer) where
  /-- Send `n` of a request, with the given number of re-sends left, and all that follow it. -/
  send : Retry → String → (ℕ → ω → Sent α × ω) → ℕ → ℕ → ω → Except PyException α × ω
  /-- A send that is to be repeated is repeated, and one re-send less is left then. -/
  send_resent : ∀ retry method attempt left n world, method ∈ retry.allowedMethods →
    retry.isResent method answerOf (attempt n world).1 (left + 1) = true →
      send retry method attempt (left + 1) n world =
        send retry method attempt left (n + 1) (attempt n world).2
  /-- Any other send is the last, and it concludes the request. -/
  send_last : ∀ retry method attempt left n world, method ∈ retry.allowedMethods →
    (left = 0 ∨ retry.isResent method answerOf (attempt n world).1 left = false) →
      retry.Concludes method answerOf (attempt n world).1 left
          (send retry method attempt left n world).1 ∧
        (send retry method attempt left n world).2 = (attempt n world).2

/-- An adapter for a client that looks at nothing but the status of an answer. -/
abbrev StatusAdapter (ω : Type) : Type := HttpAdapter ω (id : Answer → Answer)

section Adapter

variable {ω α : Type} {answerOf : α → Answer}

/-- The adapter makes attempts until one need not be repeated. -/
theorem HttpAdapter.resender (adapter : HttpAdapter ω answerOf) {retry : Retry} {method : String}
    (hmethod : method ∈ retry.allowedMethods) (attempt : ℕ → ω → Sent α × ω) :
    Resender attempt (retry.isResent method answerOf) (retry.Concludes method answerOf)
      (adapter.send retry method attempt) where
  resent left n world := adapter.send_resent retry method attempt left n world hmethod
  last left n world := adapter.send_last retry method attempt left n world hmethod

/-- So it does with the upserts of a session that mounts `DEFAULT_RETRY`. -/
theorem HttpAdapter.patchResender (adapter : HttpAdapter ω answerOf)
    (attempt : ℕ → ω → Sent α × ω) :
    Resender attempt (defaultRetry.isResent "PATCH" answerOf)
      (defaultRetry.Concludes "PATCH" answerOf) (adapter.send defaultRetry "PATCH" attempt) :=
  adapter.resender (by decide) attempt

/-- An adapter that does what is documented and nothing else. -/
def documentedAdapter (ω : Type) {α : Type} (answerOf : α → Answer) : HttpAdapter ω answerOf where
  send retry method attempt left n world :=
    let last := attempts attempt (retry.isResent method answerOf) left n world
    (retry.conclude method answerOf last.reply last.left, last.world)
  send_resent retry method attempt left n world _ hagain := by
    simp only [attempts, if_pos hagain]
  send_last retry method attempt left n world _ hlast := by
    have hattempts : attempts attempt (retry.isResent method answerOf) left n world =
        ⟨(attempt n world).1, (attempt n world).2, left⟩ := by
      cases left with
      | zero => rfl
      | succ left =>
        have hnot := Bool.eq_false_iff.1 (hlast.resolve_left (Nat.succ_ne_zero left))
        rw [attempts, if_neg hnot]
    rw [hattempts]
    exact ⟨retry.concludes_conclude method answerOf _ left, rfl⟩

/-- A request through a session that mounts `DEFAULT_RETRY`, where the client looks at nothing but
the status of the answer. -/
def HttpAdapter.request (adapter : StatusAdapter ω) (method : String)
    (attempt : ℕ → ω → Sent Answer × ω) (world : ω) : Except PyException Response × ω :=
  let (reply, world) := adapter.send defaultRetry method attempt defaultRetry.total 0 world
  (reply.map fun answer => ⟨answer.status⟩, world)

/-- A session that mounts `DEFAULT_RETRY` and holds a token, where `attempt i request n` is what
send `n` of the request of call `i` leads to. -/
def retrySession (adapter : StatusAdapter ω) (token : String)
    (attempt : ℕ → Request → ℕ → ω → Sent Answer × ω) : Session Unit ω where
  acquireBearerToken _ world := (.ok token, world)
  patch i request _ world := adapter.request request.method (attempt i request) world

end Adapter

/-! ### How the sends of a request end -/

/-- The last send of a request whose sends lead to this. -/
def lastSent (sent : ℕ → Sent Answer) : Last Unit (Sent Answer) :=
  attempts (fun n _ => (sent n, ())) (defaultRetry.isResent "PATCH" id) defaultRetry.total 0 ()

/-- As the last one, a send leads to an answer or to one of the failures that are counted. -/
def Sent.Settles (sent : Sent Answer) (left : ℕ) : Prop :=
  match sent with
  | .answered a => defaultRetry.isRetry "PATCH" a left = false
  | .unread a e => defaultRetry.isRetry "PATCH" a left = false ∧
    e.isInstance [.httpError, .connectionError, .timeout] = true
  | .followed _ => True
  | .unanswered _ => True
  | .raised e => e.isInstance [.httpError, .connectionError, .timeout] = true

/-- As the last one, a send leads to a 4xx or 5xx status or to an exception. -/
def Sent.EndsBadly (sent : Sent Answer) (left : ℕ) : Prop :=
  match sent with
  | .answered a =>
    defaultRetry.isRetry "PATCH" a left = true ∨ 400 ≤ a.status ∧ a.status < 600
  | .unread _ _ => True
  | .followed a => 400 ≤ a.status ∧ a.status < 600
  | .unanswered _ => True
  | .raised _ => True

/-- The sends of an upsert end in an answer or in one of the failures that are counted. -/
def Settles (sent : ℕ → Sent Answer) : Prop := (lastSent sent).reply.Settles (lastSent sent).left

/-- The sends of an upsert end in a 4xx or 5xx status or in an exception. -/
def EndsBadly (sent : ℕ → Sent Answer) : Prop :=
  (lastSent sent).reply.EndsBadly (lastSent sent).left

instance (sent : Sent Answer) (left : ℕ) : Decidable (sent.Settles left) :=
  match sent with
  | .answered a => inferInstanceAs (Decidable (defaultRetry.isRetry "PATCH" a left = false))
  | .unread a e =>
    inferInstanceAs (Decidable (defaultRetry.isRetry "PATCH" a left = false ∧
      e.isInstance [.httpError, .connectionError, .timeout] = true))
  | .followed _ => isTrue trivial
  | .unanswered _ => isTrue trivial
  | .raised e =>
    inferInstanceAs (Decidable (e.isInstance [.httpError, .connectionError, .timeout] = true))

instance (sent : Sent Answer) (left : ℕ) : Decidable (sent.EndsBadly left) :=
  match sent with
  | .answered a => inferInstanceAs (Decidable
      (defaultRetry.isRetry "PATCH" a left = true ∨ 400 ≤ a.status ∧ a.status < 600))
  | .unread _ _ => isTrue trivial
  | .followed a => inferInstanceAs (Decidable (400 ≤ a.status ∧ a.status < 600))
  | .unanswered _ => isTrue trivial
  | .raised _ => isTrue trivial

instance : DecidablePred Settles := fun sent =>
  inferInstanceAs (Decidable ((lastSent sent).reply.Settles (lastSent sent).left))

instance : DecidablePred EndsBadly := fun sent =>
  inferInstanceAs (Decidable ((lastSent sent).reply.EndsBadly (lastSent sent).left))

/-- Two answers that the adapter and `raise_for_status` treat alike. -/
def Answer.Like (a b : Answer) : Prop := a = b ∨ a.status < 400 ∧ b.status < 400

/-- Two sends whose answers are alike. -/
inductive Sent.Like : Sent Answer → Sent Answer → Prop
  | refl (sent) : Like sent sent
  | answered {a b} (h : a.Like b) : Like (.answered a) (.answered b)
  | unread {a b e} (h : a.Like b) : Like (.unread a e) (.unread b e)

/-- An answer with a status that the policy does not name is not retried, whatever its headers
say. -/
theorem isRetry_of_notMem {method : String} {answer : Answer} {left : ℕ}
    (h : answer.status ∉ [413, 429, 502, 503, 504]) :
    defaultRetry.isRetry method answer left = false := by
  simp only [List.mem_cons, List.not_mem_nil, or_false, not_or] at h
  simp [Retry.isRetry, defaultRetry, h]

theorem isRetry_of_lt {method : String} {answer : Answer} {left : ℕ} (h : answer.status < 400) :
    defaultRetry.isRetry method answer left = false := by
  apply isRetry_of_notMem
  simp only [List.mem_cons, List.not_mem_nil, or_false]
  omega

section Like

variable {a b : Answer} {sent sent' : Sent Answer} {method : String} {left : ℕ}

theorem Answer.Like.isRetry_eq (h : a.Like b) :
    defaultRetry.isRetry method a left = defaultRetry.isRetry method b left := by
  rcases h with rfl | ⟨ha, hb⟩
  · rfl
  · rw [isRetry_of_lt ha, isRetry_of_lt hb]

theorem Answer.Like.error_iff (h : a.Like b) :
    (400 ≤ a.status ∧ a.status < 600) ↔ (400 ≤ b.status ∧ b.status < 600) := by
  rcases h with rfl | ⟨ha, hb⟩
  · rfl
  · omega

theorem Answer.Like.isResent_eq (h : a.Like b) :
    (defaultRetry.isRetry method a left && defaultRetry.canWait a) =
      (defaultRetry.isRetry method b left && defaultRetry.canWait b) := by
  rcases h with rfl | ⟨ha, hb⟩
  · rfl
  · rw [isRetry_of_lt ha, isRetry_of_lt hb, Bool.false_and, Bool.false_and]

namespace Sent.Like

theorem isResent_eq (h : sent.Like sent') :
    defaultRetry.isResent method id sent left = defaultRetry.isResent method id sent' left := by
  cases h with
  | refl => rfl
  | answered h => exact h.isResent_eq
  | unread h => exact h.isResent_eq

theorem settles_iff (h : sent.Like sent') : sent.Settles left ↔ sent'.Settles left := by
  cases h with
  | refl => rfl
  | answered h => rw [Settles, Settles, h.isRetry_eq]
  | unread h => rw [Settles, Settles, h.isRetry_eq]

theorem endsBadly_iff (h : sent.Like sent') : sent.EndsBadly left ↔ sent'.EndsBadly left := by
  cases h with
  | refl => rfl
  | answered h => rw [EndsBadly, EndsBadly, h.isRetry_eq, h.error_iff]
  | unread h => rfl

end Sent.Like

end Like

/-- How a request ends for `upsert_record`: it raises what is not counted, it raises a failure that
is counted, or it returns. -/
inductive RequestEnds (settles endsBadly : Prop) : Except PyException Response → Prop
  | escapes {e} (hsettles : ¬settles)
      (he : e.isInstance [.httpError, .connectionError, .timeout] = false) :
      RequestEnds settles endsBadly (.error e)
  | fails {e} (hsettles : settles) (hbad : endsBadly)
      (he : e.isInstance [.httpError, .connectionError, .timeout] = true) :
      RequestEnds settles endsBadly (.error e)
  | returns {response} (hsettles : settles) (hgood : ¬endsBadly) :
      RequestEnds settles endsBadly (.ok response)

section Ends

variable {sent : Sent Answer} {left : ℕ} {result : Except PyException Answer}

/-- An exception is a failure that is counted, or it is not. -/
theorem requestEnds_of_error {settles endsBadly : Prop} {e : PyException} (hbad : endsBadly)
    (hsettles : settles ↔ e.isInstance [.httpError, .connectionError, .timeout] = true) :
    RequestEnds settles endsBadly (.error e) := by
  cases he : e.isInstance [.httpError, .connectionError, .timeout] with
  | false => exact .escapes (by rw [hsettles, he]; exact Bool.false_ne_true) he
  | true => exact .fails (hsettles.2 he) hbad he

/-- An answer that is returned is good or bad by its status. -/
theorem requestEnds_of_answer {settles endsBadly : Prop} {status : ℕ} (hsettles : settles)
    (hbad : endsBadly ↔ 400 ≤ status ∧ status < 600) :
    RequestEnds settles endsBadly (raiseForStatus ⟨status⟩) := by
  cases hstatus : raiseForStatus ⟨status⟩ with
  | ok response =>
    exact .returns hsettles fun h => (raiseForStatus_eq_ok.1 hstatus).2 (hbad.1 h)
  | error e =>
    obtain ⟨hrange, hclass⟩ := raiseForStatus_eq_error hstatus
    exact .fails hsettles (hbad.2 hrange) (by rw [PyException.isInstance, hclass]; rfl)

/-- A retried answer, after which nothing more is sent, does not settle the request. -/
theorem not_settles_of_isRetried (h : defaultRetry.isRetried "PATCH" id sent left = true) :
    ¬sent.Settles left := by
  intro hsettles
  cases sent with
  | answered a => exact Bool.false_ne_true (hsettles.symm.trans h)
  | unread a e => exact Bool.false_ne_true (hsettles.1.symm.trans h)
  | followed a => cases h
  | unanswered e => cases h
  | raised e => cases h

/-- Whatever the adapter makes of the last send, it is told by that send. -/
theorem requestEnds_of_concludes (h : defaultRetry.Concludes "PATCH" id sent left result) :
    RequestEnds (sent.Settles left) (sent.EndsBadly left)
      ((result.map fun answer => (⟨answer.status⟩ : Response)).bind raiseForStatus) := by
  cases h with
  | answered hretry =>
    exact requestEnds_of_answer hretry (or_iff_right (Bool.eq_false_iff.1 hretry))
  | unread hretry => exact requestEnds_of_error trivial (and_iff_right hretry)
  | followed => exact requestEnds_of_answer trivial Iff.rfl
  | @unanswered e =>
    exact .fails trivial trivial (PyException.isInstance_mono (by simp) e.property)
  | raised => exact requestEnds_of_error trivial Iff.rfl
  | exhausted hretried => exact .escapes (not_settles_of_isRetried hretried) rfl
  | misread hretried he =>
    refine .escapes (not_settles_of_isRetried hretried) ?_
    simp only [List.mem_cons, List.not_mem_nil, or_false] at he
    rcases he with he | he | he
    all_goals
      rw [PyException.isInstance, he]
      rfl

/-- So how a request ends is told by its sends alone, whatever the world makes of their answers. -/
theorem HttpAdapter.requestEnds {ω : Type} (adapter : StatusAdapter ω)
    {attempt : ℕ → ω → Sent Answer × ω} {sent : ℕ → Sent Answer}
    (hlike : ∀ n world, (attempt n world).1.Like (sent n)) (world : ω) :
    RequestEnds (Settles sent) (EndsBadly sent)
      ((adapter.request "PATCH" attempt world).1.bind raiseForStatus) := by
  obtain ⟨hconcludes, -⟩ :=
    (adapter.patchResender attempt).reports defaultRetry.total 0 world
  have hlast : (attempts attempt (defaultRetry.isResent "PATCH" id) defaultRetry.total 0
      world).reply.Like (lastSent sent).reply ∧ True ∧ _ = (lastSent sent).left :=
    attempts_correspond (W := fun _ _ => True) (fun _ _ _ hlike => hlike.isResent_eq)
      (fun n world _ _ => ⟨hlike n world, trivial⟩) defaultRetry.total 0 trivial
  obtain ⟨hreply, -, hleft⟩ := hlast
  have hends := requestEnds_of_concludes hconcludes
  rwa [propext hreply.settles_iff, propext hreply.endsBadly_iff, hleft] at hends

end Ends

section Upsert

variable {ω : Type} (client : ODataClient) (adapter : StatusAdapter ω)
  (token : String) (attempt : ℕ → Request → ℕ → ω → Sent Answer × ω) (i : ℕ) {call : UpsertCall}
  {key : String} {json : List (String × JsonValue)}

/-- An upsert of a string key with a payload that JSON can hold is one `PATCH`, sent until there is
an answer to keep. -/
theorem upsertRecord_retrySession (hkey : call.keyValue = .str key)
    (hjson : encodePayload call.payload = .ok json) :
    ∃ url, buildEntityUrl client.baseUrl call.entitySet call.alternateKeyName (.str key) =
        .ok url ∧
      ∀ world, client.upsertRecord (retrySession adapter token attempt) i call () world =
        ((adapter.request "PATCH" (attempt i ⟨"PATCH", url, client.getHeaders token, json⟩)
            world).1.bind raiseForStatus,
          (adapter.request "PATCH" (attempt i ⟨"PATCH", url, client.getHeaders token, json⟩)
            world).2) := by
  obtain ⟨url, hurl⟩ : ∃ url, buildEntityUrl client.baseUrl call.entitySet call.alternateKeyName
      call.keyValue = .ok url := ⟨_, buildEntityUrl_eq_ok.2 ⟨key, hkey, rfl⟩⟩
  refine ⟨url, hkey ▸ hurl, fun world => ?_⟩
  rw [ODataClient.upsertRecord_eq_patch hurl rfl hjson]
  rfl

end Upsert

/-- A session whose destination does not look at what it is sent: `destination i n` is what send `n`
of the request of call `i` leads to. -/
def scriptedSession (adapter : StatusAdapter Unit) (token : String)
    (destination : ℕ → ℕ → Sent Answer) : Session Unit Unit :=
  retrySession adapter token fun i _ n _ => (destination i n, ())

/-- With such a destination, how an upsert ends is told by the sends of its call. -/
theorem requestEnds_of_upsertRecord (client : ODataClient)
    (adapter : StatusAdapter Unit) (token : String)
    (destination : ℕ → ℕ → Sent Answer) (i : ℕ) {call : UpsertCall} {key : String}
    {json : List (String × JsonValue)} (hkey : call.keyValue = .str key)
    (hjson : encodePayload call.payload = .ok json) :
    RequestEnds (Settles (destination i)) (EndsBadly (destination i))
      (client.upsertRecord (scriptedSession adapter token destination) i call () ()).1 := by
  obtain ⟨url, -, hupsert⟩ := upsertRecord_retrySession client adapter token
    (fun i _ n _ => (destination i n, ())) i hkey hjson
  rw [scriptedSession, hupsert]
  exact adapter.requestEnds (fun n _ => .refl (destination i n)) ()

end Transport
