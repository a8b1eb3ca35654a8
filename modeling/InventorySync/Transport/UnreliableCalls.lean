import InventorySync.Foundations.Replay
import InventorySync.Transport.Calls
import InventorySync.Transport.Retry

/-!
# Calls over an unreliable connection

The client's session sends a `PATCH`, `GET` or `DELETE` up to four times, and each send may get lost
before or after the service has seen it. Doing again what a call says changes nothing, so a call
takes effect at most once, but what is answered the second time is not what is answered the first: a
record that was deleted is not found, and one that was created is updated.

* `accounts_of_perform`: what a call returns is what it says, or what it would say a second time, or
  it raises what happened to a send;
* `calls_take_effect_at_most_once`: every sequence of calls leaves the records that the calls that
  took effect leave, and each reply is accounted for at its place among them.
-/

open Python PatchStore Resending Replay

namespace Transport

/-! ### Sends -/

/-- A response and what its `Retry-After` header says. -/
structure Received where
  response : JsonResponse
  retryAfter : RetryAfter := .absent

/-- What the adapter looks at. -/
def Received.answer (received : Received) : Answer :=
  ⟨received.response.statusCode, received.retryAfter⟩

/-- What becomes of one send of a request. The service does not redirect. -/
inductive Delivery
  /-- It is served and answered. -/
  | served
  /-- It is served, but reading the answer raises. -/
  | unread (e : {e : PyException // e.isInstance [.requestException] = true})
  /-- It is answered with this error status instead. -/
  | failed (status : {status : ℕ // 400 ≤ status ∧ status < 600}) (retryAfter : RetryAfter)
      (applied : Bool)
  /-- It is not answered, and if it is not sent again this is raised. -/
  | lost (e : {e : PyException // e.isInstance [.connectionError, .timeout] = true})
      (applied : Bool)
  /-- `requests` gives it up. -/
  | givenUp (e : {e : PyException // e.isInstance [.requestException] = true}) (applied : Bool)

/-- Some send of a request is not served and answered. -/
def Fails (delivery : ℕ → Delivery) : Prop := ∃ n ≤ 3, delivery n ≠ .served

/-- What one send leads to, where `handle` is what the service does with it. -/
def Delivery.deliver {σ : Type} (handle : σ → JsonResponse × σ) (s : σ) :
    Delivery → Sent Received × σ
  | .served => (.answered ⟨(handle s).1, .absent⟩, (handle s).2)
  | .unread e => (.unread ⟨(handle s).1, .absent⟩ e, (handle s).2)
  | .failed status retryAfter applied =>
    (.answered ⟨⟨⟨status⟩, none⟩, retryAfter⟩, if applied then (handle s).2 else s)
  | .lost e applied => (.unanswered e, if applied then (handle s).2 else s)
  | .givenUp e applied => (.raised e, if applied then (handle s).2 else s)

def HttpRequest.method : HttpRequest → String
  | .patch request => request.method
  | .get _ => "GET"
  | .delete _ => "DELETE"

section Sends

variable {σ : Type} {handle : σ → JsonResponse × σ}

variable (handle) in
/-- A send leaves the service as it is or does what serving the request does. -/
theorem state_deliver (delivery : Delivery) (s : σ) :
    (delivery.deliver handle s).2 = s ∨ (delivery.deliver handle s).2 = (handle s).2 := by
  cases delivery with
  | served => exact .inr rfl
  | unread e => exact .inr rfl
  | failed status retryAfter applied => cases applied <;> simp [Delivery.deliver]
  | lost e applied => cases applied <;> simp [Delivery.deliver]
  | givenUp e applied => cases applied <;> simp [Delivery.deliver]

/-- A settled status is not retried. -/
theorem isRetry_of_isSettled {method : String} {response : JsonResponse} {retryAfter : RetryAfter}
    (h : IsSettled response.statusCode) (left : ℕ) :
    defaultRetry.isRetry method (Received.answer ⟨response, retryAfter⟩) left = false := by
  apply isRetry_of_notMem
  simp only [IsSettled] at h
  simp only [Received.answer, List.mem_cons, List.not_mem_nil, or_false]
  omega

/-- Something to be raised for a reply: an error status, or what the session raises itself. -/
def Interrupted : Except PyException Received → Prop
  | .ok received =>
    400 ≤ received.response.statusCode ∧ received.response.statusCode < 600
  | .error e => e.isInstance [.requestException, .valueError, .overflowError] = true

theorem isInstance_requestException {e : PyException}
    (h : e.isInstance [.connectionError, .timeout] = true) :
    e.isInstance [.requestException] = true := by
  obtain ⟨cls, message⟩ := e
  revert h
  cases cls <;> simp [PyException.isInstance, ExceptionClass.mro]

/-- A settled answer is returned. -/
theorem eq_ok_of_concludes {method : String} {response : JsonResponse} {retryAfter : RetryAfter}
    {left : ℕ} {result : Except PyException Received} (hsettled : IsSettled response.statusCode)
    (h : defaultRetry.Concludes method Received.answer (.answered ⟨response, retryAfter⟩) left
      result) : result = .ok ⟨response, retryAfter⟩ := by
  cases h with
  | answered => rfl
  | exhausted hretried =>
    rw [Retry.isRetried, isRetry_of_isSettled hsettled] at hretried
    cases hretried
  | misread hretried =>
    rw [Retry.isRetried, isRetry_of_isSettled hsettled] at hretried
    cases hretried

/-- A request whose last send was not served and answered is interrupted. -/
theorem interrupted_of_concludes {retry : Retry} {method : String} {delivery : Delivery} {s : σ}
    {left : ℕ} {result : Except PyException Received} (hne : delivery ≠ .served)
    (h : retry.Concludes method Received.answer (delivery.deliver handle s).1 left result) :
    Interrupted result := by
  have hmisread : ∀ e : PyException, e.cls ∈ [.invalidHeader, .valueError, .overflowError] →
      e.isInstance [.requestException, .valueError, .overflowError] = true := by
    rintro ⟨cls, message⟩ he
    simp only [List.mem_cons, List.not_mem_nil, or_false] at he
    rcases he with rfl | rfl | rfl
    all_goals rfl
  cases delivery with
  | served => exact absurd rfl hne
  | unread e =>
    simp only [Delivery.deliver] at h
    cases h with
    | unread => exact PyException.isInstance_mono (by simp) e.property
    | exhausted => rfl
    | misread _ he => exact hmisread _ he
  | failed status retryAfter applied =>
    simp only [Delivery.deliver] at h
    cases h with
    | answered => exact status.property
    | exhausted => rfl
    | misread _ he => exact hmisread _ he
  | lost e applied =>
    simp only [Delivery.deliver] at h
    cases h with
    | unanswered =>
      exact PyException.isInstance_mono (by simp) (isInstance_requestException e.property)
    | exhausted h => cases h
    | misread h => cases h
  | givenUp e applied =>
    simp only [Delivery.deliver] at h
    cases h with
    | raised => exact PyException.isInstance_mono (by simp) e.property
    | exhausted h => cases h
    | misread h => cases h

end Sends

section Exchange

variable {baseUrl entitySet alternateKeyName : String} {lang : QueryLanguage} {σ : Type}
  (service : Service baseUrl entitySet alternateKeyName lang σ)
  (adapter : HttpAdapter σ Received.answer) (token : String)

/-- Send a request until there is a response to keep. -/
def exchange (request : HttpRequest) (delivery : ℕ → Delivery) (s : σ) :
    Except PyException JsonResponse × σ :=
  let (reply, s) := adapter.send defaultRetry request.method
    (fun n s => (delivery n).deliver (service.serve request) s) defaultRetry.total 0 s
  (reply.map Received.response, s)

/-- The pooled session, where `delivery i n` is what becomes of send `n` of the request of call
`i`. -/
def serviceSession (delivery : ℕ → ℕ → Delivery) : RecordSession Unit σ where
  acquireBearerToken _ s := (.ok token, s)
  patch i request _ s :=
    let (reply, s) := exchange service adapter (.patch request) (delivery i) s
    (reply.map JsonResponse.toResponse, s)
  get i url _ _ s := exchange service adapter (.get url) (delivery i) s
  delete i url _ _ s :=
    let (reply, s) := exchange service adapter (.delete url) (delivery i) s
    (reply.map JsonResponse.toResponse, s)

variable {service adapter token} {call : Call} {request : HttpRequest} {delivery : ℕ → Delivery}
  {s : σ}

/-! ### One request -/

/-- What holds after so many sends of the request of a call, none of which was kept. -/
structure ResentSoFar (service : Service baseUrl entitySet alternateKeyName lang σ) (call : Call)
    (delivery : ℕ → Delivery) (s : σ) (n : ℕ) (now : σ) : Prop where
  once : service.records now = service.records s ∨
    service.records now = call.effect (service.records s)
  failed : ∀ m < n, delivery m ≠ .served
  fresh : n = 0 → now = s

theorem ResentSoFar.once_deliver {n : ℕ} {now : σ} (h : ResentSoFar service call delivery s n now)
    (hserves : service.Serves call request) :
    service.records ((delivery n).deliver (service.serve request) now).2 = service.records s ∨
      service.records ((delivery n).deliver (service.serve request) now).2 =
        call.effect (service.records s) := by
  refine once_of_idempotent call.effect_effect h.once ?_
  rcases state_deliver (service.serve request) (delivery n) now with hsame | hserved
  · exact .inl (by rw [hsame])
  · exact .inr (by rw [hserved, hserves.effect])

theorem ResentSoFar.resend {method : String} {n left : ℕ} {now : σ}
    (h : ResentSoFar service call delivery s n now) (hserves : service.Serves call request)
    (hagain : defaultRetry.isResent method Received.answer
      ((delivery n).deliver (service.serve request) now).1 left = true) :
    ResentSoFar service call delivery s (n + 1)
      ((delivery n).deliver (service.serve request) now).2 where
  once := h.once_deliver hserves
  failed m hm := by
    rcases Nat.lt_succ_iff_lt_or_eq.1 hm with hlt | rfl
    · exact h.failed m hlt
    · -- a send that was served and answered is not followed by another one
      intro hserved
      rw [hserved, Delivery.deliver, Retry.isResent, isRetry_of_isSettled (hserves.settled now)]
        at hagain
      cases hagain
  fresh hzero := absurd hzero (Nat.succ_ne_zero n)

/-- What a call that took effect or not may come to, where `fails` says whether some send failed. -/
inductive Call.Accounts (lang : QueryLanguage) (whole fails : Prop) (call : Call)
    (records : Destination) : Bool → Except PyException Reply → Prop
  /-- It returns or raises what it says. -/
  | asSaid {reply} (h : call.Says lang whole records reply) :
      call.Accounts lang whole fails records true reply
  /-- It returns or raises what it says when it is made a second time. -/
  | again (hfails : fails) {reply} (h : call.Says lang whole (call.effect records) reply) :
      call.Accounts lang whole fails records true reply
  /-- It raises what happened to a send. -/
  | interrupted (hfails : fails) (took : Bool) {e : PyException}
      (he : e.isInstance [.requestException, .valueError, .overflowError] = true) :
      call.Accounts lang whole fails records took (.error e)

/-- When a send is served and answered, the call has taken effect. The sends before it failed, and
may have taken effect or not. -/
theorem ResentSoFar.accounts_of_served {n : ℕ} {now : σ}
    (h : ResentSoFar service call delivery s n now) (hserves : service.Serves call request) :
    service.records (service.serve request now).2 = call.effect (service.records s) ∧
      call.Accounts lang service.HasWholePages (Fails delivery) (service.records s) true
        (call.read (service.serve request now).1) := by
  have hreplied := hserves.replied now
  rw [hserves.effect]
  rcases h.once with hsame | htook
  · rw [hsame] at hreplied ⊢
    exact ⟨rfl, .asSaid hreplied⟩
  · refine ⟨by rw [htook, call.effect_effect], ?_⟩
    rcases Nat.eq_zero_or_pos n with hzero | hpos
    · exact .asSaid (h.fresh hzero ▸ hreplied)
    · exact .again ⟨0, Nat.zero_le 3, h.failed 0 hpos⟩ (htook ▸ hreplied)

theorem exists_error_of_interrupted {result : Except PyException Received} (h : Interrupted result)
    (call : Call) :
    ∃ e, (result.map Received.response).bind call.read = .error e ∧
      e.isInstance [.requestException, .valueError, .overflowError] = true := by
  cases result with
  | error e => exact ⟨e, rfl, h⟩
  | ok received =>
    obtain ⟨e, he⟩ : ∃ e, raiseForStatus received.response.toResponse = .error e := by
      cases hraise : raiseForStatus received.response.toResponse with
      | error e => exact ⟨e, rfl⟩
      | ok response => exact absurd h (raiseForStatus_eq_ok.1 hraise).2
    have hcls := (raiseForStatus_eq_error he).2
    exact ⟨e, call.read_eq_error he, by rw [PyException.isInstance, hcls]; decide⟩

/-- The sends of a call's request together do what the call says or nothing, and what comes of them
is accounted for. -/
theorem accounts_of_exchange (hserves : service.Serves call request)
    (hmethod : request.method ∈ defaultRetry.allowedMethods) (delivery : ℕ → Delivery) (s : σ) :
    ∃ took : Bool,
      service.records (exchange service adapter request delivery s).2 =
        (if took then call.effect (service.records s) else service.records s) ∧
      call.Accounts lang service.HasWholePages (Fails delivery) (service.records s) took
        ((exchange service adapter request delivery s).1.bind call.read) := by
  let attempt : ℕ → σ → Sent Received × σ :=
    fun n s => (delivery n).deliver (service.serve request) s
  obtain ⟨hconcludes, hstate⟩ :=
    (adapter.resender hmethod attempt).reports defaultRetry.total 0 s
  obtain ⟨k, before, hended⟩ := exists_last attempt
    (defaultRetry.isResent request.method Received.answer) (ResentSoFar service call delivery s)
    defaultRetry.total 0 s ⟨.inl rfl, fun m hm => absurd hm (Nat.not_lt_zero m), fun _ => rfl⟩
    fun m t left hagain ht => ht.resend hserves hagain
  have hk : k ≤ 3 := hended.le
  have hbefore := hended.inv
  have hlast := hended.reply
  have hleft := hstate.trans hended.world
  simp only [Nat.zero_add] at hbefore hlast hleft
  rw [hlast] at hconcludes
  have honce : service.records (attempt k before).2 = service.records s ∨
      service.records (attempt k before).2 = call.effect (service.records s) :=
    hbefore.once_deliver hserves
  simp only [exchange]
  rw [hleft]
  generalize (adapter.send defaultRetry request.method attempt defaultRetry.total 0 s).1 = result
    at hconcludes
  generalize (attempts attempt (defaultRetry.isResent request.method Received.answer)
    defaultRetry.total 0 s).left = left at hconcludes
  by_cases hserved : delivery k = .served
  · have hsent : attempt k before = (.answered ⟨(service.serve request before).1, .absent⟩,
        (service.serve request before).2) := by
      simp only [attempt, hserved, Delivery.deliver]
    rw [hsent] at hconcludes
    rw [hsent, eq_ok_of_concludes (hserves.settled before) hconcludes]
    obtain ⟨hrecords, haccounts⟩ := hbefore.accounts_of_served hserves
    exact ⟨true, hrecords.trans (if_pos rfl).symm, haccounts⟩
  · have hfails : Fails delivery := ⟨k, hk, hserved⟩
    obtain ⟨e, he, hclass⟩ :=
      exists_error_of_interrupted (interrupted_of_concludes hserved hconcludes) call
    rw [he]
    rcases honce with hsame | htook
    · exact ⟨false, hsame, .interrupted hfails false hclass⟩
    · exact ⟨true, htook, .interrupted hfails true hclass⟩

/-! ### Calls -/

/-- Only a payload that JSON cannot hold keeps a call from making its request. -/
theorem said_of_request_error {client : ODataClient} {call : Call} {e : PyException}
    (h : call.request client entitySet alternateKeyName token = .error e) (whole : Prop)
    (records : Destination) :
    call.Says lang whole records (.error e) ∧ call.effect records = records := by
  cases call with
  | upsert key payload =>
    cases hjson : encodePayload payload with
    | error e' =>
      rw [Call.request, hjson] at h
      cases h
      exact ⟨.unsendable hjson, by simp only [Call.effect, hjson]⟩
    | ok json =>
      rw [Call.request, hjson] at h
      cases h
  | get key selectFields => cases h
  | query options => cases h
  | delete key => cases h

/-- The session of the client re-sends the requests of all calls. -/
theorem method_mem_of_request {client : ODataClient} {call : Call} {request : HttpRequest}
    (h : call.request client entitySet alternateKeyName token = .ok request) :
    request.method ∈ defaultRetry.allowedMethods := by
  cases call with
  | upsert key payload =>
    cases hjson : encodePayload payload with
    | error e =>
      rw [Call.request, hjson] at h
      cases h
    | ok json =>
      rw [Call.request, hjson] at h
      cases h
      simp [HttpRequest.method, defaultRetry]
  | get key selectFields =>
    cases h
    simp [HttpRequest.method, defaultRetry]
  | query options =>
    cases h
    simp [HttpRequest.method, defaultRetry]
  | delete key =>
    cases h
    simp [HttpRequest.method, defaultRetry]

section Perform

variable {client : ODataClient} (hbase : client.baseUrl = baseUrl)

include hbase

/-- A call gets as far as its request, and makes of the response what it does. -/
theorem perform_eq_read (delivery : ℕ → ℕ → Delivery) (i : ℕ) (call : Call) (s : σ) :
    client.perform (serviceSession service adapter token delivery) entitySet alternateKeyName i () s
        call =
      match call.request client entitySet alternateKeyName token with
      | .error e => (.error e, s)
      | .ok request =>
        ((exchange service adapter request (delivery i) s).1.bind call.read,
          (exchange service adapter request (delivery i) s).2) := by
  subst hbase
  cases call with
  | upsert key payload =>
    cases hjson : encodePayload payload with
    | error e =>
      simp only [ODataClient.perform, ODataClient.upsertRecord, buildEntityUrl_recordUrl,
        serviceSession, hjson, Call.request]
      rfl
    | ok json =>
      have hread : ∀ reply : Except PyException JsonResponse,
          ((reply.map JsonResponse.toResponse).bind raiseForStatus).map
            (fun response => Reply.response response.statusCode) =
              reply.bind (Call.upsert key payload).read := by
        rintro (e | response) <;> rfl
      simp only [ODataClient.perform, ODataClient.upsertRecord, buildEntityUrl_recordUrl,
        serviceSession, hjson, Call.request, hread]
      rfl
  | get key selectFields =>
    have hread : ∀ reply : Except PyException JsonResponse,
        (reply.bind fun response => (raiseForStatus response.toResponse).bind fun _ =>
          response.json).map Reply.body = reply.bind (Call.get key selectFields).read := by
      rintro (e | response) <;> rfl
    simp only [ODataClient.perform, ODataClient.getRecord, ODataClient.withHeaders,
      buildEntityUrl_recordUrl, serviceSession, Call.request, hread]
  | query options =>
    have hread : ∀ reply : Except PyException JsonResponse,
        (reply.bind fun response => (raiseForStatus response.toResponse).bind fun _ =>
          response.json.bind Body.getValue).map Reply.body =
            reply.bind (Call.query options).read := by
      rintro (e | response) <;> rfl
    simp only [ODataClient.perform, ODataClient.queryRecords, ODataClient.withHeaders,
      serviceSession, Call.request, hread]
  | delete key =>
    have hread : ∀ reply : Except PyException JsonResponse,
        ((reply.map JsonResponse.toResponse).bind raiseForStatus).map
          (fun response => Reply.response response.statusCode) =
            reply.bind (Call.delete key).read := by
      rintro (e | response) <;> rfl
    simp only [ODataClient.perform, ODataClient.deleteRecord, ODataClient.withHeaders,
      buildEntityUrl_recordUrl, serviceSession, Call.request, hread]

variable (service adapter token) in
theorem accounts_of_perform (hplain : IsPlain (urlPrefix baseUrl entitySet alternateKeyName))
    (delivery : ℕ → ℕ → Delivery) (i : ℕ) (call : Call) (s : σ) :
    ∃ took : Bool,
      service.records (client.perform (serviceSession service adapter token delivery) entitySet
          alternateKeyName i () s call).2 =
        (if took then call.effect (service.records s) else service.records s) ∧
      call.Accounts lang service.HasWholePages (Fails (delivery i)) (service.records s) took
        (client.perform (serviceSession service adapter token delivery) entitySet
          alternateKeyName i () s call).1 := by
  rw [perform_eq_read hbase]
  cases hrequest : call.request client entitySet alternateKeyName token with
  | error e =>
    obtain ⟨hsaid, heffect⟩ :=
      said_of_request_error hrequest service.HasWholePages (service.records s)
    exact ⟨true, by rw [heffect, if_pos rfl], .asSaid hsaid⟩
  | ok request =>
    exact accounts_of_exchange (service.serves_of_request hbase hplain hrequest)
      (method_mem_of_request hrequest) (delivery i) s

/-- Whatever becomes of the sends, every sequence of calls takes effect call by call at most once
and in order: the records are those that the calls that took effect leave. What a call returns or
raises is what it says of the records at its place. Only if some of its sends failed it may be what
the call says when it is made twice, or what happened to the send. -/
theorem calls_take_effect_at_most_once
    (service : Service baseUrl entitySet alternateKeyName lang σ)
    (adapter : HttpAdapter σ Received.answer) (token : String)
    (hplain : IsPlain (urlPrefix baseUrl entitySet alternateKeyName))
    (delivery : ℕ → ℕ → Delivery) (calls : List Call) (s : σ) :
    let session := serviceSession service adapter token delivery
    let (replies, s') := runCalls (fun i call s =>
      client.perform session entitySet alternateKeyName i () s call) 0 calls s
    ∃ took : ℕ → Bool,
      service.records s' = replay Call.effect took calls (service.records s) ∧
      replies.length = calls.length ∧
      ∀ j (call : Call) reply, calls[j]? = some call → replies[j]? = some reply →
        call.Accounts lang service.HasWholePages (Fails (delivery j))
          (replay Call.effect took (calls.take j) (service.records s)) (took j) reply := by
  obtain ⟨took, hrecords, hlength, hreplies⟩ := exists_replay
    (P := fun i took (call : Call) records reply =>
      call.Accounts lang service.HasWholePages (Fails (delivery i)) records took reply)
    (accounts_of_perform service adapter token hbase hplain delivery) 0 calls s
  refine ⟨took, hrecords, hlength, fun j call reply hcall hreply => ?_⟩
  have haccounts := hreplies j call reply hcall hreply
  rwa [Nat.zero_add] at haccounts

end Perform

end Exchange

/-- Every first send is served without its answer arriving, and every second one is answered. -/
def firstSendUnanswered : ℕ → ℕ → Delivery := fun _ n =>
  if n = 0 then .lost ⟨⟨.readTimeout, "Read timed out. (read timeout=30)"⟩, rfl⟩ true else .served

def plainClient : ODataClient where
  baseUrl := "https://org.crm.dynamics.com/api/data/v9.2"

def oneProduct : Table := .ofPairs [("A", .ofPairs [("price", .number 3)])]

/-- A filter keeps the record whose key it is. -/
def isKey (filter : List Char) (entry : Entry) : Bool := filter == entry.1.toList

/-- A service with such filters. -/
def plainService : Service plainClient.baseUrl "products" "sku" (tableLanguage isKey) Table :=
  tableService plainClient.baseUrl "products" "sku" isKey

/-- A price is corrected and read, the record is queried, and it is deleted twice. -/
def productCalls : List Call :=
  [.upsert "A" (.ofPairs [("price", .int 4)]), .get "A" (some ["price"]),
    .query { odataFilter := some "A", top := some 1 }, .delete "A", .delete "A"]

/-- Every first answer is lost. -/
theorem calls_take_effect_at_most_once_productCalls :
    let session := serviceSession plainService (documentedAdapter Table Received.answer) "token"
      firstSendUnanswered
    let (replies, table) := runCalls (fun i call table =>
      plainClient.perform session "products" "sku" i () table call) 0 productCalls oneProduct
    ∃ took : ℕ → Bool,
      plainService.records table =
        replay Call.effect took productCalls (plainService.records oneProduct) ∧
      replies.length = 5 ∧
      ∀ j (call : Call) reply, productCalls[j]? = some call → replies[j]? = some reply →
        call.Accounts (tableLanguage isKey) plainService.HasWholePages
          (Fails (firstSendUnanswered j))
          (replay Call.effect took (productCalls.take j) (plainService.records oneProduct)) (took j)
          reply :=
  calls_take_effect_at_most_once rfl plainService (documentedAdapter Table Received.answer) "token"
    ⟨by decide, by decide⟩ firstSendUnanswered productCalls oneProduct

end Transport
