import InventorySync.Foundations.PatchStore
import InventorySync.Transport.ODataClient

/-!
# The destination as a store

The destination of the write phase: a store of records that requests patch. A request addresses a
record by the key literal of its URL. It succeeds, with status 201 exactly when it created the
record, or it fails with a 4xx or 5xx status or without an answer, and then it may or may not have
been applied.

* `Upserted`, `upserted_of_upsertRecord`: everything that an upsert can do;
* `AtMostOnce`: what is left of that when its request may be sent more than once.
-/

open Python PatchStore

namespace Transport

/-- The records of the destination, each under its business key. -/
abbrev Destination : Type := Store String String JsonValue

/-- The record that a request body describes. -/
def bodyRecord (json : List (String × JsonValue)) : Record String JsonValue :=
  fun field => json.lookup field

/-- The status of an update without a body in its answer. -/
def noContentStatus : {status : ℕ // status < 400 ∧ status ≠ 201} := ⟨204, by decide⟩

/-- The status of an error inside the destination. -/
def internalServerErrorStatus : {status : ℕ // 400 ≤ status ∧ status < 600} := ⟨500, by decide⟩

/-- The status of a destination that cannot be reached for the moment. -/
def serviceUnavailableStatus : {status : ℕ // 400 ≤ status ∧ status < 600} := ⟨503, by decide⟩

/-- A connection that failed, as the session reports it. -/
def connectionFailure (message : String) :
    {e : PyException // e.isInstance [.connectionError, .timeout] = true} :=
  ⟨⟨.connectionError, message⟩, rfl⟩

/-- What becomes of one request. -/
inductive Fate
  /-- It is applied, and if that is an update it is answered with this status. -/
  | accepted (updated : {status : ℕ // status < 400 ∧ status ≠ 201})
  /-- It is answered with this error status. -/
  | rejected (status : {status : ℕ // 400 ≤ status ∧ status < 600}) (applied : Bool)
  /-- It is not answered, and the session raises. -/
  | lost (e : {e : PyException // e.isInstance [.connectionError, .timeout] = true})
      (applied : Bool)

/-- The request succeeds. -/
def Fate.Succeeds : Fate → Prop
  | .accepted _ => True
  | .rejected _ _ => False
  | .lost _ _ => False

instance : DecidablePred Fate.Succeeds
  | .accepted _ => isTrue trivial
  | .rejected _ _ => isFalse id
  | .lost _ _ => isFalse id

/-- What a request to patch a record leads to. -/
def Fate.answer (key : String) (payload : Record String JsonValue) (world : Destination) :
    Fate → Except PyException Response × Destination
  | .accepted updated =>
    (.ok ⟨if (world key).isNone then 201 else updated⟩, patch world key payload)
  | .rejected status applied =>
    (.ok ⟨status⟩, if applied then patch world key payload else world)
  | .lost e applied => (.error e, if applied then patch world key payload else world)

/-- What a request leads to depends on the record it is for, and on no other. -/
theorem Fate.answer_congr (fate : Fate) {key : String} (payload : Record String JsonValue)
    {world world' : Destination} (h : world key = world' key) :
    (fate.answer key payload world).1 = (fate.answer key payload world').1 ∧
      (fate.answer key payload world).2 key = (fate.answer key payload world').2 key := by
  cases fate with
  | accepted updated => exact ⟨by simp only [answer, h], by simp only [answer, patch_self, h]⟩
  | rejected status applied =>
    cases applied
    · exact ⟨rfl, h⟩
    · exact ⟨rfl, by simp only [answer, if_true, patch_self, h]⟩
  | lost e applied =>
    cases applied
    · exact ⟨rfl, h⟩
    · exact ⟨rfl, by simp only [answer, if_true, patch_self, h]⟩

/-- A session that holds a token and talks to the entity set behind a URL prefix, where `fate i` is
what becomes of the request of call `i`. -/
def destinationSession (pre token : String) (fate : ℕ → Fate) : Session Unit Destination where
  acquireBearerToken _ world := (.ok token, world)
  patch i request _ world :=
    match addressedKey pre request.url with
    -- another entity set, or no key at all
    | none => (.ok ⟨404⟩, world)
    | some key => (fate i).answer key (bodyRecord request.json) world

/-- Everything that an upsert of a record can do. -/
inductive Upserted (key : String) (payload : Record String JsonValue) (world : Destination) :
    Except PyException Response → Destination → Prop
  | written {response} (hstatus : response.statusCode = 201 ↔ world key = none) :
      Upserted key payload world (.ok response) (patch world key payload)
  | failed {e world'} (he : e.isInstance [.httpError, .connectionError, .timeout] = true)
      (hworld : world' = world ∨ world' = patch world key payload) :
      Upserted key payload world (.error e) world'

/-- An upsert leaves the records under other keys alone. -/
theorem Upserted.frame {key key' : String} {payload : Record String JsonValue}
    {world world' : Destination} {reply : Except PyException Response}
    (h : Upserted key payload world reply world') (hne : key' ≠ key) :
    world' key' = world key' := by
  cases h with
  | written => exact patch_of_ne hne world payload
  | failed he hworld =>
    rcases hworld with rfl | rfl
    · rfl
    · exact patch_of_ne hne world payload

/-- What every upsert of a record comes to, also if its request is sent more than once: the record
is written once or not at all, and it is written if the call returns. -/
inductive AtMostOnce (key : String) (payload : Record String JsonValue) (world : Destination) :
    Except PyException Response → Destination → Prop
  | written {response} (hstatus : response.statusCode = 201 → world key = none) :
      AtMostOnce key payload world (.ok response) (patch world key payload)
  | failed {e world'} (hworld : world' = world ∨ world' = patch world key payload) :
      AtMostOnce key payload world (.error e) world'

section AtMostOnce

variable {key key' : String} {payload : Record String JsonValue} {world world' : Destination}
  {reply : Except PyException Response} {payloads : String → Option (Record String JsonValue)}

theorem Upserted.atMostOnce (h : Upserted key payload world reply world') :
    AtMostOnce key payload world reply world' := by
  cases h with
  | written hstatus => exact .written hstatus.1
  | failed he hworld => exact .failed hworld

namespace AtMostOnce

/-- Such an upsert leaves the records under other keys alone. -/
theorem frame (h : AtMostOnce key payload world reply world') (hne : key' ≠ key) :
    world' key' = world key' := by
  cases h with
  | written => exact patch_of_ne hne world payload
  | failed hworld =>
    rcases hworld with rfl | rfl
    · rfl
    · exact patch_of_ne hne world payload

/-- If the record is one of a table, it writes the table in part. -/
theorem partly (h : AtMostOnce key payload world reply world')
    (htable : payloads key = some payload) : Partly payloads world world' := by
  cases h with
  | written => exact partly_patch htable world
  | failed hworld =>
    rcases hworld with rfl | rfl
    · exact .refl payloads _
    · exact partly_patch htable world

/-- If it returned, the record is written as the table has it. -/
theorem written_of_ok {response : Response}
    (h : AtMostOnce key payload world (.ok response) world')
    (htable : payloads key = some payload) : world' key = writeAll payloads world key := by
  cases h with
  | written => rw [patch_self, writeAll_of_some htable]

/-- If it reports that it created the record, there was none. -/
theorem absent_of_created {response : Response}
    (h : AtMostOnce key payload world (.ok response) world') (hstatus : response.statusCode = 201) :
    world key = none := by
  cases h with
  | written hcreated => exact hcreated hstatus

end AtMostOnce

end AtMostOnce

/-- The answer to a request, once its status was looked at. -/
theorem upserted_of_answer (fate : Fate) (key : String) (payload : Record String JsonValue)
    (world : Destination) :
    Upserted key payload world ((fate.answer key payload world).1.bind raiseForStatus)
      (fate.answer key payload world).2 := by
  have happlied : ∀ applied : Bool,
      (if applied then patch world key payload else world) = world ∨
        (if applied then patch world key payload else world) = patch world key payload := by
    intro applied
    cases applied
    · exact .inl rfl
    · exact .inr rfl
  cases fate with
  | accepted updated =>
    -- whether the record is there decides between 201 and the status of an update
    obtain ⟨status, hlt, hne⟩ := updated
    cases hold : world key with
    | none =>
      have hok : raiseForStatus ⟨201⟩ = .ok ⟨201⟩ := rfl
      simp only [Fate.answer, hold, Option.isNone_none, if_true, Except.bind, hok]
      exact .written (by simp [hold])
    | some record =>
      have hok : raiseForStatus ⟨status⟩ = .ok ⟨status⟩ :=
        raiseForStatus_eq_ok.2 ⟨rfl, fun hrange => absurd hlt (Nat.not_lt.2 hrange.1)⟩
      simp only [Fate.answer, hold, Option.isNone_some, Bool.false_eq_true, if_false, Except.bind,
        hok]
      exact .written (by simp [hold, hne])
  | rejected status applied =>
    obtain ⟨status, hrange⟩ := status
    simp only [Fate.answer, Except.bind]
    cases hraise : raiseForStatus ⟨status⟩ with
    | ok response => exact absurd hrange (raiseForStatus_eq_ok.1 hraise).2
    | error e =>
      have hclass : e.cls = .httpError := (raiseForStatus_eq_error hraise).2
      exact .failed (by rw [PyException.isInstance, hclass]; rfl) (happlied applied)
  | lost e applied =>
    exact .failed (PyException.isInstance_mono (by simp) e.property) (happlied applied)

section Upsert

variable (client : ODataClient) (token : String) (fate : ℕ → Fate) (i : ℕ) (call : UpsertCall)
  {key : String} {json : List (String × JsonValue)} (world : Destination)

/-- An upsert of a string key with a payload that JSON can hold is one request for that key. -/
theorem upsertRecord_eq_answer (hkey : call.keyValue = .str key)
    (hjson : encodePayload call.payload = .ok json) :
    client.upsertRecord
        (destinationSession (urlPrefix client.baseUrl call.entitySet call.alternateKeyName) token
          fate) i call () world =
      (((fate i).answer key (bodyRecord json) world).1.bind raiseForStatus,
        ((fate i).answer key (bodyRecord json) world).2) := by
  obtain ⟨url, hurl⟩ : ∃ url, buildEntityUrl client.baseUrl call.entitySet call.alternateKeyName
      call.keyValue = .ok url := ⟨_, buildEntityUrl_eq_ok.2 ⟨key, hkey, rfl⟩⟩
  have haddressed : addressedKey (urlPrefix client.baseUrl call.entitySet call.alternateKeyName)
      url = some key := addressedKey_buildEntityUrl (hkey ▸ hurl)
  rw [ODataClient.upsertRecord_eq_patch hurl rfl hjson]
  simp only [destinationSession, haddressed]

theorem upserted_of_upsertRecord (hkey : call.keyValue = .str key)
    (hjson : encodePayload call.payload = .ok json) {reply : Except PyException Response}
    {world' : Destination}
    (h : client.upsertRecord
        (destinationSession (urlPrefix client.baseUrl call.entitySet call.alternateKeyName) token
          fate) i call () world = (reply, world')) :
    Upserted key (bodyRecord json) world reply world' := by
  rw [upsertRecord_eq_answer client token fate i call world hkey hjson, Prod.mk.injEq] at h
  obtain ⟨rfl, rfl⟩ := h
  exact upserted_of_answer (fate i) key (bodyRecord json) world

/-- A request that succeeds is answered with a response. -/
theorem exists_response_of_succeeds (hkey : call.keyValue = .str key)
    (hjson : encodePayload call.payload = .ok json) (hfate : (fate i).Succeeds) :
    ∃ response, (client.upsertRecord
        (destinationSession (urlPrefix client.baseUrl call.entitySet call.alternateKeyName) token
          fate) i call () world).1 = .ok response := by
  rw [upsertRecord_eq_answer client token fate i call world hkey hjson]
  cases hcase : fate i with
  | accepted updated =>
    obtain ⟨status, hlt, hne⟩ := updated
    refine ⟨⟨if (world key).isNone then 201 else status⟩, raiseForStatus_eq_ok.2 ⟨rfl, ?_⟩⟩
    simp only
    split <;> omega
  | rejected status applied => exact absurd hfate (by rw [hcase]; exact id)
  | lost e applied => exact absurd hfate (by rw [hcase]; exact id)

end Upsert

end Transport
