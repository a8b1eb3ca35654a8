import InventorySync.Foundations.Except
import InventorySync.Foundations.InsertionDict
import InventorySync.Transport.EntityUrl

/-!
# The OData client

`ODataClient.upsert_record`: build the alternate-key URL, acquire a token for the headers, encode
the payload as JSON, send one `PATCH` through the session, and raise for a 4xx or 5xx response. The
session is a parameter: what it does with a request depends on the environment's input `ι` and may
change the world `ω`.
-/

open Python

namespace Transport

/-- A JSON value as a payload may hold it: of the containers, these are the two that the attributes
of a row can be. -/
inductive JsonValue
  | str (s : String)
  | number (q : ℚ)
  | bool (b : Bool)
  | null
  | strings (items : List String)
  | emptyObject
  deriving DecidableEq

/-- One value of a request body as `json.dumps(_, allow_nan=False)` sees it, with the exception
that `requests` makes of a value JSON cannot hold. -/
def encodeJsonValue : PyValue → Except PyException JsonValue
  | .str s => .ok (.str s)
  | .int n => .ok (.number n)
  | .float f => .ok (.number f.value)
  | .bool b => .ok (.bool b)
  | .none => .ok .null
  -- `requests` wraps the `ValueError` of `allow_nan=False`, but not a `TypeError`
  | .nan => .error ⟨.invalidJSONError, "Out of range float values are not JSON compliant"⟩
  | .fieldNames names => .ok (.strings names)
  | .rowAttribute name =>
    if name = "_field_defaults" then .ok .emptyObject
    else .error ⟨.typeError,
      "Object of type " ++ (PyValue.rowAttribute name).typeName ++ " is not JSON serializable"⟩

/-- A payload: field-value pairs to write to the destination record. -/
abbrev Payload : Type := InsertionDict String PyValue

/-- A payload as a JSON object. -/
def encodePayload (payload : Payload) : Except PyException (List (String × JsonValue)) :=
  payload.entries.mapM fun (field, value) => do
    let encoded ← encodeJsonValue value
    return (field, encoded)

/-- The values that JSON can hold. -/
def isJson : PyValue → Bool
  | .nan => false
  | .rowAttribute name => name == "_field_defaults"
  | _ => true

theorem encodeJsonValue_eq_ok_iff {value : PyValue} :
    (∃ encoded, encodeJsonValue value = .ok encoded) ↔ isJson value = true := by
  cases value with
  | rowAttribute name =>
    -- of the other attributes of a row only the empty `dict` can be encoded
    by_cases hname : name = "_field_defaults" <;> simp [encodeJsonValue, isJson, hname]
  | _ => simp [encodeJsonValue, isJson]

/-- What `requests` raises for a value that JSON cannot hold. -/
theorem isInstance_of_encodeJsonValue_error {value : PyValue} {e : PyException}
    (h : encodeJsonValue value = .error e) :
    e.isInstance [.httpError, .connectionError, .timeout] = false := by
  cases value with
  | nan =>
    cases h
    rfl
  | rowAttribute name =>
    rw [encodeJsonValue] at h
    split at h
    · cases h
    · cases h
      rfl
  | _ => cases h

/-- A payload is a JSON object exactly when JSON can hold each of its values. -/
theorem encodePayload_eq_ok_iff {payload : Payload} :
    (∃ json, encodePayload payload = .ok json) ↔ ∀ value ∈ payload.values, isJson value = true := by
  rw [encodePayload, Except.exists_mapM_eq_ok_iff]
  constructor
  · intro h value hvalue
    obtain ⟨entry, hentry, rfl⟩ := List.mem_map.1 hvalue
    obtain ⟨_, hencode⟩ := h entry hentry
    obtain ⟨encoded, hencoded, -⟩ := Except.bind_eq_ok.1 hencode
    exact encodeJsonValue_eq_ok_iff.1 ⟨encoded, hencoded⟩
  · intro h entry hentry
    obtain ⟨encoded, hencoded⟩ := encodeJsonValue_eq_ok_iff.2 (h _ (List.mem_map_of_mem hentry))
    exact ⟨(entry.1, encoded), Except.bind_eq_ok.2 ⟨encoded, hencoded, rfl⟩⟩

/-- The fields of a JSON object are those of the payload, each encoded. -/
theorem lookup_of_encodePayload {payload : Payload} {json : List (String × JsonValue)}
    (h : encodePayload payload = .ok json) (field : String) :
    json.lookup field =
      (payload.get? field).bind fun value => (encodeJsonValue value).toOption := by
  rw [encodePayload] at h
  rw [InsertionDict.get?]
  generalize payload.entries = entries at h
  induction entries generalizing json with
  | nil =>
    cases h
    rfl
  | cons entry entries ih =>
    obtain ⟨name, value⟩ := entry
    rw [List.mapM_cons] at h
    obtain ⟨head, hhead, hrest⟩ := Except.bind_eq_ok.1 h
    obtain ⟨tail, htail, hpure⟩ := Except.bind_eq_ok.1 hrest
    obtain ⟨encoded, hencoded, hpair⟩ := Except.bind_eq_ok.1 hhead
    cases hpure
    cases hpair
    by_cases hname : field = name
    · subst hname
      rw [List.lookup_cons_self, List.lookup_cons_self, Option.bind_some, hencoded]
      rfl
    · rw [List.lookup_cons, List.lookup_cons, beq_eq_false_iff_ne.2 hname]
      exact ih htail

/-- The fields of a JSON object are those of the payload. -/
theorem fields_of_encodePayload {payload : Payload} {json : List (String × JsonValue)}
    (h : encodePayload payload = .ok json) :
    json.map Prod.fst = payload.keys := by
  rw [encodePayload] at h
  rw [InsertionDict.keys]
  generalize payload.entries = entries at h
  induction entries generalizing json with
  | nil =>
    cases h
    rfl
  | cons entry entries ih =>
    rw [List.mapM_cons] at h
    obtain ⟨head, hhead, hrest⟩ := Except.bind_eq_ok.1 h
    obtain ⟨tail, htail, hpure⟩ := Except.bind_eq_ok.1 hrest
    obtain ⟨encoded, -, hpair⟩ := Except.bind_eq_ok.1 hhead
    cases hpure
    cases hpair
    rw [List.map_cons, List.map_cons, ih htail]

/-- What `requests` raises for a payload that JSON cannot hold is no transport failure. -/
theorem isInstance_of_encodePayload_error {payload : Payload} {e : PyException}
    (h : encodePayload payload = .error e) :
    e.isInstance [.httpError, .connectionError, .timeout] = false := by
  obtain ⟨entry, -, hentry⟩ := Except.exists_error_of_mapM h
  rcases Except.bind_eq_error.1 hentry with hvalue | ⟨encoded, -, hpure⟩
  · exact isInstance_of_encodeJsonValue_error hvalue
  · cases hpure

/-- A request as it leaves the client. -/
structure Request where
  method : String
  url : String
  headers : List (String × String)
  json : List (String × JsonValue)
  deriving DecidableEq

/-- A response, as far as the client looks at it. -/
structure Response where
  statusCode : ℕ
  deriving DecidableEq

/-- `response.raise_for_status()` -/
def raiseForStatus (response : Response) : Except PyException Response :=
  if 400 ≤ response.statusCode ∧ response.statusCode < 500 then
    .error ⟨.httpError, toString response.statusCode ++ " Client Error"⟩
  else if 500 ≤ response.statusCode ∧ response.statusCode < 600 then
    .error ⟨.httpError, toString response.statusCode ++ " Server Error"⟩
  else .ok response

theorem raiseForStatus_eq_ok {response response' : Response} :
    raiseForStatus response = .ok response' ↔
      response' = response ∧ ¬(400 ≤ response.statusCode ∧ response.statusCode < 600) := by
  unfold raiseForStatus
  -- 4xx, 5xx, and neither
  split
  next h => simp only [reduceCtorEq, false_iff]; omega
  next h =>
    split
    next h' => simp only [reduceCtorEq, false_iff]; omega
    next h' =>
      rw [Except.ok.injEq, eq_comm]
      exact ⟨fun heq => ⟨heq, by omega⟩, fun heq => heq.1⟩

/-- What `raise_for_status` raises is an `HTTPError`, for a 4xx or 5xx status. -/
theorem raiseForStatus_eq_error {response : Response} {e : PyException}
    (h : raiseForStatus response = .error e) :
    (400 ≤ response.statusCode ∧ response.statusCode < 600) ∧ e.cls = .httpError := by
  unfold raiseForStatus at h
  split at h
  next hrange =>
    cases h
    exact ⟨by omega, rfl⟩
  next =>
    split at h
    next hrange =>
      cases h
      exact ⟨by omega, rfl⟩
    next => cases h

/-- The arguments of one `upsert_record` call. -/
structure UpsertCall where
  entitySet : String
  alternateKeyName : String
  keyValue : PyValue
  payload : Payload

/-- An `upsert_record` method: what the call with the given number leads to, in a given world and
for a given input of the environment. -/
abbrev Upsert (ι ω : Type) : Type :=
  ℕ → UpsertCall → ι → ω → Except PyException Response × ω

/-- The pooled session of a client and its identity provider. -/
structure Session (ι ω : Type) where
  /-- `self.acquire_bearer_token()` -/
  acquireBearerToken : ι → ω → Except PyException String × ω
  /-- `self._session.patch(...)` once the request is prepared. -/
  patch : ℕ → Request → ι → ω → Except PyException Response × ω

/-- An OData v4 client: its service root and the headers its class adds to the standard ones. -/
structure ODataClient where
  baseUrl : String
  extraHeaders : List (String × String) := []

namespace ODataClient

variable (self : ODataClient)

/-- The request headers for a token. -/
def getHeaders (token : String) : List (String × String) :=
  [("Authorization", "Bearer " ++ token), ("Content-Type", "application/json"),
    ("OData-MaxVersion", "4.0"), ("OData-Version", "4.0"), ("Accept", "application/json")] ++
    self.extraHeaders

variable {ι ω : Type}

/-- Persist a record via an idempotent OData v4 upsert (HTTP PATCH). -/
def upsertRecord (session : Session ι ω) : Upsert ι ω := fun i call inp world =>
  match buildEntityUrl self.baseUrl call.entitySet call.alternateKeyName call.keyValue with
  -- the URL is built before the headers, so a key that is no string costs no token
  | .error e => (.error e, world)
  | .ok url =>
    match session.acquireBearerToken inp world with
    | (.error e, world) => (.error e, world)
    | (.ok token, world) =>
      -- `requests` encodes the body before it sends anything
      match encodePayload call.payload with
      | .error e => (.error e, world)
      | .ok json =>
        let (reply, world) := session.patch i ⟨"PATCH", url, self.getHeaders token, json⟩ inp world
        (reply.bind raiseForStatus, world)

variable {self} {session : Session ι ω} {i : ℕ} {call : UpsertCall} {inp : ι} {world world' : ω}
  {url token : String} {json : List (String × JsonValue)}

/-- The call as it runs when nothing fails before the request is sent. -/
theorem upsertRecord_eq_patch
    (hurl : buildEntityUrl self.baseUrl call.entitySet call.alternateKeyName call.keyValue =
      .ok url)
    (htoken : session.acquireBearerToken inp world = (.ok token, world'))
    (hjson : encodePayload call.payload = .ok json) :
    self.upsertRecord session i call inp world =
      ((session.patch i ⟨"PATCH", url, self.getHeaders token, json⟩ inp world').1.bind
          raiseForStatus,
        (session.patch i ⟨"PATCH", url, self.getHeaders token, json⟩ inp world').2) := by
  simp only [upsertRecord, hurl, htoken, hjson]

/-- A payload JSON cannot hold is refused before anything is sent. -/
theorem upsertRecord_of_encodePayload_error {e : PyException}
    (hurl : buildEntityUrl self.baseUrl call.entitySet call.alternateKeyName call.keyValue =
      .ok url)
    (htoken : session.acquireBearerToken inp world = (.ok token, world'))
    (hjson : encodePayload call.payload = .error e) :
    self.upsertRecord session i call inp world = (.error e, world') := by
  simp only [upsertRecord, hurl, htoken, hjson]

end ODataClient

end Transport
