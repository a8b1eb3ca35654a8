import InventorySync.Transport.Destination
import InventorySync.Transport.Retry

/-!
# Requests on the wire

`DEFAULT_RETRY` at work: a request is sent, and sent again when it is not answered or with an answer
that the policy retries. Every single send may or may not be applied by the destination, also those
whose answer never arrives. A `PATCH` that is applied again applies the same result, so all sends of
an upsert together write its record once or not at all (`atMostOnce_of_request`). What the re-sends
do change is the answer: a record that an earlier send created is there when the last one arrives
(`unreported_of_updated`).

* `requestEnds_of_deliver`: what the destination holds has no part in how the sends of a request
  end;
* `exists_response_of_recovers`: up to three transient failures do not show.
-/

open Python PatchStore Resending

namespace Transport

/-- What becomes of one send: its fate, and what its answer, if there is one, looks like to the
adapter. The destination does not redirect. -/
structure Sending where
  fate : Fate
  retryAfter : RetryAfter := .absent
  /-- What reading the body of the answer raises, if it breaks off. -/
  unread : Option PyException := none

/-- The destination and how often something was sent to it. -/
structure Wire where
  destination : Destination
  sends : ℕ

/-- Whether the destination applies the send. -/
def Fate.isApplied : Fate → Bool
  | .accepted _ => true
  | .rejected _ applied => applied
  | .lost _ applied => applied

namespace Sending

variable (sending : Sending)

/-- An answer, the whole of it or not. -/
def arrive (answer : Answer) : Sent Answer :=
  match sending.unread with
  | none => .answered answer
  | some e => .unread answer e

/-- What the sender is told, depending on whether there was a record before. -/
def reply (absent : Bool) : Sent Answer :=
  match sending.fate with
  | .accepted updated => sending.arrive ⟨if absent then 201 else updated, sending.retryAfter⟩
  | .rejected status _ => sending.arrive ⟨status, sending.retryAfter⟩
  | .lost e _ => .unanswered e

/-- What one send leads to. -/
def deliver (key : String) (payload : Record String JsonValue) (wire : Wire) :
    Sent Answer × Wire :=
  (sending.reply (wire.destination key).isNone,
    ⟨(sending.fate.answer key payload wire.destination).2, wire.sends + 1⟩)

/-- The send is applied, and the sender is told so. -/
def Succeeds : Prop := sending.fate.Succeeds ∧ sending.unread = none

instance : DecidablePred Succeeds := fun sending =>
  inferInstanceAs (Decidable (sending.fate.Succeeds ∧ sending.unread = none))

/-- Whether it is applied and the sender is not told so. -/
def isUnreported : Bool :=
  match sending.fate with
  | .accepted _ => sending.unread.isSome
  | .rejected _ applied => applied
  | .lost _ applied => applied

end Sending

/-- A session that mounts `DEFAULT_RETRY`, holds a token, and talks to the entity set behind a URL
prefix, where `sending i n` is what becomes of send `n` of the request of call `i`. -/
def wireSession (adapter : StatusAdapter Wire) (pre token : String)
    (sending : ℕ → ℕ → Sending) : Session Unit Wire :=
  retrySession adapter token fun i request n wire =>
    match addressedKey pre request.url with
    -- another entity set, or no key at all
    | none => (.answered ⟨404, .absent⟩, { wire with sends := wire.sends + 1 })
    | some key => (sending i n).deliver key (bodyRecord request.json) wire

section Deliver

variable {sending : Sending} {key : String} {payload : Record String JsonValue} {wire : Wire}

/-- A send is applied or it is not. -/
theorem destination_deliver : (sending.deliver key payload wire).2.destination =
    if sending.fate.isApplied then patch wire.destination key payload else wire.destination := by
  obtain ⟨fate, retryAfter, unread⟩ := sending
  cases fate with
  | accepted updated => rfl
  | rejected status applied => cases applied <;> rfl
  | lost e applied => cases applied <;> rfl

theorem exists_accepted_of_succeeds (h : sending.Succeeds) :
    ∃ updated, sending.fate = .accepted updated := by
  obtain ⟨hfate, -⟩ := h
  cases hcase : sending.fate with
  | accepted updated => exact ⟨updated, rfl⟩
  | rejected status applied => exact absurd hfate (by rw [hcase]; exact id)
  | lost e applied => exact absurd hfate (by rw [hcase]; exact id)

/-- A send that succeeds is applied. -/
theorem isApplied_of_succeeds (h : sending.Succeeds) : sending.fate.isApplied = true := by
  obtain ⟨updated, hfate⟩ := exists_accepted_of_succeeds h
  rw [hfate]
  rfl

/-- A send that is answered was accepted, or it was answered with an error status. -/
theorem answer_of_reply {absent : Bool} {answer : Answer}
    (h : sending.reply absent = .answered answer) :
    (sending.Succeeds ∧ answer.status < 400 ∧ (answer.status = 201 ↔ absent = true)) ∨
      (400 ≤ answer.status ∧ answer.status < 600) := by
  obtain ⟨fate, retryAfter, unread⟩ := sending
  cases fate with
  | accepted updated =>
    obtain ⟨status, hlt, hne⟩ := updated
    cases unread with
    | none =>
      cases h
      cases absent with
      | true => exact .inl ⟨⟨trivial, rfl⟩, by simp, by simp⟩
      | false => exact .inl ⟨⟨trivial, rfl⟩, by simpa using hlt, by simpa using hne⟩
    | some e => cases h
  | rejected status applied =>
    obtain ⟨status, hrange⟩ := status
    cases unread with
    | none =>
      cases h
      exact .inr hrange
    | some e => cases h
  | lost e applied => cases h

/-- No send is redirected. -/
theorem reply_ne_followed {absent : Bool} {answer : Answer} :
    sending.reply absent ≠ .followed answer := by
  intro h
  obtain ⟨fate, retryAfter, unread⟩ := sending
  cases fate with
  | accepted updated => cases unread <;> cases h
  | rejected status applied => cases unread <;> cases h
  | lost e applied => cases h

/-- What the sends of a request lead to, if the record that they are for is there before. -/
def sentOf (sending : ℕ → Sending) : ℕ → Sent Answer := fun n => (sending n).reply false

/-- Whether there was a record before makes no difference to the adapter. -/
theorem like_reply (sending : Sending) (absent absent' : Bool) :
    (sending.reply absent).Like (sending.reply absent') := by
  obtain ⟨fate, retryAfter, unread⟩ := sending
  cases fate with
  | accepted updated =>
    have hlike : Answer.Like ⟨if absent then 201 else updated, retryAfter⟩
        ⟨if absent' then 201 else updated, retryAfter⟩ := by
      have hlt : ∀ b : Bool, (if b = true then 201 else updated.val) < 400 := by
        intro b
        have := updated.property.1
        split <;> omega
      exact .inr ⟨hlt absent, hlt absent'⟩
    cases unread with
    | none => exact .answered hlike
    | some e => exact .unread hlike
  | rejected status applied => exact .refl _
  | lost e applied => exact .refl _

/-- An accepted send is not sent again. -/
theorem isResent_of_accepted {updated : {status : ℕ // status < 400 ∧ status ≠ 201}}
    (h : sending.fate = .accepted updated) (absent : Bool) (left : ℕ) :
    defaultRetry.isResent "PATCH" id (sending.reply absent) left = false := by
  obtain ⟨fate, retryAfter, unread⟩ := sending
  obtain rfl : fate = .accepted updated := h
  have hretry : defaultRetry.isRetry "PATCH" ⟨if absent then 201 else updated, retryAfter⟩ left =
      false := by
    refine isRetry_of_lt ?_
    have := updated.property.1
    simp only
    split <;> omega
  have hresent : (defaultRetry.isRetry "PATCH" ⟨if absent then 201 else updated, retryAfter⟩ left &&
      defaultRetry.canWait ⟨if absent then 201 else updated, retryAfter⟩) = false := by
    rw [hretry, Bool.false_and]
  cases unread with
  | none => exact hresent
  | some e => exact hresent

/-- A send after which another one follows was applied only if its sender was not told. -/
theorem isApplied_of_resent {absent : Bool} {left : ℕ}
    (h : defaultRetry.isResent "PATCH" id (sending.reply absent) left = true) :
    sending.fate.isApplied = sending.isUnreported := by
  cases hfate : sending.fate with
  | accepted updated =>
    rw [isResent_of_accepted hfate] at h
    cases h
  | rejected status applied => simp only [Fate.isApplied, Sending.isUnreported, hfate]
  | lost e applied => simp only [Fate.isApplied, Sending.isUnreported, hfate]

/-- A send that is not applied is not applied without its sender being told. -/
theorem isUnreported_of_unapplied (h : sending.fate.isApplied = false) :
    sending.isUnreported = false := by
  obtain ⟨fate, retryAfter, unread⟩ := sending
  cases fate with
  | accepted updated => cases h
  | rejected status applied => exact h
  | lost e applied => exact h

/-- What holds after so many sends of a request: its record is written or it is not. -/
structure SentSoFar (sending : ℕ → Sending) (key : String) (payload : Record String JsonValue)
    (wire : Wire) (n : ℕ) (now : Wire) : Prop where
  once : now.destination = wire.destination ∨
    now.destination = patch wire.destination key payload
  /-- It is not written as long as no send is applied without its sender being told. -/
  unreported : (∀ m < n, (sending m).isUnreported = false) →
    now.destination = wire.destination
  sends : now.sends = wire.sends + n

namespace SentSoFar

variable {sending : ℕ → Sending} {n : ℕ} {now : Wire}

theorem once_deliver (h : SentSoFar sending key payload wire n now) :
    ((sending n).deliver key payload now).2.destination = wire.destination ∨
      ((sending n).deliver key payload now).2.destination =
        patch wire.destination key payload := by
  refine once_of_idempotent (f := fun world => patch world key payload)
    (fun world => patch_patch world key payload) h.once ?_
  rw [destination_deliver]
  cases (sending n).fate.isApplied
  · exact .inl rfl
  · exact .inr rfl

theorem sends_deliver (h : SentSoFar sending key payload wire n now) :
    ((sending n).deliver key payload now).2.sends = wire.sends + (n + 1) := by
  change now.sends + 1 = _
  rw [h.sends, Nat.add_assoc]

theorem resend (h : SentSoFar sending key payload wire n now) {left : ℕ}
    (hagain :
      defaultRetry.isResent "PATCH" id ((sending n).deliver key payload now).1 left = true) :
    SentSoFar sending key payload wire (n + 1) ((sending n).deliver key payload now).2 where
  once := h.once_deliver
  unreported hnone := by
    rw [destination_deliver, isApplied_of_resent hagain, hnone n (Nat.lt_succ_self n)]
    exact h.unreported fun m hm => hnone m (Nat.lt_succ_of_lt hm)
  sends := h.sends_deliver

end SentSoFar

/-- Everything that the sends of a request lead to: there was a last one, and if the request returns
a response, then that send succeeded. -/
theorem exists_last_of_request (adapter : StatusAdapter Wire)
    (sending : ℕ → Sending) (key : String) (payload : Record String JsonValue) (wire : Wire) :
    ∃ k ≤ 3, ∃ before, SentSoFar sending key payload wire k before ∧
      (adapter.request "PATCH" (fun n => (sending n).deliver key payload) wire).2 =
        ((sending k).deliver key payload before).2 ∧
      ∀ response, (adapter.request "PATCH" (fun n => (sending n).deliver key payload)
          wire).1.bind raiseForStatus = .ok response →
        (sending k).Succeeds ∧ (response.statusCode = 201 ↔ before.destination key = none) := by
  obtain ⟨hconcludes, hwire⟩ := (adapter.patchResender fun n => (sending n).deliver key
    payload).reports defaultRetry.total 0 wire
  obtain ⟨k, before, hended⟩ := exists_last (fun n => (sending n).deliver key payload)
    (defaultRetry.isResent "PATCH" id) (SentSoFar sending key payload wire) defaultRetry.total 0
    wire ⟨.inl rfl, fun _ => rfl, rfl⟩ fun m w _ hagain hw => hw.resend hagain
  have hinv := hended.inv
  have hlast := hended.reply
  have hworld := hwire.trans hended.world
  simp only [Nat.zero_add] at hinv hlast hworld
  refine ⟨k, hended.le, before, hinv, hworld, fun response hresponse => ?_⟩
  rw [hlast] at hconcludes
  simp only [HttpAdapter.request] at hresponse
  -- the last send was answered, and an error status would have been raised
  generalize hreply : (adapter.send defaultRetry "PATCH" (fun n => (sending n).deliver key payload)
    defaultRetry.total 0 wire).1 = result at hconcludes hresponse
  generalize hsent : ((sending k).deliver key payload before).1 = sent at hconcludes
  generalize (attempts (fun n => (sending n).deliver key payload)
    (defaultRetry.isResent "PATCH" id) defaultRetry.total 0 wire).left = left at hconcludes
  cases hconcludes with
  | @answered answer =>
    obtain ⟨rfl, hrange⟩ := raiseForStatus_eq_ok.1 hresponse
    rcases answer_of_reply hsent with ⟨hsucceeds, -, hcreated⟩ | herror
    · exact ⟨hsucceeds, hcreated.trans Option.isNone_iff_eq_none⟩
    · exact absurd herror hrange
  | unread => cases hresponse
  | followed => exact absurd hsent reply_ne_followed
  | unanswered => cases hresponse
  | raised => cases hresponse
  | exhausted => cases hresponse
  | misread => cases hresponse

section Request

variable (adapter : StatusAdapter Wire) (sending : ℕ → Sending) (key : String)
  (payload : Record String JsonValue) (wire : Wire)

/-- All sends of a request together write its record once or not at all. -/
theorem atMostOnce_of_request :
    AtMostOnce key payload wire.destination
      ((adapter.request "PATCH" (fun n => (sending n).deliver key payload) wire).1.bind
        raiseForStatus)
      (adapter.request "PATCH" (fun n => (sending n).deliver key payload) wire).2.destination := by
  obtain ⟨k, -, before, hbefore, hworld, hreply⟩ :=
    exists_last_of_request adapter sending key payload wire
  cases hcase : (adapter.request "PATCH" (fun n => (sending n).deliver key payload) wire).1.bind
      raiseForStatus with
  | error e => exact .failed (hworld ▸ hbefore.once_deliver)
  | ok response =>
    -- the send that was answered was applied, so the record is written now
    obtain ⟨hsucceeds, hcreated⟩ := hreply response hcase
    have hdestination : (adapter.request "PATCH" (fun n => (sending n).deliver key payload)
        wire).2.destination = patch before.destination key payload := by
      rw [hworld, destination_deliver, if_pos (isApplied_of_succeeds hsucceeds)]
    rcases hbefore.once with hnew | hagain
    · rw [hdestination, hnew]
      exact .written fun h201 => hnew ▸ hcreated.1 h201
    · rw [hdestination, hagain, patch_patch]
      refine .written fun h201 => ?_
      have hnone := hcreated.1 h201
      rw [hagain, patch_self] at hnone
      cases hnone

/-- There are at most four of them. -/
theorem sends_of_request :
    (adapter.request "PATCH" (fun n => (sending n).deliver key payload) wire).2.sends ≤
      wire.sends + 4 := by
  obtain ⟨k, hk, before, hbefore, hworld, -⟩ :=
    exists_last_of_request adapter sending key payload wire
  rw [hworld, hbefore.sends_deliver]
  omega

/-- What the destination holds has no part in how they end. -/
theorem requestEnds_of_deliver :
    RequestEnds (Settles (sentOf sending))
      (EndsBadly (sentOf sending))
      ((adapter.request "PATCH" (fun n => (sending n).deliver key payload) wire).1.bind
        raiseForStatus) :=
  adapter.requestEnds (fun n _ => like_reply (sending n) _ false) wire

/-- They see no other record than their own. -/
theorem request_congr {wire' : Wire} (hsame : wire.destination key = wire'.destination key) :
    (adapter.request "PATCH" (fun n => (sending n).deliver key payload) wire).1.toOption =
        (adapter.request "PATCH" (fun n => (sending n).deliver key payload) wire').1.toOption ∧
      (adapter.request "PATCH" (fun n => (sending n).deliver key payload) wire).2.destination key =
        (adapter.request "PATCH" (fun n => (sending n).deliver key payload) wire').2.destination
          key := by
  have hresender := adapter.patchResender fun n => (sending n).deliver key payload
  obtain ⟨hconcludes, hworld⟩ := hresender.reports defaultRetry.total 0 wire
  obtain ⟨hconcludes', hworld'⟩ := hresender.reports defaultRetry.total 0 wire'
  have hsends : ∀ n (wire wire' : Wire), wire.destination key = wire'.destination key →
      ((sending n).deliver key payload wire).1 = ((sending n).deliver key payload wire').1 ∧
        ((sending n).deliver key payload wire).2.destination key =
          ((sending n).deliver key payload wire').2.destination key := by
    intro n wire wire' hsame
    exact ⟨congrArg (fun old : Option (Record String JsonValue) => (sending n).reply old.isNone)
      hsame, ((sending n).fate.answer_congr payload hsame).2⟩
  obtain ⟨hreply, hdestination, hleft⟩ := attempts_correspond (R := Eq)
    (fun r _ left heq => congrArg (defaultRetry.isResent "PATCH" id · left) heq) hsends
    defaultRetry.total 0 hsame
  have hanswer := Retry.toOption_of_concludes _ _ _ hconcludes
  rw [hreply, hleft, ← Retry.toOption_of_concludes _ _ _ hconcludes'] at hanswer
  refine ⟨?_, ?_⟩
  · rw [HttpAdapter.request, HttpAdapter.request, Except.toOption_map, Except.toOption_map, hanswer]
  · exact (congrArg (fun wire : Wire => wire.destination key) hworld).trans
      (hdestination.trans (congrArg (fun wire : Wire => wire.destination key) hworld').symm)

variable {adapter sending key payload wire}

/-- A request of which no send succeeds returns no response. -/
theorem request_ne_ok (hdead : ∀ n, ¬(sending n).Succeeds) (response : Response) :
    (adapter.request "PATCH" (fun n => (sending n).deliver key payload) wire).1.bind
      raiseForStatus ≠ .ok response := by
  obtain ⟨k, -, before, -, -, hreply⟩ := exists_last_of_request adapter sending key payload wire
  exact fun hresponse => hdead k (hreply response hresponse).1

/-- If no send of a request is applied, the destination stays as it is. -/
theorem destination_of_request (hunapplied : ∀ n, (sending n).fate.isApplied = false) :
    (adapter.request "PATCH" (fun n => (sending n).deliver key payload) wire).2.destination =
      wire.destination := by
  obtain ⟨k, -, before, hbefore, hworld, -⟩ :=
    exists_last_of_request adapter sending key payload wire
  rw [hworld, destination_deliver, hunapplied k]
  refine hbefore.unreported fun m _ => ?_
  exact isUnreported_of_unapplied (hunapplied m)

/-- A record that was not there is reported as updated only if one of the earlier sends was applied
and its sender was not told. -/
theorem unreported_of_updated {response : Response}
    (hresponse : (adapter.request "PATCH" (fun n => (sending n).deliver key payload)
      wire).1.bind raiseForStatus = .ok response)
    (hupdated : response.statusCode ≠ 201) (habsent : wire.destination key = none) :
    ∃ n < 3, (sending n).isUnreported = true := by
  obtain ⟨k, hk, before, hbefore, -, hreply⟩ :=
    exists_last_of_request adapter sending key payload wire
  by_contra hnone
  have hreported : ∀ m < k, (sending m).isUnreported = false := by
    intro m hm
    rw [Bool.eq_false_iff]
    exact fun hunreported => hnone ⟨m, by omega, hunreported⟩
  have hsame := hbefore.unreported hreported
  exact hupdated ((hreply response hresponse).2.2 (hsame ▸ habsent))

end Request

/-! ### Failures that pass -/

/-- A send that is sent again as long as re-sends are left: it is not answered, or with a status of
`DEFAULT_RETRY` and no unreadable `Retry-After`. -/
def Sending.Transient (sending : Sending) : Prop :=
  match sending.fate with
  | .accepted _ => False
  | .rejected status _ =>
    status.val ∈ [429, 502, 503, 504] ∧ sending.retryAfter.isReadable = true
  | .lost _ _ => True

/-- Up to three sends of a request come to nothing for now, and the next one succeeds. -/
def Recovers (sending : ℕ → Sending) : Prop :=
  ∃ k ≤ 3, (∀ m < k, (sending m).Transient) ∧ (sending k).Succeeds

theorem isResent_of_transient {absent : Bool} {left : ℕ} (h : sending.Transient) :
    defaultRetry.isResent "PATCH" id (sending.reply absent) left = true := by
  obtain ⟨fate, retryAfter, unread⟩ := sending
  cases fate with
  | accepted updated => exact absurd h id
  | rejected status applied =>
    obtain ⟨status, hrange⟩ := status
    obtain ⟨hstatus, hreadable⟩ := h
    have hforce : [429, 502, 503, 504].contains status = true := List.contains_iff_mem.2 hstatus
    have hresent : (defaultRetry.isRetry "PATCH" ⟨status, retryAfter⟩ left &&
        defaultRetry.canWait ⟨status, retryAfter⟩) = true := by
      simp only [Retry.isRetry, Retry.canWait, defaultRetry, hforce] at hreadable ⊢
      rw [hreadable]
      rfl
    cases unread with
    | none => exact hresent
    | some e => exact hresent
  | lost e applied => rfl

/-- A send that succeeds settles its request well. -/
theorem settles_of_succeeds (h : sending.Succeeds) (left : ℕ) :
    (sending.reply false).Settles left ∧ ¬(sending.reply false).EndsBadly left := by
  obtain ⟨fate, retryAfter, unread⟩ := sending
  obtain ⟨hfate, hunread⟩ := h
  obtain rfl : unread = none := hunread
  cases fate with
  | accepted updated =>
    have hlt : updated.val < 400 := updated.property.1
    have hretry := @isRetry_of_lt "PATCH" ⟨updated.val, retryAfter⟩ left hlt
    refine ⟨hretry, ?_⟩
    rintro (hbad | ⟨hle, -⟩)
    · cases hretry.symm.trans hbad
    · exact absurd hlt (Nat.not_lt.2 hle)
  | rejected status applied => exact absurd hfate id
  | lost e applied => exact absurd hfate id

/-- The sends of a request that recovers settle well. -/
theorem settles_of_recovers {sending : ℕ → Sending} (h : Recovers sending) :
    Settles (sentOf sending) ∧ ¬EndsBadly (sentOf sending) := by
  obtain ⟨k, hk, htransient, hsucceeds⟩ := h
  obtain ⟨_, hlast⟩ := attempts_eq_of_repeated
    (fun n (_ : Unit) => ((sending n).reply false, ())) (defaultRetry.isResent "PATCH" id)
    (n := 0) hk (fun m hm _ => by rw [Nat.zero_add]; exact isResent_of_transient (htransient m hm))
    (fun _ => by
      obtain ⟨updated, hfate⟩ := exists_accepted_of_succeeds hsucceeds
      rw [Nat.zero_add]
      exact isResent_of_accepted hfate false _) ()
  rw [Nat.zero_add] at hlast
  have hsent : lastSent (sentOf sending) =
      ⟨(sending k).reply false, (), 3 - k⟩ := hlast
  rw [Settles, EndsBadly, hsent]
  exact settles_of_succeeds hsucceeds (3 - k)

/-- A request that recovers is answered with a response. -/
theorem exists_response_of_recovers (adapter : StatusAdapter Wire)
    {sending : ℕ → Sending} (h : Recovers sending) (wire : Wire) :
    ∃ response, ((adapter.request "PATCH" (fun n => (sending n).deliver key payload)
      wire).1.bind raiseForStatus) = .ok response := by
  obtain ⟨hsettles, hgood⟩ := settles_of_recovers h
  have hends := requestEnds_of_deliver adapter sending key payload wire
  generalize (adapter.request "PATCH" (fun n => (sending n).deliver key payload) wire).1.bind
    raiseForStatus = reply at hends
  cases hends with
  | escapes hnot => exact absurd hsettles hnot
  | fails _ hbad => exact absurd hbad hgood
  | returns => exact ⟨_, rfl⟩

end Deliver

section Upsert

variable (client : ODataClient) (adapter : StatusAdapter Wire)
  (token : String) (sending : ℕ → ℕ → Sending) (i : ℕ) (call : UpsertCall) {key : String}
  {json : List (String × JsonValue)} (wire : Wire)

/-- An upsert of a string key with a payload that JSON can hold is one request for that key, sent
until there is an answer to keep. -/
theorem upsertRecord_eq_request (hkey : call.keyValue = .str key)
    (hjson : encodePayload call.payload = .ok json) :
    client.upsertRecord (wireSession adapter
        (urlPrefix client.baseUrl call.entitySet call.alternateKeyName) token sending) i call ()
        wire =
      ((adapter.request "PATCH" (fun n => (sending i n).deliver key (bodyRecord json))
          wire).1.bind raiseForStatus,
        (adapter.request "PATCH" (fun n => (sending i n).deliver key (bodyRecord json))
          wire).2) := by
  obtain ⟨url, hurl, hupsert⟩ := upsertRecord_retrySession client adapter token
    (fun i request n wire =>
      match addressedKey (urlPrefix client.baseUrl call.entitySet call.alternateKeyName)
        request.url with
      | none => (.answered ⟨404, .absent⟩, { wire with sends := wire.sends + 1 })
      | some key => (sending i n).deliver key (bodyRecord request.json) wire) i hkey hjson
  have haddressed : addressedKey (urlPrefix client.baseUrl call.entitySet call.alternateKeyName)
      url = some key := addressedKey_buildEntityUrl hurl
  rw [wireSession, hupsert]
  simp only [haddressed]

theorem atMostOnce_of_upsertRecord (hkey : call.keyValue = .str key)
    (hjson : encodePayload call.payload = .ok json) {reply : Except PyException Response}
    {wire' : Wire}
    (h : client.upsertRecord (wireSession adapter
        (urlPrefix client.baseUrl call.entitySet call.alternateKeyName) token sending) i call ()
        wire = (reply, wire')) :
    AtMostOnce key (bodyRecord json) wire.destination reply wire'.destination ∧
      wire'.sends ≤ wire.sends + 4 ∧
      ∀ response, reply = .ok response → response.statusCode ≠ 201 →
        wire.destination key = none → ∃ n < 3, (sending i n).isUnreported = true := by
  rw [upsertRecord_eq_request client adapter token sending i call wire hkey hjson,
    Prod.mk.injEq] at h
  obtain ⟨rfl, rfl⟩ := h
  exact ⟨atMostOnce_of_request .., sends_of_request .., fun response => unreported_of_updated⟩

/-- How an upsert ends is told by the sends of its request. -/
theorem requestEnds_of_wire (hkey : call.keyValue = .str key)
    (hjson : encodePayload call.payload = .ok json) :
    RequestEnds (Settles (sentOf (sending i)))
      (EndsBadly (sentOf (sending i)))
      (client.upsertRecord (wireSession adapter
        (urlPrefix client.baseUrl call.entitySet call.alternateKeyName) token sending) i call ()
        wire).1 := by
  rw [upsertRecord_eq_request client adapter token sending i call wire hkey hjson]
  exact requestEnds_of_deliver adapter (sending i) key (bodyRecord json) wire

/-- An upsert returns only if one of its sends succeeds. -/
theorem upsertRecord_ne_ok (hkey : call.keyValue = .str key)
    (hjson : encodePayload call.payload = .ok json) (hdead : ∀ n, ¬(sending i n).Succeeds)
    (response : Response) :
    (client.upsertRecord (wireSession adapter
        (urlPrefix client.baseUrl call.entitySet call.alternateKeyName) token sending) i call ()
        wire).1 ≠ .ok response := by
  rw [upsertRecord_eq_request client adapter token sending i call wire hkey hjson]
  exact request_ne_ok hdead response

theorem destination_of_upsertRecord (hkey : call.keyValue = .str key)
    (hjson : encodePayload call.payload = .ok json)
    (hunapplied : ∀ n, (sending i n).fate.isApplied = false) :
    (client.upsertRecord (wireSession adapter
        (urlPrefix client.baseUrl call.entitySet call.alternateKeyName) token sending) i call ()
        wire).2.destination = wire.destination := by
  rw [upsertRecord_eq_request client adapter token sending i call wire hkey hjson]
  exact destination_of_request hunapplied

/-- An upsert whose request recovers returns. -/
theorem exists_response_of_upsertRecord (hkey : call.keyValue = .str key)
    (hjson : encodePayload call.payload = .ok json) (hrecovers : Recovers (sending i)) :
    ∃ response, (client.upsertRecord (wireSession adapter
        (urlPrefix client.baseUrl call.entitySet call.alternateKeyName) token sending) i call ()
        wire).1 = .ok response := by
  rw [upsertRecord_eq_request client adapter token sending i call wire hkey hjson]
  exact exists_response_of_recovers adapter hrecovers wire

end Upsert

end Transport
