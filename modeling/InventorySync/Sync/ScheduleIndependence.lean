import InventorySync.Sync.Resends

/-!
# When the schedule does not matter

The workers of a run race each other, and what the circuit breaker does depends on the order in
which they report. As long as every request settles, so that no call raises, and fewer of them end
badly than the breaker needs to trip, none of that can be seen from outside: whatever the number of
workers, the window and the schedule, each row comes to what it would have come to as the only row
of the run.

* `results_of_verdicts`: fewer failures than the threshold leave no row skipped;
* `alone_of_syncReaches`: up to its own reply a row finds its record untouched, and after it nobody
  else writes there;
* `asIfAlone_of_syncEnds`: so the counts and the destination are those of the rows alone;
* `schedule_independent`: and two runs of one feed agree on them.
-/

open Python Pandas Ingest Transport ThreadPool PatchStore

namespace Sync

namespace BaseODataSyncRunner

section Verdicts

variable {ι ω : Type} {self : BaseODataSyncRunner} {logger : Logger} {upsert : Upsert ι ω}
  {records : List NamedTuple} {world : ω} {s : WriteLoop NamedTuple Stage (Shared ω)}
  {verdict : ℕ → NamedTuple → Outcome}

/-- The number of rows with a given verdict. -/
def countVerdicts (verdict : ℕ → NamedTuple → Outcome) (records : List NamedTuple)
    (outcome : Outcome) : ℕ :=
  (records.mapIdx verdict).count outcome

/-- Verdicts that do not depend on the position of a row are counted over the rows. -/
theorem countVerdicts_eq_countP (verdict : NamedTuple → Outcome) (records : List NamedTuple)
    (outcome : Outcome) :
    countVerdicts (fun _ => verdict) records outcome =
      records.countP fun row => decide (verdict row = outcome) := by
  have hmap : records.mapIdx (fun _ => verdict) = records.map verdict := by
    apply List.ext_getElem?
    intro i
    rw [List.getElem?_mapIdx, List.getElem?_map]
  rw [countVerdicts, hmap, List.count, List.countP_map]
  rfl

/-- If every row was skipped or came to its verdict, and fewer verdicts are `"failed"` than the
breaker needs to trip, then no row was skipped. -/
theorem results_of_verdicts (h : self.SyncReaches logger upsert records world s)
    (hphase : s.phase = .exited none)
    (hverdict : ∀ (i : ℕ) row outcome, records[i]? = some row →
      s.pool.results[i]? = some (some (.ok outcome)) →
      outcome = .skipped ∨ outcome = verdict i row)
    (hfew : (countVerdicts verdict records .failed : ℤ) < max 1 self.failureThreshold) :
    s.pool.results = (records.mapIdx verdict).map (fun outcome => some (.ok outcome)) ∧
      ∀ outcome, s.result outcome = countVerdicts verdict records outcome := by
  have hinv := WriteLoop.inv_of_reachable h
  have hlen : s.pool.results.length = records.length := by
    rw [Pool.results, List.length_map, hinv.length_of_returned hphase]
  have hrowOf : ∀ {i : ℕ} {outcome}, s.pool.results[i]? = some (some (.ok outcome)) →
      ∃ row, records[i]? = some row := fun hi =>
    ⟨_, List.getElem?_eq_getElem (hlen ▸ (List.getElem?_eq_some_iff.1 hi).1)⟩
  -- what failed was to fail, so the breaker saw too few failures to trip
  have hfailed : s.result .failed ≤ countVerdicts verdict records .failed := by
    rw [hinv.count_of_returned hphase, countVerdicts]
    apply count_le_count
    intro i hi
    obtain ⟨row, hrow⟩ := hrowOf hi
    rw [List.getElem?_mapIdx, hrow]
    rcases hverdict i row _ hrow hi with hskipped | hrowFailed
    · cases hskipped
    · exact congrArg some hrowFailed.symm
  have hskipped : s.result .skipped = 0 := by
    by_contra hne
    have hle := le_failed_of_skipped h hphase hne
    omega
  have hresults : s.pool.results =
      (records.mapIdx verdict).map (fun outcome => some (.ok outcome)) := by
    apply List.ext_getElem?
    intro i
    rw [List.getElem?_map, List.getElem?_mapIdx]
    cases hrow : records[i]? with
    | none =>
      rw [List.getElem?_eq_none_iff] at hrow
      exact List.getElem?_eq_none (hlen ▸ hrow)
    | some row =>
      obtain ⟨outcome, hresult⟩ :=
        hinv.result_of_returned hphase (List.getElem?_eq_some_iff.1 hrow).1
      rcases hverdict i row outcome hrow hresult with rfl | rfl
      · rw [hinv.count_of_returned hphase, List.count_eq_zero] at hskipped
        exact absurd (List.mem_of_getElem? hresult) hskipped
      · exact hresult
  refine ⟨hresults, fun outcome => ?_⟩
  rw [hinv.count_of_returned hphase, hresults, countVerdicts]
  apply le_antisymm
  · exact count_le_count fun i hi => by simpa using hi
  · exact count_le_count fun i hi => by simpa using hi

end Verdicts

/-! ### Rows that keep out of each other's way -/

/-- What a call comes to depends on its own record alone, and it changes no other. The destination
may be only a part of the world, under the view `store`. -/
structure Separate {ω : Type} (runner : BaseODataSyncRunner) (store : ω → Destination)
    (upsert : Upsert Unit ω) (records : List NamedTuple) : Prop where
  own : ∀ (i : ℕ) row text payload w w', records[i]? = some row →
    row.getattr runner.dedupeKey = .ok (.str text) → runner.buildPayload row = .ok payload →
    store w text = store w' text →
    (upsert i (runner.upsertCall (.str text) payload) () w).1.toOption =
        (upsert i (runner.upsertCall (.str text) payload) () w').1.toOption ∧
      store (upsert i (runner.upsertCall (.str text) payload) () w).2 text =
        store (upsert i (runner.upsertCall (.str text) payload) () w').2 text
  frame : ∀ (i : ℕ) row text payload w key, records[i]? = some row →
    row.getattr runner.dedupeKey = .ok (.str text) → runner.buildPayload row = .ok payload →
    key ≠ text →
    store (upsert i (runner.upsertCall (.str text) payload) () w).2 key = store w key

/-- The reply to a row, and the world it leaves, when it is the only row of the run. -/
def alone {ω : Type} (runner : BaseODataSyncRunner) (upsert : Upsert Unit ω) (initial : ω) (i : ℕ)
    (row : NamedTuple) : Option (Except PyException Response × ω) :=
  match row.getattr runner.dedupeKey, runner.buildPayload row with
  | .ok key, .ok payload => some (upsert i (runner.upsertCall key payload) () initial)
  | _, _ => none

/-- The outcome of that row. -/
def outcomeAlone {ω : Type} (runner : BaseODataSyncRunner) (upsert : Upsert Unit ω) (initial : ω)
    (i : ℕ) (row : NamedTuple) : Outcome :=
  match runner.alone upsert initial i row with
  | some (.ok response, _) => outcomeOf response
  | _ => .failed

/-- What the trace and the destination of a run say about its rows. -/
structure AloneInv {ω : Type} (runner : BaseODataSyncRunner) (store : ω → Destination)
    (upsert : Upsert Unit ω) (records : List NamedTuple) (initial : ω) (trace : List Event)
    (w : ω) : Prop where
  answered : ∀ (i : ℕ) row text reply, records[i]? = some row →
    row.getattr runner.dedupeKey = .ok (.str text) → Event.returned i reply ∈ trace →
    ∃ reply' w', runner.alone upsert initial i row = some (reply', w') ∧
      reply.toOption = reply'.toOption ∧ store w text = store w' text
  unanswered : ∀ (i : ℕ) row text, records[i]? = some row →
    row.getattr runner.dedupeKey = .ok (.str text) →
    (∀ reply, Event.returned i reply ∉ trace) → store w text = store initial text
  frame : ∀ key, (∀ row ∈ records, row.getattr runner.dedupeKey ≠ .ok (.str key)) →
    store w key = store initial key

section Alone

variable {ω : Type} {self : BaseODataSyncRunner} {logger : Logger} {store : ω → Destination}
  {upsert : Upsert Unit ω} {records : List NamedTuple} {initial : ω}
  {s : WriteLoop NamedTuple Stage (Shared ω)}

theorem alone_eq {row : NamedTuple} {key : PyValue} {payload : Payload}
    (hkey : row.getattr self.dedupeKey = .ok key) (hpayload : self.buildPayload row = .ok payload)
    (i : ℕ) :
    self.alone upsert initial i row = some (upsert i (self.upsertCall key payload) () initial) := by
  simp only [alone, hkey, hpayload]

/-- Its outcome does not depend on what is raised when it fails. -/
theorem outcomeAlone_of_toOption {i : ℕ} {row : NamedTuple}
    {reply reply' : Except PyException Response} {w : ω}
    (halone : self.alone upsert initial i row = some (reply', w))
    (hreply : reply.toOption = reply'.toOption) :
    self.outcomeAlone upsert initial i row = reply.toOption.elim .failed outcomeOf := by
  rw [outcomeAlone, halone, hreply]
  cases reply' <;> rfl

/-- A row that is the only one is not skipped. -/
theorem outcomeAlone_ne_skipped (i : ℕ) (row : NamedTuple) :
    self.outcomeAlone upsert initial i row ≠ .skipped := by
  unfold outcomeAlone
  split
  · simp only [outcomeOf]
    split <;> simp
  · simp

/-- One reply keeps the invariant. -/
theorem AloneInv.of_reply (hseparate : self.Separate store upsert records)
    (hwritable : self.Writable records) {trace : List Event} {w : ω}
    (h : self.AloneInv store upsert records initial trace w) {j : ℕ} {row : NamedTuple}
    {key : PyValue} {payload : Payload} (hrow : records[j]? = some row)
    (hkey : row.getattr self.dedupeKey = .ok key) (hpayload : self.buildPayload row = .ok payload)
    (hunanswered : ∀ ev ∈ eventsOf j trace, ev.isReply = false) :
    self.AloneInv store upsert records initial
      (.returned j (upsert j (self.upsertCall key payload) () w).1 :: trace)
      (upsert j (self.upsertCall key payload) () w).2 := by
  obtain ⟨text, _, _, htext, -, -⟩ := hwritable.sendable row (List.mem_of_getElem? hrow)
  cases hkey.symm.trans htext
  have hnone : ∀ reply, Event.returned j reply ∉ trace := by
    intro reply hmem
    cases hunanswered _ (mem_eventsOf.2 ⟨hmem, rfl⟩)
  -- the records of other rows are left alone
  have hother : ∀ {i : ℕ} {row' : NamedTuple} {text' : String}, i ≠ j → records[i]? = some row' →
      row'.getattr self.dedupeKey = .ok (.str text') →
      store (upsert j (self.upsertCall (.str text) payload) () w).2 text' = store w text' := by
    intro i row' text' hne hrow' hkey'
    refine hseparate.frame j row text payload w text' hrow hkey hpayload ?_
    rintro rfl
    exact hne (hwritable.index_unique hrow' hrow (hkey'.trans hkey.symm))
  have hown := hseparate.own j row text payload w initial hrow hkey hpayload
    (h.unanswered j row text hrow hkey hnone)
  refine ⟨?_, ?_, ?_⟩
  · intro i row' text' reply hrow' hkey' hmem
    rcases List.mem_cons.1 hmem with heq | hold
    · obtain ⟨rfl, rfl⟩ : i = j ∧ reply = _ := by simpa using heq
      cases hrow.symm.trans hrow'
      cases hkey.symm.trans hkey'
      exact ⟨_, _, alone_eq hkey hpayload i, hown⟩
    · have hne : i ≠ j := by
        rintro rfl
        exact hnone reply hold
      rw [hother hne hrow' hkey']
      exact h.answered i row' text' reply hrow' hkey' hold
  · intro i row' text' hrow' hkey' hnot
    have hne : i ≠ j := by
      rintro rfl
      exact hnot _ List.mem_cons_self
    rw [hother hne hrow' hkey']
    exact h.unanswered i row' text' hrow' hkey' fun reply hmem =>
      hnot reply (List.mem_cons_of_mem _ hmem)
  · intro key hnokey
    have hne : key ≠ text := by
      rintro rfl
      exact hnokey row (List.mem_of_getElem? hrow) hkey
    rw [hseparate.frame j row text payload w key hrow hkey hpayload hne]
    exact h.frame key hnokey

theorem alone_of_syncReaches (hseparate : self.Separate store upsert records)
    (hwritable : self.Writable records)
    (h : self.SyncReaches logger upsert records initial s) :
    self.AloneInv store upsert records initial s.pool.shared.trace s.pool.shared.world := by
  refine invariant_of_replies (P := self.AloneInv store upsert records initial) ⟨?_, ?_⟩
    ⟨by simp, fun _ _ _ _ _ _ => rfl, fun _ _ => rfl⟩ h
  · intro new trace w hnew hw
    -- events that are no replies say nothing about any row
    have hmem : ∀ {i reply}, Event.returned i reply ∈ new ++ trace ↔
        Event.returned i reply ∈ trace := by
      intro i reply
      rw [List.mem_append, or_iff_right]
      intro hreply
      cases hnew _ hreply
    refine ⟨?_, ?_, hw.frame⟩
    · intro i row text reply hrow hkey hreply
      exact hw.answered i row text reply hrow hkey (hmem.1 hreply)
    · intro i row text hrow hkey hnot
      exact hw.unanswered i row text hrow hkey fun reply hreply => hnot reply (hmem.2 hreply)
  · intro j row key payload inp trace w hrow hkey hpayload hunanswered hw
    exact hw.of_reply hseparate hwritable hrow hkey hpayload hunanswered

/-- What a row returned is what it would have returned alone, unless it was skipped. -/
theorem outcome_of_alone (hseparate : self.Separate store upsert records)
    (hwritable : self.Writable records)
    (h : self.SyncReaches logger upsert records initial s) (hphase : s.phase = .exited none)
    {i : ℕ} {row : NamedTuple} {outcome : Outcome} (hrow : records[i]? = some row)
    (hresult : s.pool.results[i]? = some (some (.ok outcome))) :
    outcome = .skipped ∨ outcome = self.outcomeAlone upsert initial i row := by
  have hinv := alone_of_syncReaches hseparate hwritable h
  obtain ⟨text, _, _, htext, hbuilt, -⟩ := hwritable.sendable row (List.mem_of_getElem? hrow)
  obtain ⟨outcome', events, hresult', hevents, hreturned⟩ := returned_of_syncReaches h hphase hrow
  cases hresult.symm.trans hresult'
  have hmem : ∀ ev ∈ events, ev ∈ s.pool.shared.trace :=
    fun ev hev => (mem_eventsOf.1 (hevents ▸ hev)).1
  cases hreturned with
  | skipped => exact .inl rfl
  | @written _ _ response _ _ _ _ houtcome =>
    obtain ⟨reply', w, halone, hreply, -⟩ := hinv.answered i row text (.ok response) hrow htext
      (hmem _ (by simp))
    exact .inr (houtcome.trans (outcomeAlone_of_toOption halone hreply).symm)
  | @rejected _ _ e _ _ _ _ _ =>
    obtain ⟨reply', w, halone, hreply, -⟩ := hinv.answered i row text (.error e) hrow htext
      (hmem _ (by simp))
    exact .inr (outcomeAlone_of_toOption halone hreply).symm
  | unbuilt _ hpayload => cases hbuilt.symm.trans hpayload

end Alone

/-- Every row of a run came to what it would have come to alone. -/
structure AsIfAlone {ω : Type} (runner : BaseODataSyncRunner) (store : ω → Destination)
    (upsert : Upsert Unit ω) (records : List NamedTuple) (initial : ω)
    (s : WriteLoop NamedTuple Stage (Shared ω)) : Prop where
  returned : s.phase = .exited none
  results : s.pool.results =
    (records.mapIdx (runner.outcomeAlone upsert initial)).map (fun outcome => some (.ok outcome))
  counted : ∀ outcome,
    s.result outcome = countVerdicts (runner.outcomeAlone upsert initial) records outcome
  own : ∀ (i : ℕ) row text, records[i]? = some row →
    row.getattr runner.dedupeKey = .ok (.str text) →
    ∃ reply w, runner.alone upsert initial i row = some (reply, w) ∧
      store s.pool.shared.world text = store w text
  frame : ∀ key, (∀ row ∈ records, row.getattr runner.dedupeKey ≠ .ok (.str key)) →
    store s.pool.shared.world key = store initial key

/-- That leaves nothing to the run. -/
theorem AsIfAlone.agree {ω : Type} {self : BaseODataSyncRunner} {store : ω → Destination}
    {upsert : Upsert Unit ω} {records : List NamedTuple} {initial : ω}
    {s s' : WriteLoop NamedTuple Stage (Shared ω)}
    (h : self.AsIfAlone store upsert records initial s)
    (h' : self.AsIfAlone store upsert records initial s') :
    s.result = s'.result ∧ store s.pool.shared.world = store s'.pool.shared.world := by
  refine ⟨funext fun outcome => by rw [h.counted, h'.counted], funext fun key => ?_⟩
  by_cases hkey : ∀ row ∈ records, row.getattr self.dedupeKey ≠ .ok (.str key)
  · rw [h.frame key hkey, h'.frame key hkey]
  · push Not at hkey
    obtain ⟨row, hrow, hkey⟩ := hkey
    obtain ⟨i, hi⟩ := List.getElem?_of_mem hrow
    obtain ⟨reply, w, halone, hw⟩ := h.own i row key hi hkey
    obtain ⟨reply', w', halone', hw'⟩ := h'.own i row key hi hkey
    cases halone.symm.trans halone'
    rw [hw, hw']

/-- A run that returned and left no row out treated every row as if it were alone. -/
theorem asIfAlone_of_returned {ω : Type} {self : BaseODataSyncRunner} {logger : Logger}
    {store : ω → Destination} {upsert : Upsert Unit ω} {records : List NamedTuple} {initial : ω}
    {s : WriteLoop NamedTuple Stage (Shared ω)} (hseparate : self.Separate store upsert records)
    (hwritable : self.Writable records)
    (h : self.SyncReaches logger upsert records initial s) (hphase : s.phase = .exited none)
    (hfew : (countVerdicts (self.outcomeAlone upsert initial) records .failed : ℤ) <
      max 1 self.failureThreshold) :
    self.AsIfAlone store upsert records initial s := by
  have hinv := alone_of_syncReaches hseparate hwritable h
  have hverdict : ∀ (i : ℕ) row outcome, records[i]? = some row →
      s.pool.results[i]? = some (some (.ok outcome)) → outcome = .skipped ∨
        outcome = self.outcomeAlone upsert initial i row :=
    fun i row outcome hrow hresult => outcome_of_alone hseparate hwritable h hphase hrow hresult
  obtain ⟨hresults, hcounted⟩ := results_of_verdicts h hphase hverdict hfew
  refine ⟨hphase, hresults, hcounted, ?_, hinv.frame⟩
  intro i row text hrow hkey
  obtain ⟨outcome, events, hresult, hevents, hreturned⟩ := returned_of_syncReaches h hphase hrow
  have hmem : ∀ ev ∈ events, ev ∈ s.pool.shared.trace :=
    fun ev hev => (mem_eventsOf.1 (hevents ▸ hev)).1
  -- the row was not skipped, so there was a reply to its call
  have hreply : ∃ reply, Event.returned i reply ∈ s.pool.shared.trace := by
    cases hreturned with
    | skipped =>
      rw [hresults, List.getElem?_map, List.getElem?_mapIdx, hrow] at hresult
      exact absurd (by simpa using hresult) (outcomeAlone_ne_skipped i row)
    | written => exact ⟨_, hmem _ (by simp; rfl)⟩
    | rejected => exact ⟨_, hmem _ (by simp; rfl)⟩
    | unbuilt _ hpayload =>
      obtain ⟨_, _, _, -, hbuilt, -⟩ := hwritable.sendable row (List.mem_of_getElem? hrow)
      cases hbuilt.symm.trans hpayload
  obtain ⟨reply, hreply⟩ := hreply
  obtain ⟨reply', w, halone, -, hw⟩ := hinv.answered i row text reply hrow hkey hreply
  exact ⟨reply', w, halone, hw⟩

/-! ### Over the wire -/

section Wire

variable {self : BaseODataSyncRunner} {logger : Logger} {client : ODataClient}
  {adapter : StatusAdapter Wire} {token : String} {sending : ℕ → ℕ → Sending}
  {records : List NamedTuple} {initial : Wire}
  {s : WriteLoop NamedTuple Stage (Shared Wire)}

/-- The requests of different rows do not see each other. -/
theorem separate_upsertOver (hwritable : self.Writable records) (client : ODataClient)
    (adapter : StatusAdapter Wire) (token : String) (sending : ℕ → ℕ → Sending) :
    self.Separate Wire.destination (self.upsertOver client adapter token sending) records := by
  have hencoded : ∀ (i : ℕ) row payload, records[i]? = some row →
      self.buildPayload row = .ok payload → ∃ json, encodePayload payload = .ok json := by
    intro i row payload hrow hpayload
    obtain ⟨_, _, json, -, hbuilt, hjson⟩ := hwritable.sendable row (List.mem_of_getElem? hrow)
    cases hpayload.symm.trans hbuilt
    exact ⟨json, hjson⟩
  constructor
  · intro i row text payload w w' hrow hkey hpayload hsame
    obtain ⟨json, hjson⟩ := hencoded i row payload hrow hpayload
    obtain ⟨hreply, hworld⟩ := request_congr adapter (sending i) text (bodyRecord json) w hsame
    have hcall : ∀ w, self.upsertOver client adapter token sending i
        (self.upsertCall (.str text) payload) () w = _ := fun w =>
      upsertRecord_eq_request client adapter token sending i (self.upsertCall (.str text) payload) w
        rfl hjson
    rw [hcall, hcall]
    refine ⟨?_, hworld⟩
    rw [Except.toOption_bind, Except.toOption_bind, hreply]
  · intro i row text payload w key hrow hkey hpayload hne
    obtain ⟨json, hjson⟩ := hencoded i row payload hrow hpayload
    exact (atMostOnce_of_upsertOver i hjson rfl).1.frame hne

/-- How the call of a row that can be sent ends. -/
theorem requestEnds_upsertOver (hwritable : self.Writable records) {i : ℕ} {row : NamedTuple}
    (hrow : records[i]? = some row) {key : PyValue} {payload : Payload}
    (hkey : row.getattr self.dedupeKey = .ok key) (hpayload : self.buildPayload row = .ok payload)
    (w : Wire) :
    RequestEnds (Settles (sentOf (sending i))) (EndsBadly (sentOf (sending i)))
      (self.upsertOver client adapter token sending i (self.upsertCall key payload) () w).1 := by
  obtain ⟨text, payload', json, htext, hbuilt, hjson⟩ :=
    hwritable.sendable row (List.mem_of_getElem? hrow)
  cases hkey.symm.trans htext
  cases hpayload.symm.trans hbuilt
  exact requestEnds_of_wire client adapter token sending i (self.upsertCall (.str text) payload) w
    rfl hjson

/-- If every request settles, no call raises. -/
theorem not_raised_of_upsertOver (hwritable : self.Writable records) (hlogs : self.Logs logger)
    (hsettles : ∀ i < records.length, Settles (sentOf (sending i)))
    (h : self.SyncReaches logger (self.upsertOver client adapter token sending) records initial s)
    (e : PyException) : ¬s.Raised e := by
  refine not_raised_of_replies hlogs (fun row hrow => ?_) h ?_ e
  · obtain ⟨key, payload, json, hkey, hpayload, -⟩ := hwritable.sendable row hrow
    exact ⟨_, payload, hkey, hpayload⟩
  · rintro i row key payload ⟨⟩ w e hrow hkey hpayload - hreply
    have hends := @requestEnds_upsertOver self client adapter token sending records hwritable i row
      hrow key payload hkey hpayload w
    rw [hreply] at hends
    cases hends with
    | escapes hnot => exact absurd (hsettles i (List.getElem?_eq_some_iff.1 hrow).1) hnot
    | fails _ _ hclass => exact hclass

/-- The rows that fail alone are among those whose requests end badly. -/
theorem countVerdicts_failed_le (hwritable : self.Writable records)
    (hsettles : ∀ i < records.length, Settles (sentOf (sending i))) :
    countVerdicts (self.outcomeAlone (self.upsertOver client adapter token sending) initial) records
      .failed ≤ (List.range records.length).countP fun i => EndsBadly (sentOf (sending i)) := by
  have hmap : (List.range records.length).countP (fun i => EndsBadly (sentOf (sending i))) =
      ((List.range records.length).map fun i => decide (EndsBadly (sentOf (sending i)))).count
        true := by
    rw [List.count, List.countP_map]
    congr 1
    funext i
    exact (beq_true _).symm
  rw [hmap, countVerdicts]
  apply count_le_count
  intro i hi
  rw [List.getElem?_mapIdx] at hi
  obtain ⟨row, hrow, hfailed⟩ := Option.map_eq_some_iff.1 hi
  have hlt : i < records.length := (List.getElem?_eq_some_iff.1 hrow).1
  rw [List.getElem?_map, List.getElem?_range hlt]
  refine congrArg some (decide_eq_true ?_)
  obtain ⟨text, payload, json, hkey, hpayload, -⟩ :=
    hwritable.sendable row (List.mem_of_getElem? hrow)
  have hends := @requestEnds_upsertOver self client adapter token sending records hwritable i row
    hrow _ payload hkey hpayload initial
  rw [outcomeAlone, alone_eq hkey hpayload] at hfailed
  generalize self.upsertOver client adapter token sending i (self.upsertCall (.str text) payload) ()
    initial = result at hends hfailed
  obtain ⟨reply, w⟩ := result
  -- a call that returned did not fail
  cases hends with
  | escapes hnot => exact absurd (hsettles i hlt) hnot
  | fails _ hbad => exact hbad
  | returns =>
    simp only [outcomeOf] at hfailed
    split at hfailed <;> cases hfailed

/-- If every request settles, and fewer end badly than the breaker needs to trip, every row of a run
comes to what it would have come to alone. -/
theorem asIfAlone_of_syncEnds (hworkers : 1 ≤ self.maxWorkers) (hlogs : self.Logs logger)
    (hwritable : self.Writable records)
    (hsettles : ∀ i < records.length, Settles (sentOf (sending i)))
    (hfew : (((List.range records.length).countP fun i => EndsBadly (sentOf (sending i)) : ℕ) : ℤ) <
      max 1 self.failureThreshold)
    (h : self.SyncEnds logger (self.upsertOver client adapter token sending) records initial s) :
    self.AsIfAlone Wire.destination (self.upsertOver client adapter token sending) records initial
      s := by
  have hphase := returned_of_syncEnds hworkers h
    (not_raised_of_upsertOver hwritable hlogs hsettles h.1)
  have hle := @countVerdicts_failed_le self client adapter token sending records initial hwritable
    hsettles
  exact asIfAlone_of_returned (separate_upsertOver hwritable client adapter token sending) hwritable
    h.1 hphase (by omega)

end Wire

end BaseODataSyncRunner

/-- If every request settles, and fewer end badly than the breaker needs to trip, two runs of one
feed that meet the same destination agree on every count and leave the same destination, however
their workers, windows, thresholds and schedules differ. Each row has come to what it would have
come to alone. -/
theorem DataverseInventorySyncRunner.schedule_independent [IdentifierTables]
    (self : DataverseInventorySyncRunner) (frames : List DataFrame) (columns : List String)
    (records : DataFrame) (hfeed : AcceptedFeed self frames columns records)
    (hjson : ∀ row ∈ records.itertuples, self.odata.Serialisable row) (client : ODataClient)
    (adapter : StatusAdapter Wire) (token : String) (sending : ℕ → ℕ → Sending) (initial : Wire)
    (hsettles : ∀ i < records.itertuples.length, Settles (sentOf (sending i)))
    (tuning tuning' : Tuning) (logger logger' : Logger)
    (hlogs : (self.tuned tuning).odata.Logs logger)
    (hlogs' : (self.tuned tuning').odata.Logs logger') (hworkers : 1 ≤ tuning.maxWorkers)
    (hworkers' : 1 ≤ tuning'.maxWorkers)
    (hfew : (((List.range records.itertuples.length).countP
      fun i => EndsBadly (sentOf (sending i)) : ℕ) : ℤ) < max 1 tuning.failureThreshold)
    (hfew' : (((List.range records.itertuples.length).countP
      fun i => EndsBadly (sentOf (sending i)) : ℕ) : ℤ) < max 1 tuning'.failureThreshold)
    (s s' : WriteLoop NamedTuple Stage (Shared Wire))
    (hends : (self.tuned tuning).odata.SyncEnds logger
      ((self.tuned tuning).odata.upsertOver client adapter token sending) records.itertuples initial
      s)
    (hends' : (self.tuned tuning').odata.SyncEnds logger'
      ((self.tuned tuning').odata.upsertOver client adapter token sending) records.itertuples
      initial s') :
    s.result = s'.result ∧
      s.pool.shared.world.destination = s'.pool.shared.world.destination ∧
      self.odata.AsIfAlone Wire.destination (self.odata.upsertOver client adapter token sending)
        records.itertuples initial s := by
  have halone := BaseODataSyncRunner.asIfAlone_of_syncEnds hworkers hlogs
    (BaseODataSyncRunner.writable_of_acceptedFeed (acceptedFeed_tuned hfeed tuning) hjson) hsettles
    hfew hends
  have halone' := BaseODataSyncRunner.asIfAlone_of_syncEnds hworkers' hlogs'
    (BaseODataSyncRunner.writable_of_acceptedFeed (acceptedFeed_tuned hfeed tuning') hjson) hsettles
    hfew' hends'
  -- how a row fares alone does not depend on the tuning
  have hsame : self.odata.AsIfAlone Wire.destination
      (self.odata.upsertOver client adapter token sending) records.itertuples initial s :=
    ⟨halone.returned, halone.results, halone.counted, halone.own, halone.frame⟩
  have hsame' : self.odata.AsIfAlone Wire.destination
      (self.odata.upsertOver client adapter token sending) records.itertuples initial s' :=
    ⟨halone'.returned, halone'.results, halone'.counted, halone'.own, halone'.frame⟩
  exact ⟨(hsame.agree hsame').1, (hsame.agree hsame').2, hsame⟩

/-- The first request gets no answer the first time, 503 the second, and is then accepted; the
second is applied but rejected. -/
def recoversOrRejected : ℕ → ℕ → Sending
  | 0, 0 => { fate := .lost (connectionFailure "Connection aborted.") true }
  | 0, 1 => { fate := .rejected serviceUnavailableStatus false, retryAfter := .delay }
  | 0, _ => { fate := .accepted noContentStatus }
  | _, _ => { fate := .rejected internalServerErrorStatus true }

open BaseODataSyncRunner in
/-- A run with ten workers and one with a single worker, where one of two requests fails. -/
theorem DataverseInventorySyncRunner.schedule_independent_correctedRows :
    ∃ s s', (shippedRunner correctedRows).odata.SyncEnds standardLogger
        ((shippedRunner correctedRows).odata.upsertOver dataverseClient wireAdapter "token"
          recoversOrRejected)
        (@DataFrame.itertuples asciiTables (shippedFrame latestRows)) ⟨stocked, 0⟩ s ∧
      ((shippedRunner correctedRows).tuned ⟨1, 2, 1⟩).odata.SyncEnds standardLogger
        ((shippedRunner correctedRows).odata.upsertOver dataverseClient wireAdapter "token"
          recoversOrRejected)
        (@DataFrame.itertuples asciiTables (shippedFrame latestRows)) ⟨stocked, 0⟩ s' ∧
      s.result = s'.result ∧
      s.pool.shared.world.destination = s'.pool.shared.world.destination := by
  obtain ⟨s, hends⟩ := exists_syncEnds (shippedRunner correctedRows).odata standardLogger
    ((shippedRunner correctedRows).odata.upsertOver dataverseClient wireAdapter "token"
      recoversOrRejected) (@DataFrame.itertuples asciiTables (shippedFrame latestRows)) ⟨stocked, 0⟩
  obtain ⟨s', hends'⟩ := exists_syncEnds ((shippedRunner correctedRows).tuned ⟨1, 2, 1⟩).odata
    standardLogger ((shippedRunner correctedRows).odata.upsertOver dataverseClient wireAdapter
      "token" recoversOrRejected) (@DataFrame.itertuples asciiTables (shippedFrame latestRows))
      ⟨stocked, 0⟩
  have hsettles : ∀ i < (@DataFrame.itertuples asciiTables (shippedFrame latestRows)).length,
      Settles (sentOf (recoversOrRejected i)) := by
    rintro i -
    match i with
    | 0 => exact rfl
    | i + 1 => exact rfl
  obtain ⟨hresult, hworld, -⟩ := @schedule_independent asciiTables (shippedRunner correctedRows)
    [shippedFrame correctedRows] _ (shippedFrame latestRows) (acceptedFeed_shipped rfl)
    serialisable_latestRows dataverseClient wireAdapter "token" recoversOrRejected ⟨stocked, 0⟩
    hsettles ⟨10, 5, 50⟩ ⟨1, 2, 1⟩ standardLogger standardLogger
    (logs_of_dedupeKey standardLogger (by decide)) (logs_of_dedupeKey standardLogger (by decide))
    (by decide) (by decide) (by decide) (by decide) s s' hends hends'
  exact ⟨s, s', hends, hends', hresult, hworld⟩

end Sync
