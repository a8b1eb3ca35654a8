import InventorySync.Sync.BeforeWrite
import InventorySync.Sync.Replies

/-!
# What the exit code says about the destination

A whole run of the service over a destination, from the settings to the exit code. Whatever becomes
of the requests, over a client that writes each record at most once the run has written the feed's
last rows in part, and if it exits with 0 it has written all of them. Exit code 1 says no more than
that: a run may exit with 1 because the answer to its last request was lost.

* `SyncRuns`: what running `sync_records` on a destination can come to;
* `runEnds_of_run`: and what the run around it then comes to;
* `exists_prepared`: there is such a run for every feed that loads and every transport;
* `RunEnds.delivered`, `RunEnds.eq_zero_of_alwaysAnswers`: so the exit code tells the destination.
-/

open Python Pandas Ingest Transport ThreadPool PatchStore

namespace Sync

/-- The effects after the write loop has ended. -/
def Effects.after {ω : Type} (effects : Effects ω) (s : WriteLoop NamedTuple Stage (Shared ω)) :
    Effects ω :=
  { effects with world := s.pool.shared.world, trace := s.pool.shared.trace ++ effects.trace }

/-- What running `sync_records` can come to, with its effects. -/
inductive BaseODataSyncRunner.SyncRuns {ι ω : Type} (runner : BaseODataSyncRunner)
    (logger : Logger) (upsert : Upsert ι ω) (records : List NamedTuple) (effects : Effects ω) :
    EStateM.Result PyException (Effects ω) Result → Prop
  /-- `ThreadPoolExecutor` refuses to be built. -/
  | refused (hworkers : runner.maxWorkers ≤ 0) :
      SyncRuns runner logger upsert records effects
        (.error ⟨.valueError, "max_workers must be greater than 0"⟩ effects)
  | returned {s} (hworkers : 1 ≤ runner.maxWorkers)
      (hends : runner.SyncEnds logger upsert records effects.world s)
      (hphase : s.phase = .exited none) :
      SyncRuns runner logger upsert records effects (.ok s.result (effects.after s))
  | raised {s e} (hworkers : 1 ≤ runner.maxWorkers)
      (hends : runner.SyncEnds logger upsert records effects.world s)
      (hphase : s.phase = .exited (some e)) :
      SyncRuns runner logger upsert records effects (.error e (effects.after s))

namespace EffectfulRunner

section Run

variable [IdentifierTables] {S C ω ι : Type} (self : EffectfulRunner S C ω)
  (runner : BaseODataSyncRunner) (logger : Logger) (upsert : C → Upsert ι ω)

/-- How a run that found `initial` ended, by its exit code and the world it left. -/
inductive RunEnds (records : DataFrame) (initial : ω) : ℕ → ω → Prop
  /-- Something failed before the first request. -/
  | unprepared (h : (¬∃ client, self.Prepared client records) ∨ runner.maxWorkers ≤ 0) :
      RunEnds records initial 1 initial
  | returned {client s} (hprepared : self.Prepared client records)
      (hends : runner.SyncEnds logger (upsert client) records.itertuples initial s)
      (hphase : s.phase = .exited none) :
      RunEnds records initial (if s.result .failed = 0 then 0 else 1) s.pool.shared.world
  /-- An exception left `sync_records`. -/
  | raised {client s e} (hprepared : self.Prepared client records)
      (hends : runner.SyncEnds logger (upsert client) records.itertuples initial s)
      (hphase : s.phase = .exited (some e)) :
      RunEnds records initial 1 s.pool.shared.world

variable {self runner logger upsert} {records : DataFrame} {effects : Effects ω}

/-- Every run exits, and in one of these ways. -/
theorem runEnds_of_run (hrecords : self.ingest.loadRecords = .ok records)
    (hsync : ∀ client, self.Prepared client records →
      runner.SyncRuns logger (upsert client) records.itertuples
        (effects.pull self.ingest.pulledChunks)
        ((self.syncRecords client records).run (effects.pull self.ingest.pulledChunks))) :
    ∃ code effects', (self.run logger).run effects = .ok code effects' ∧
      self.RunEnds runner logger upsert records effects.world code effects'.world := by
  by_cases hprepared : ∃ client records, self.Prepared client records
  · obtain ⟨client, records', hprepared⟩ := hprepared
    have hloaded := hprepared
    obtain ⟨settings, -, -, -, -, hrecords'⟩ := hloaded
    cases hrecords.symm.trans hrecords'
    have hattempt := run_attempt_of_prepared hprepared effects
    have hruns := hsync client hprepared
    rw [EStateM.run_bind] at hattempt
    -- the run ends as `sync_records` does, and reports it by its exit code
    cases hcase : (self.syncRecords client records).run
        (effects.pull self.ingest.pulledChunks) with
    | error e effects' =>
      rw [hcase] at hattempt hruns
      refine ⟨1, effects', run_of_attempt_eq_error hattempt logger, ?_⟩
      cases hruns with
      | refused hworkers => exact .unprepared (.inr hworkers)
      | raised hworkers hends hphase => exact .raised hprepared hends hphase
    | ok result effects' =>
      rw [hcase] at hattempt hruns
      refine ⟨_, effects', run_of_attempt_eq_ok hattempt logger, ?_⟩
      cases hruns with
      | returned hworkers hends hphase => exact .returned hprepared hends hphase
  · obtain ⟨effects', hrun, hworld, -⟩ := run_of_not_prepared hprepared logger effects
    have hclient : ¬∃ client, self.Prepared client records :=
      fun ⟨client, h⟩ => hprepared ⟨client, records, h⟩
    exact ⟨1, effects', hrun, hworld ▸ .unprepared (.inl hclient)⟩

end Run

/-- For every feed that loads and every transport there are hooks that all return and whose
`sync_records` is a run of the write loop. -/
theorem exists_prepared [IdentifierTables] {C ω ι : Type} [Nonempty ι]
    (ingest : InventoryDomainMixin) (client : C) (runner : BaseODataSyncRunner)
    (hworkers : 1 ≤ runner.maxWorkers) (logger : Logger) (upsert : C → Upsert ι ω)
    {records : DataFrame} (hloaded : ingest.loadRecords = .ok records) (effects : Effects ω) :
    ∃ self : EffectfulRunner Unit C ω, self.ingest = ingest ∧ self.Prepared client records ∧
      ∀ client', self.Prepared client' records → client' = client ∧
        runner.SyncRuns logger (upsert client') records.itertuples
          (effects.pull self.ingest.pulledChunks)
          ((self.syncRecords client' records).run (effects.pull self.ingest.pulledChunks)) := by
  obtain ⟨s, hends⟩ := runner.exists_syncEnds logger (upsert client) records.itertuples
    effects.world
  obtain ⟨raised, hphase⟩ := BaseODataSyncRunner.exited_of_syncEnds hworkers hends
  refine ⟨{ loadSettings := .ok ()
            configureLogging := fun _ => .ok ()
            buildClient := fun _ => .ok client
            acquireBearerToken := fun _ => .ok ()
            ingest := ingest
            syncRecords := fun _ _ effects =>
              match raised with
              | none => .ok s.result (effects.after s)
              | some e => .error e (effects.after s) },
    rfl, ⟨(), rfl, rfl, rfl, rfl, hloaded⟩, ?_⟩
  rintro client' ⟨_, -, -, hclient, -, -⟩
  cases hclient
  refine ⟨rfl, ?_⟩
  cases raised with
  | none => exact .returned hworkers hends hphase
  | some e => exact .raised hworkers hends hphase

end EffectfulRunner

/-! ### The feed in the destination -/

/-- The last rows of a feed are written: each over the record that was there before, and nothing
else. -/
structure Delivered [IdentifierTables] (runner : DataverseInventorySyncRunner)
    (frames : List DataFrame) (initial final : Destination) : Prop where
  fed : ∀ row, Recency.IsLatest (rowKey runner.dedupeKey) (feedRows frames) row →
    ∃ key record, runner.odata.requestOf row = some (key, record) ∧
      final key = some (overwrite record (initial key))
  unfed : ∀ key, .text key ∉ (feedRows frames).map (rowKey runner.dedupeKey) →
    final key = initial key

/-- Some of the last rows of a feed are written, and nothing else. -/
def PartlyDelivered [IdentifierTables] (runner : DataverseInventorySyncRunner)
    (frames : List DataFrame) (initial final : Destination) : Prop :=
  ∀ key, final key = initial key ∨
    ∃ row record, Recency.IsLatest (rowKey runner.dedupeKey) (feedRows frames) row ∧
      runner.odata.requestOf row = some (key, record) ∧
      final key = some (overwrite record (initial key))

section Feed

variable [IdentifierTables] {runner : DataverseInventorySyncRunner} {frames : List DataFrame}
  {columns : List String} {records : DataFrame} {initial final : Destination}

theorem partlyDelivered_of_partly (hfeed : AcceptedFeed runner frames columns records)
    (h : Partly (runner.odata.payloads records.itertuples) initial final) :
    PartlyDelivered runner frames initial final := by
  intro key
  rcases h key with hkept | hwritten
  · exact .inl hkept
  · cases htable : runner.odata.payloads records.itertuples key with
    | none => exact .inl (hwritten.trans (writeAll_of_none htable))
    | some record =>
      -- the record of the table is that of the last row with its key
      obtain ⟨row, hrow, hrequest⟩ := BaseODataSyncRunner.exists_of_payloads htable
      exact .inr ⟨row, record, (hfeed.mem_records row).1 hrow, hrequest,
        hwritten.trans (writeAll_of_some htable)⟩

theorem delivered_of_writeAll (hfeed : AcceptedFeed runner frames columns records)
    (hsendable : ∀ row ∈ records.itertuples, ∃ key record,
      runner.odata.requestOf row = some (key, record)) :
    Delivered runner frames initial (writeAll (runner.odata.payloads records.itertuples) initial)
    where
  fed row hlatest := by
    have hrow := (hfeed.mem_records row).2 hlatest
    obtain ⟨key, record, hrequest⟩ := hsendable row hrow
    refine ⟨key, record, hrequest, writeAll_of_some ?_⟩
    exact BaseODataSyncRunner.payloads_of_distinct
      (BaseODataSyncRunner.distinct_of_acceptedFeed hfeed) hrow hrequest
  unfed key hunfed := by
    refine writeAll_of_none ?_
    by_contra hsome
    obtain ⟨record, htable⟩ := Option.ne_none_iff_exists'.1 hsome
    obtain ⟨row, hrow, hrequest⟩ := BaseODataSyncRunner.exists_of_payloads htable
    have hmem := hfeed.mem_feedRows hrow
    obtain ⟨text, htext, hrowKey⟩ := hfeed.exists_key hmem
    cases (BaseODataSyncRunner.getattr_of_requestOf hrequest).symm.trans htext
    exact hunfed (List.mem_map.2 ⟨row, hmem, hrowKey⟩)

end Feed

namespace BaseODataSyncRunner

/-- Only a row that can be sent is answered. -/
def AnswersRequests {ι ω : Type} (runner : BaseODataSyncRunner) (upsert : Upsert ι ω)
    (records : List NamedTuple) : Prop :=
  ∀ (i : ℕ) row key payload inp w response, records[i]? = some row →
    row.getattr runner.dedupeKey = .ok key → runner.buildPayload row = .ok payload →
    (upsert i (runner.upsertCall key payload) inp w).1 = .ok response →
    ∃ text record, runner.requestOf row = some (text, record)

theorem Commits.answersRequests {ι ω : Type} {self : BaseODataSyncRunner} {store : ω → Destination}
    {upsert : Upsert ι ω} {records : List NamedTuple}
    (h : self.Commits store upsert records) : self.AnswersRequests upsert records := by
  intro i row key payload inp w response hrow hkey hpayload hresponse
  obtain ⟨text, record, hrequest, -⟩ :=
    h.written i row key payload inp w response hrow hkey hpayload hresponse
  exact ⟨text, record, hrequest⟩

/-- When `sync_records` returns with no row failed, every row could be sent. -/
theorem exists_request_of_returned {ι ω : Type} {self : BaseODataSyncRunner} {logger : Logger}
    {upsert : Upsert ι ω} {records : List NamedTuple} {world : ω}
    {s : WriteLoop NamedTuple Stage (Shared ω)} (hanswers : self.AnswersRequests upsert records)
    (h : self.SyncReaches logger upsert records world s) (hphase : s.phase = .exited none)
    (hfailed : s.result .failed = 0) {row : NamedTuple} (hrow : row ∈ records) :
    ∃ key record, self.requestOf row = some (key, record) := by
  obtain ⟨i, hi⟩ := List.getElem?_of_mem hrow
  obtain ⟨outcome, events, hresult, -, hreturned⟩ := returned_of_syncReaches h hphase hi
  obtain ⟨hnotFailed, hnotSkipped⟩ := outcome_of_failed_eq_zero h hphase hfailed hresult
  cases hreturned with
  | skipped => exact absurd rfl hnotSkipped
  | written hkey hpayload hreply =>
    obtain ⟨inp, w, hreply⟩ := hreply
    exact hanswers i row _ _ inp w _ hi hkey hpayload hreply
  | rejected => exact absurd rfl hnotFailed
  | unbuilt => exact absurd rfl hnotFailed

/-- Every call for one of the records returns. -/
def AlwaysAnswers {ι ω : Type} (runner : BaseODataSyncRunner) (upsert : Upsert ι ω)
    (records : List NamedTuple) : Prop :=
  ∀ (i : ℕ), ∀ row ∈ records, ∃ key payload, row.getattr runner.dedupeKey = .ok key ∧
    runner.buildPayload row = .ok payload ∧
    ∀ inp w, ∃ response, (upsert i (runner.upsertCall key payload) inp w).1 = .ok response

/-- Then `sync_records` returns and no row fails. -/
theorem returned_of_alwaysAnswers {ι ω : Type} [Nonempty ι] {self : BaseODataSyncRunner}
    {logger : Logger} {upsert : Upsert ι ω} {records : List NamedTuple} {world : ω}
    {s : WriteLoop NamedTuple Stage (Shared ω)} (hanswers : self.AlwaysAnswers upsert records)
    (hworkers : 1 ≤ self.maxWorkers) (h : self.SyncEnds logger upsert records world s) :
    s.phase = .exited none ∧ s.result .failed = 0 := by
  have hover : ∀ {i : ℕ} {result}, s.pool.results[i]? = some (some result) →
      result = .ok .skipped ∨ ∃ response, result = .ok (outcomeOf response) := by
    intro i result hresult
    obtain ⟨row, -, hrow, hhistory⟩ := history_of_result h.1 hresult
    obtain ⟨key, payload, hkey, hpayload, hreplies⟩ := hanswers i row hrow
    exact hhistory.result_of_replies hkey hpayload hreplies
  have hphase : s.phase = .exited none := by
    refine returned_of_syncEnds hworkers h ?_
    rintro e ⟨i, hresult⟩
    rcases hover hresult with hskipped | ⟨response, hok⟩
    · cases hskipped
    · cases hok
  refine ⟨hphase, ?_⟩
  rw [(WriteLoop.inv_of_reachable h.1).count_of_returned hphase, List.count_eq_zero]
  intro hmem
  obtain ⟨i, hi⟩ := List.getElem?_of_mem hmem
  rcases hover hi with hskipped | ⟨response, hok⟩
  · cases hskipped
  · unfold outcomeOf at hok
    split at hok <;> cases hok

end BaseODataSyncRunner

/-- What a run over a client that commits to the feed's table did to the destination is told by its
exit code. -/
theorem EffectfulRunner.RunEnds.delivered [IdentifierTables] {S C ι ω : Type}
    {self : EffectfulRunner S C ω} {runner : DataverseInventorySyncRunner} {logger : Logger}
    {store : ω → Destination} {upsert : C → Upsert ι ω} {frames : List DataFrame}
    {columns : List String} {records : DataFrame} {initial final : ω} {code : ℕ}
    (hfeed : AcceptedFeed runner frames columns records)
    (hcommits : ∀ client, self.Prepared client records →
      runner.odata.Commits store (upsert client) records.itertuples)
    (h : self.RunEnds runner.odata logger upsert records initial code final) :
    (code = 0 ∨ code = 1) ∧ PartlyDelivered runner frames (store initial) (store final) ∧
      (code = 0 → Delivered runner frames (store initial) (store final)) := by
  cases h with
  | unprepared => exact ⟨.inr rfl, fun key => .inl rfl, by simp⟩
  | @returned client s hprepared hends hphase =>
    have hcommits := hcommits client hprepared
    have hkept := BaseODataSyncRunner.kept_of_commits hcommits hends.1
    refine ⟨?_, partlyDelivered_of_partly hfeed hkept.partly, fun hzero => ?_⟩
    · by_cases hfailed : s.result .failed = 0 <;> simp [hfailed]
    · have hfailed : s.result .failed = 0 := by
        by_contra hne
        simp [hne] at hzero
      rw [BaseODataSyncRunner.world_of_commits hcommits hends.1 hphase hfailed]
      exact delivered_of_writeAll hfeed fun row hrow =>
        BaseODataSyncRunner.exists_request_of_returned hcommits.answersRequests hends.1 hphase
          hfailed hrow
  | @raised client s e hprepared hends hphase =>
    have hcommits := hcommits client hprepared
    have hkept := BaseODataSyncRunner.kept_of_commits hcommits hends.1
    exact ⟨.inr rfl, partlyDelivered_of_partly hfeed hkept.partly, by simp⟩

/-- A run whose hooks return, and in which every call returns, exits with 0. -/
theorem EffectfulRunner.RunEnds.eq_zero_of_alwaysAnswers [IdentifierTables] {S C ι ω : Type}
    [Nonempty ι] {self : EffectfulRunner S C ω} {runner : BaseODataSyncRunner} {logger : Logger}
    {upsert : C → Upsert ι ω} {records : DataFrame} {initial final : ω} {code : ℕ}
    (hanswers : ∀ client, self.Prepared client records →
      runner.AlwaysAnswers (upsert client) records.itertuples)
    (hprepared : ∃ client, self.Prepared client records) (hworkers : 1 ≤ runner.maxWorkers)
    (h : self.RunEnds runner logger upsert records initial code final) : code = 0 := by
  cases h with
  | unprepared h =>
    rcases h with hunprepared | hrefused
    · exact absurd hprepared hunprepared
    · exact absurd hworkers (not_le.2 (Int.lt_add_one_of_le hrefused))
  | returned hprepared hends _ =>
    have hanswers := hanswers _ hprepared
    exact if_pos (BaseODataSyncRunner.returned_of_alwaysAnswers hanswers hworkers hends).2
  | raised hprepared hends hphase =>
    have hanswers := hanswers _ hprepared
    have hreturned := BaseODataSyncRunner.returned_of_alwaysAnswers hanswers hworkers hends
    rw [hphase] at hreturned
    cases hreturned.1

end Sync
