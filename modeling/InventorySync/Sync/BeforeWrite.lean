import InventorySync.Ingest.LazyValidation
import InventorySync.Sync.Run

/-!
# Nothing is written before everything is read

`BaseSyncRunner.run` with its effects: the chunks pulled from the source, the requests of the
workers, and the destination they act on. Reading and validating the whole feed ends before the
first request is made.

* `run_loadRecords`: loading pulls chunks and touches nothing else;
* `Prepared`: the hooks before `sync_records` all return;
* `run_exits_and_writes_only_if_prepared`: a run that is not prepared exits with 1 and writes
  nothing, and every run exits with 0 or 1.
-/

open Python Pandas Ingest Transport

namespace Sync

/-! ### A run with its effects -/

/-- What a run has done so far: the destination as its requests left it, what its workers did
(newest first), and how many chunks it pulled from its source. -/
structure Effects (ω : Type) where
  world : ω
  trace : List Event
  pulledChunks : ℕ

/-- The effects after pulling more chunks. -/
def Effects.pull {ω : Type} (effects : Effects ω) (n : ℕ) : Effects ω :=
  { effects with pulledChunks := effects.pulledChunks + n }

@[simp]
theorem Effects.world_pull {ω : Type} (effects : Effects ω) (n : ℕ) :
    (effects.pull n).world = effects.world := rfl

@[simp]
theorem Effects.trace_pull {ω : Type} (effects : Effects ω) (n : ℕ) :
    (effects.pull n).trace = effects.trace := rfl

theorem Effects.pull_pull {ω : Type} (effects : Effects ω) (n m : ℕ) :
    (effects.pull n).pull m = effects.pull (n + m) := by
  simp [Effects.pull, Nat.add_assoc]

/-- A computation that may raise and keeps its effects when it does. -/
abbrev Effectful (ω α : Type) := EStateM PyException (Effects ω) α

section Raise

variable {ω α β : Type}

/-- The outcome of a computation without effects. -/
def outcome (x : Except PyException α) (effects : Effects ω) :
    EStateM.Result PyException (Effects ω) α :=
  match x with
  | .ok a => .ok a effects
  | .error e => .error e effects

/-- A computation without effects. -/
def noEffect (x : Except PyException α) : Effectful ω α := outcome x

@[simp]
theorem run_noEffect (x : Except PyException α) (effects : Effects ω) :
    (noEffect x).run effects = outcome x effects := rfl

/-- A sequence of computations without effects has none. -/
theorem noEffect_bind (x : Except PyException α) (f : α → Except PyException β) :
    (noEffect x >>= fun a => noEffect (f a) : Effectful ω β) = noEffect (x.bind f) := by
  funext effects
  cases x <;> rfl

/-- What follows a computation without effects runs from the same state, if it runs at all. -/
theorem run_noEffect_bind (x : Except PyException α) (f : α → Effectful ω β)
    (effects : Effects ω) :
    (noEffect x >>= f).run effects =
      match x with
      | .ok a => (f a).run effects
      | .error e => .error e effects := by
  cases x <;> rfl

/-- A computation raises what another raises that has no effects, and has touched the source at
most. -/
def RaisesAlike (m : Effectful ω α) (x : Except PyException β) (effects : Effects ω) : Prop :=
  ∃ e n, m.run effects = .error e (effects.pull n) ∧ x = .error e

/-- A block raises alike if its first part does, or what follows where that does not raise. -/
theorem RaisesAlike.bind {γ : Type} {x : Except PyException α} {f : α → Effectful ω β}
    {g : α → Except PyException γ} {effects : Effects ω}
    (h : ∀ a, x = .ok a → RaisesAlike (f a) (g a) effects) :
    RaisesAlike (noEffect x >>= f) (x.bind g) effects := by
  cases x with
  | error e => exact ⟨e, 0, rfl, rfl⟩
  | ok a => exact h a rfl

/-- What a computation returned or raised, without its effects. -/
def value : EStateM.Result PyException (Effects ω) α → Except PyException α
  | .ok a _ => .ok a
  | .error e _ => .error e

@[simp]
theorem value_outcome (x : Except PyException α) (effects : Effects ω) :
    value (outcome x effects) = x := by
  cases x <;> rfl

end Raise

/-- The hooks of a run with settings `S` and client `C`, over an ingest base. What `sync_records`
returns or raises, and what it does to the destination, is left open. -/
structure EffectfulRunner (S C ω : Type) where
  loadSettings : Except PyException S
  configureLogging : S → Except PyException Unit
  buildClient : S → Except PyException C
  acquireBearerToken : C → Except PyException Unit
  ingest : InventoryDomainMixin
  syncRecords : C → DataFrame → Effectful ω Result

namespace EffectfulRunner

variable [IdentifierTables] {S C ω : Type} (self : EffectfulRunner S C ω)

/-- One pass of the loop over chunks: pull a chunk from the source, validate it, and record it. -/
def pullChunk (seen : Seen) (chunk : Except PyException DataFrame) : Effectful ω Seen := do
  -- the chunk has left the source, whatever comes of it
  modify fun effects => effects.pull 1
  noEffect (recordChunk self.ingest.dedupeKey seen (chunk.bind self.ingest.validate))

/-- `load_records`, which pulls the chunks of a chunked source one at a time. -/
def loadRecords : Effectful ω DataFrame :=
  match self.ingest.source with
  | .chunked readRecordChunks => do
    let chunks ← noEffect (readRecordChunks self.ingest.chunksize)
    let seen ← chunks.foldlM self.pullChunk ⟨none, InsertionDict.empty⟩
    -- no rows in any chunk: an empty frame under the labels of the first
    if seen.latestByKey.entries.isEmpty then
      return DataFrame.ofColumns (seen.columns.getD [])
    else
      noEffect (DataFrame.ofNamedTuples seen.latestByKey.values)
  | .oneShot readRecords => do
    let records ← noEffect readRecords
    let records ← noEffect (self.ingest.validate records)
    noEffect (dedupeLastSeen records self.ingest.dedupeKey)

/-- The `try` block. -/
def attempt : Effectful ω (DataFrame × InsertionDict String ℕ) := do
  let settings ← noEffect self.loadSettings
  noEffect (self.configureLogging settings)
  let client ← noEffect (self.buildClient settings)
  noEffect (self.acquireBearerToken client)
  let records ← self.loadRecords
  let result ← self.syncRecords client records
  return (records, result.toDict)

/-- Configure, authenticate, read, write, report. -/
def run (logger : Logger) : Effectful ω ℕ := fun effects =>
  -- the `except` clauses differ in what they log
  match self.attempt.run effects with
  | .error e effects => (noEffect (do
      logger.log (BaseSyncRunner.failureReport e)
      return 1)).run effects
  | .ok (records, result) effects => (noEffect (do
      let created ← getItem result "created"
      let updated ← getItem result "updated"
      let failed ← getItem result "failed"
      logger.log (BaseSyncRunner.summary result records.rows.length created updated failed)
      return if failed = 0 then 0 else 1)).run effects

/-- The same run without its effects, if it starts from these. -/
def base (effects : Effects ω) : BaseSyncRunner S C where
  loadSettings := self.loadSettings
  configureLogging := self.configureLogging
  buildClient := self.buildClient
  acquireBearerToken := self.acquireBearerToken
  loadRecords := self.ingest.loadRecords
  syncRecords client records := (value ((self.syncRecords client records).run
    (effects.pull self.ingest.pulledChunks))).map Result.toDict

/-- The hooks before `sync_records` all return, and these are the client and the records. -/
def Prepared (client : C) (records : DataFrame) : Prop :=
  ∃ settings, self.loadSettings = .ok settings ∧ self.configureLogging settings = .ok () ∧
    self.buildClient settings = .ok client ∧ self.acquireBearerToken client = .ok () ∧
    self.ingest.loadRecords = .ok records

end EffectfulRunner

/-! ### Loading touches nothing but the source -/

section Load

variable [IdentifierTables] {S C ω : Type} {self : EffectfulRunner S C ω}

/-- The loop over chunks is that of the dedup, and counts the chunks it takes. -/
theorem run_foldlM_pullChunk (chunks : List (Except PyException DataFrame)) (seen : Seen)
    (effects : Effects ω) :
    (chunks.foldlM self.pullChunk seen).run effects =
      outcome ((self.ingest.validatedChunks chunks).foldlM
        (recordChunk self.ingest.dedupeKey) seen)
        (effects.pull (Except.foldlTaken (recordChunk self.ingest.dedupeKey) seen
          (self.ingest.validatedChunks chunks))) := by
  induction chunks generalizing seen effects with
  | nil => rfl
  | cons chunk chunks ih =>
    have hstep : (self.pullChunk seen chunk).run effects =
        outcome (recordChunk self.ingest.dedupeKey seen (chunk.bind self.ingest.validate))
          (effects.pull 1) := rfl
    have hchunks : self.ingest.validatedChunks (chunk :: chunks) =
        chunk.bind self.ingest.validate :: self.ingest.validatedChunks chunks := rfl
    rw [List.foldlM_cons, EStateM.run_bind, hstep, hchunks, List.foldlM_cons, Except.foldlTaken]
    cases recordChunk self.ingest.dedupeKey seen (chunk.bind self.ingest.validate) with
    -- a pass that raises ends the loop: this chunk is the last one taken
    | error e => rfl
    | ok seen' =>
      refine (ih seen' (effects.pull 1)).trans ?_
      rw [Effects.pull_pull, Nat.add_comm 1]
      rfl

/-- Loading the records returns or raises what `load_records` does, and has pulled its chunks. -/
theorem run_loadRecords (effects : Effects ω) :
    self.loadRecords.run effects =
      outcome self.ingest.loadRecords (effects.pull self.ingest.pulledChunks) := by
  unfold EffectfulRunner.loadRecords InventoryDomainMixin.loadRecords
    InventoryDomainMixin.pulledChunks
  cases self.ingest.source with
  | oneShot readRecords =>
    change (noEffect readRecords >>= fun records => noEffect (self.ingest.validate records) >>=
      fun records => noEffect (dedupeLastSeen records self.ingest.dedupeKey)).run effects = _
    -- one frame is not pulled in chunks, so nothing is counted
    simp only [noEffect_bind]
    rfl
  | chunked readRecordChunks =>
    simp only
    cases readRecordChunks self.ingest.chunksize with
    | error e => rfl
    | ok chunks =>
      have hfold : (chunks.foldlM self.pullChunk ⟨none, InsertionDict.empty⟩).run effects = _ :=
        run_foldlM_pullChunk chunks _ effects
      change (chunks.foldlM self.pullChunk ⟨none, InsertionDict.empty⟩ >>= fun seen =>
        if seen.latestByKey.entries.isEmpty then pure (DataFrame.ofColumns (seen.columns.getD []))
        else noEffect (DataFrame.ofNamedTuples seen.latestByKey.values)).run effects =
          outcome (dedupeLastSeenChunks (self.ingest.validatedChunks chunks)
            self.ingest.dedupeKey) _
      rw [EStateM.run_bind, hfold, dedupeLastSeenChunks]
      cases (self.ingest.validatedChunks chunks).foldlM (recordChunk self.ingest.dedupeKey)
          ⟨none, InsertionDict.empty⟩ with
      | error e => rfl
      | ok seen =>
        -- what is made of the dictionary does not read the source
        change (if seen.latestByKey.entries.isEmpty then pure _ else noEffect _ :
          Effectful ω DataFrame).run _ = outcome (if _ then _ else _) _
        split <;> rfl

end Load

/-! ### A run -/

section Run

variable [IdentifierTables] {S C ω : Type} {self : EffectfulRunner S C ω}

/-- The `try` block of a run that is prepared ends as `sync_records` does. -/
theorem run_attempt_of_prepared {client : C} {records : DataFrame}
    (h : self.Prepared client records) (effects : Effects ω) :
    self.attempt.run effects =
      (self.syncRecords client records >>= fun result => pure (records, result.toDict)).run
        (effects.pull self.ingest.pulledChunks) := by
  obtain ⟨settings, hsettings, hlogging, hclient, htoken, hrecords⟩ := h
  have hload : self.loadRecords.run effects =
      .ok records (effects.pull self.ingest.pulledChunks) := by
    rw [run_loadRecords, hrecords]
    rfl
  -- the hooks return one after the other, and then the records are loaded
  unfold EffectfulRunner.attempt
  simp only [run_noEffect_bind, hsettings, hlogging, hclient, htoken]
  rw [EStateM.run_bind, hload]

/-- The `try` block of a run that is not prepared raises, and has touched the source at most. -/
theorem run_attempt_of_not_prepared (h : ¬∃ client records, self.Prepared client records)
    (effects : Effects ω) : RaisesAlike self.attempt (self.base effects).attempt effects := by
  -- the first hook that raises ends the block, and the hooks before it touch nothing
  refine .bind fun settings hsettings => .bind fun _ hlogging => .bind fun client hclient =>
    .bind fun _ htoken => ?_
  have hload : self.loadRecords.run effects = _ := run_loadRecords effects
  cases hrecords : self.ingest.loadRecords with
  | error e =>
    rw [hrecords] at hload
    refine ⟨e, self.ingest.pulledChunks, ?_, ?_⟩
    · rw [EStateM.run_bind, hload]
      rfl
    · exact Except.bind_eq_error.2 (.inl hrecords)
  | ok records =>
    exact absurd
      ⟨client, records, settings, hsettings, hlogging, hclient, htoken, hrecords⟩ h

/-- The `try` block comes to what it does without its effects. -/
theorem value_attempt (effects : Effects ω) :
    value (self.attempt.run effects) = (self.base effects).attempt := by
  -- both blocks go through the same hooks, and part at `sync_records`, if they get there
  by_cases hprepared : ∃ client records, self.Prepared client records
  · obtain ⟨client, records, hprepared⟩ := hprepared
    rw [run_attempt_of_prepared hprepared]
    obtain ⟨settings, hsettings, hlogging, hclient, htoken, hrecords⟩ := hprepared
    unfold BaseSyncRunner.attempt EffectfulRunner.base
    rw [EStateM.run_bind]
    simp only [hsettings, hlogging, hclient, htoken, hrecords, Except.bind, bind]
    cases (self.syncRecords client records).run (effects.pull self.ingest.pulledChunks) with
    | error e effects' => rfl
    | ok result effects' => rfl
  · obtain ⟨e, n, hrun, hattempt⟩ := run_attempt_of_not_prepared hprepared effects
    rw [hrun, hattempt]
    rfl

/-- A run whose `try` block raised exits with 1, and leaves the effects as the block did. -/
theorem run_of_attempt_eq_error {e : PyException} {effects effects' : Effects ω}
    (h : self.attempt.run effects = .error e effects') (logger : Logger) :
    (self.run logger).run effects = .ok 1 effects' := by
  have hlog := BaseSyncRunner.log_failureReport logger e
  change EffectfulRunner.run self logger effects = _
  rw [EffectfulRunner.run, h]
  simp only [run_noEffect, hlog]
  rfl

/-- A run whose `try` block returned exits with 0 exactly when no row failed. -/
theorem run_of_attempt_eq_ok {records : DataFrame} {result : Result} {effects effects' : Effects ω}
    (h : self.attempt.run effects = .ok (records, result.toDict) effects') (logger : Logger) :
    (self.run logger).run effects = .ok (if result .failed = 0 then 0 else 1) effects' := by
  -- the dictionary has every entry that the summary reads
  have hcreated : getItem result.toDict "created" = .ok (result .created) := rfl
  have hupdated : getItem result.toDict "updated" = .ok (result .updated) := rfl
  have hfailed : getItem result.toDict "failed" = .ok (result .failed) := rfl
  change EffectfulRunner.run self logger effects = _
  rw [EffectfulRunner.run, h]
  simp only [hcreated, hupdated, hfailed, run_noEffect]
  change outcome (Except.bind (logger.log _) _) _ = _
  rw [BaseSyncRunner.log_summary]
  rfl

/-- A run exits as it does without its effects. -/
theorem value_run (effects : Effects ω) (logger : Logger) :
    value ((self.run logger).run effects) = (self.base effects).run logger := by
  rw [BaseSyncRunner.run, ← value_attempt]
  change value (EffectfulRunner.run self logger effects) = _
  rw [EffectfulRunner.run]
  cases self.attempt.run effects with
  | error e effects' => exact value_outcome _ effects'
  | ok pair effects' => exact value_outcome _ effects'

/-- A run that is not prepared exits with 1, and has touched the source at most. -/
theorem run_of_not_prepared (h : ¬∃ client records, self.Prepared client records) (logger : Logger)
    (effects : Effects ω) :
    ∃ effects', (self.run logger).run effects = .ok 1 effects' ∧
      effects'.world = effects.world ∧ effects'.trace = effects.trace := by
  obtain ⟨e, n, hattempt, -⟩ := run_attempt_of_not_prepared h effects
  exact ⟨effects.pull n, run_of_attempt_eq_error hattempt logger, effects.world_pull n,
    effects.trace_pull n⟩

/-- A run over a chunk that cannot be read or is invalid is not prepared. -/
theorem not_prepared_of_chunk {read : ℤ → Except PyException (List (Except PyException DataFrame))}
    {chunks : List (Except PyException DataFrame)} (hsource : self.ingest.source = .chunked read)
    (hread : read self.ingest.chunksize = .ok chunks) {chunk : Except PyException DataFrame}
    (hchunk : chunk ∈ chunks) (hbad : ∀ df, chunk = .ok df → ¬self.ingest.Valid df) :
    ¬∃ client records, self.Prepared client records := by
  rintro ⟨client, records, settings, -, -, -, -, hrecords⟩
  -- records that load come from valid chunks only
  obtain ⟨frames, hdelivers, hvalid⟩ :=
    InventoryDomainMixin.exists_delivers_of_loadRecords hrecords
  simp only [RecordSource.Delivers, hsource, hread, Except.ok.injEq] at hdelivers
  rw [hdelivers] at hchunk
  obtain ⟨df, hdf, rfl⟩ := List.mem_map.1 hchunk
  exact hbad df rfl (hvalid df hdf)

end Run

/-- A run in which something fails before `sync_records`, such as a chunk anywhere in the feed that
cannot be read or is invalid, exits with 1 and calls `upsert_record` for no record. Whatever
`sync_records` comes to, a run exits with 0 or 1. -/
theorem run_exits_and_writes_only_if_prepared [IdentifierTables] {S C ω : Type}
    (self : EffectfulRunner S C ω) (logger : Logger) (effects : Effects ω) :
    ((¬∃ client records, self.Prepared client records) →
      ∃ effects', (self.run logger).run effects = .ok 1 effects' ∧
        effects'.world = effects.world ∧ effects'.trace = effects.trace) ∧
    (∀ read chunks, self.ingest.source = .chunked read →
      read self.ingest.chunksize = .ok chunks →
      ∀ chunk ∈ chunks, (∀ df, chunk = .ok df → ¬self.ingest.Valid df) →
        ∃ effects', (self.run logger).run effects = .ok 1 effects' ∧
          effects'.world = effects.world ∧ effects'.trace = effects.trace) ∧
    ∃ code effects', (self.run logger).run effects = .ok code effects' ∧
      (code = 0 ∨ code = 1) := by
  refine ⟨fun h => run_of_not_prepared h logger effects, ?_, ?_⟩
  · intro read chunks hsource hread chunk hchunk hbad
    exact run_of_not_prepared (not_prepared_of_chunk hsource hread hchunk hbad) logger effects
  · by_cases hprepared : ∃ client records, self.Prepared client records
    · obtain ⟨client, records, hprepared⟩ := hprepared
      have hattempt := run_attempt_of_prepared hprepared effects
      rw [EStateM.run_bind] at hattempt
      -- `sync_records` returns counts or raises
      cases hsync : (self.syncRecords client records).run
          (effects.pull self.ingest.pulledChunks) with
      | error e effects' =>
        rw [hsync] at hattempt
        exact ⟨1, effects', run_of_attempt_eq_error hattempt logger, .inr rfl⟩
      | ok result effects' =>
        rw [hsync] at hattempt
        refine ⟨_, effects', run_of_attempt_eq_ok hattempt logger, ?_⟩
        split <;> simp
    · obtain ⟨effects', hrun, -⟩ := run_of_not_prepared hprepared logger effects
      exact ⟨1, effects', hrun, .inr rfl⟩

/-- A run over a feed whose second chunk has a blank key, with a `sync_records` that counts the rows
it is given. -/
def blankKeyRun : EffectfulRunner Unit Unit ℕ where
  loadSettings := .ok ()
  configureLogging _ := .ok ()
  buildClient _ := .ok ()
  acquireBearerToken _ := .ok ()
  ingest := shippedMixin (.chunked fun _ => .ok (blankKeyChunks.map .ok))
  syncRecords _ records := do
    modify fun effects => { effects with world := effects.world + records.rows.length }
    return fun _ => 0

/-- The run exits with 1 and has counted nothing. -/
theorem run_exits_and_writes_only_if_prepared_blankKey :
    ∃ effects', (@EffectfulRunner.run asciiTables _ _ _ blankKeyRun standardLogger).run
      ⟨0, [], 0⟩ = .ok 1 effects' ∧ effects'.world = 0 ∧ effects'.trace = [] := by
  have hchunks := (@run_exits_and_writes_only_if_prepared asciiTables _ _ _ blankKeyRun
    standardLogger ⟨0, [], 0⟩).2.1
  refine hchunks _ _ rfl rfl
    (.ok (inventoryFrame [("B", "nut", 2), (" ", "washer", 3)])) ?_ ?_
  · exact List.mem_cons_of_mem _ List.mem_cons_self
  · rintro df ⟨⟩ hvalid
    have haccepted := InventoryDomainMixin.validate_eq_ok.2 ⟨rfl, hvalid⟩
    cases haccepted

end Sync
