import InventorySync.Foundations.SharedWorld
import InventorySync.Sync.ExitCode

/-!
# Runs that overlap

Nothing keeps a scheduler from starting the service while an earlier run of it is still going, on
the same machine or on another. The runs share nothing but the destination: each has its own
workers, window, breaker and token, and their requests reach the destination in any order. A request
that a run has given up on may even be applied long after that.

* `overlapStep`: one step of one of the runs, or a late request;
* `guarantees_overlap`: the runs rely on the others to write the table of the feed in part, and
  guarantee that they do no more than that;
* `overlapping_runs_deliver`: as soon as one of them has returned with no row failed, the last rows
  of the feed are in the destination, and no other run undoes that.
-/

open Python Pandas Ingest Transport ThreadPool PatchStore

namespace Sync

namespace WriteLoop

variable {σ ω : Type}

/-- The scheduler's choice, with the world as what a stepping call finds. -/
def Label.on (world : ω) : Label Unit → Label ω
  | .main => .main
  | .wait done => .wait done
  | .collect i => .collect i
  | .dequeue i => .dequeue i
  | .advance i () => .advance i world

/-- This choice is the step in which the request of a call is finished. -/
def isRequesting {ι : Type} (s : WriteLoop NamedTuple Stage σ) : Label ι → Bool
  | .advance i _ =>
    match s.pool.calls[i]? with
    | some ⟨_, .running (.calling _ _)⟩ => true
    | _ => false
  | _ => false

/-- Where no call steps, the shared state of the calls is left alone. -/
theorem shared_of_step {ρ ℓ ι : Type} {W : ℕ} {window : ℤ}
    {c : Callable ρ ℓ σ ι (Except PyException Outcome)} {s s' : WriteLoop ρ ℓ σ} {lab : Label ι}
    (h : Step W window c s lab s') (hlab : ∀ i inp, lab ≠ .advance i inp) :
    s'.pool.shared = s.pool.shared := by
  cases h with
  | dequeue hpool => cases hpool; rfl
  | advance => exact absurd rfl (hlab _ _)
  | submit => rfl
  | submitCollected => rfl
  | drain => rfl
  | close => rfl
  | exit => rfl
  | wait => rfl
  | collect => rfl
  | raise => rfl

end WriteLoop

/-- `upsert_record` on a world that others act on too: the call finds the world as it is then. -/
def onShared {ω : Type} (upsert : Upsert Unit ω) : Upsert ω ω :=
  fun i call world _ => upsert i call () world

namespace BaseODataSyncRunner

section Part

variable (self : BaseODataSyncRunner) (logger : Logger) (upsert : Upsert Unit Destination)

/-- One step of a run on a destination that it shares. -/
def partStep (s : WriteLoop NamedTuple Stage (Shared Destination)) (world : Destination)
    (lab : WriteLoop.Label Unit) :
    Option (WriteLoop NamedTuple Stage (Shared Destination) × Destination) :=
  (s.step self.maxWorkers.toNat self.writeWindowSize
      (self.upsertCallable logger (onShared upsert)) (lab.on world)).map fun s' =>
    -- a request leaves the destination as the run now knows it
    (s', if s.isRequesting lab then s'.pool.shared.world else world)

variable {self logger upsert} {records : List NamedTuple} {initial world world' : Destination}
  {s s' : WriteLoop NamedTuple Stage (Shared Destination)} {lab : WriteLoop.Label Unit}

/-- A step of a run on a shared destination is a step of `sync_records`. -/
theorem syncReaches_of_partStep
    (hs : self.SyncReaches logger (onShared upsert) records initial s)
    (h : self.partStep logger upsert s world lab = some (s', world')) :
    self.SyncReaches logger (onShared upsert) records initial s' := by
  obtain ⟨schedule, hrun⟩ := hs
  obtain ⟨next, hstep, heq⟩ := Option.map_eq_some_iff.1 h
  obtain rfl : next = s' := congrArg Prod.fst heq
  exact ⟨schedule ++ [lab.on world], TransitionSystem.exec_concat_eq_some.2 ⟨s, hrun, hstep⟩⟩

/-- A step of a run writes its table in part, and keeps what was kept. -/
theorem kept_of_partStep (hcommits : self.Commits id upsert records)
    (hs : self.SyncReaches logger (onShared upsert) records initial s)
    (hkept : self.Kept records initial s.pool.shared.trace world)
    (h : self.partStep logger upsert s world lab = some (s', world')) :
    self.Kept records initial s'.pool.shared.trace world' ∧
      Partly (self.payloads records) world world' := by
  have hinv' := WriteLoop.inv_of_reachable (syncReaches_of_partStep hs h)
  obtain ⟨next, hstep, heq⟩ := Option.map_eq_some_iff.1 h
  obtain rfl : next = s' := congrArg Prod.fst heq
  have hworld' : (if s.isRequesting lab then next.pool.shared.world else world) = world' :=
    congrArg Prod.snd heq
  have hstep' := WriteLoop.step_eq_some_iff.1 hstep
  cases lab with
  | advance j inp =>
    cases hstep' with
    | @advance _ _ pool hpool =>
      cases hpool with
      | @advance _ _ row stage pr shared hcall hcallStep =>
        have hrow : records[j]? = some row := by
          have hold : s.pool.rows[j]? = some row := by
            rw [Pool.rows, List.getElem?_map, hcall]
            rfl
          have horder := (WriteLoop.inv_of_reachable hs).order
          rw [← horder, List.getElem?_append_left (List.getElem?_eq_some_iff.1 hold).1]
          exact hold
        have hupsertStep : self.Step logger (onShared upsert) j row s.pool.shared stage world pr
            shared := step_of_upsertStep hcallStep
        rcases world_of_step hupsertStep with
          ⟨-, new, htrace, -, hnew⟩ | ⟨key, payload, reply, rfl, hupsert, htrace⟩
        · -- no request was finished, so the destination is left alone
          have hquiet : s.isRequesting (.advance j inp) = false := by
            cases stage with
            | calling key payload =>
              cases hupsertStep with
              | @answer _ _ _ reply _ _ =>
                have hsplit : new = [.returned j reply] :=
                  List.append_cancel_right (htrace.symm.trans List.singleton_append.symm)
                cases hnew (.returned j reply) (hsplit ▸ List.mem_singleton_self _)
            | _ => simp [WriteLoop.isRequesting, hcall]
          rw [hquiet] at hworld'
          obtain rfl : world = world' := hworld'
          change self.Kept records initial shared.trace world ∧ _
          rw [htrace]
          exact ⟨hkept.mono (.refl _ world) _ hnew, .refl _ world⟩
        · -- the request found the destination as it was, and left it as the run knows it
          have hrequesting : s.isRequesting (.advance j inp) = true := by
            simp [WriteLoop.isRequesting, hcall]
          rw [hrequesting] at hworld'
          obtain rfl : shared.world = world' := hworld'
          obtain ⟨-, hkey, hpayload⟩ :=
            ((traced_of_syncReaches hs).history j row _ hcall).not_isReply_of_calling
          have hreply : upsert j (self.upsertCall key payload) () world = (reply, shared.world) :=
            hupsert
          have hcallKept := hcommits.kept hkept () hrow hkey hpayload
          have hpartly := hcommits.partly j row key payload () world hrow hkey hpayload
          rw [hreply] at hcallKept hpartly
          change self.Kept records initial shared.trace shared.world ∧ _
          rw [htrace]
          exact ⟨hcallKept, hpartly⟩
  | _ =>
    -- the main thread and the queue do not touch the destination
    have hshared := WriteLoop.shared_of_step hstep' (by simp [WriteLoop.Label.on])
    obtain rfl : world = world' := hworld'
    rw [hshared]
    exact ⟨hkept, .refl _ world⟩

end Part

end BaseODataSyncRunner

/-! ### The runs together -/

/-- What a run of the service has of its own, on top of the feed and the field mapping. -/
structure Party where
  tuning : Tuning
  logger : Logger
  token : String
  fate : ℕ → Fate

namespace DataverseInventorySyncRunner

section Overlap

variable {θ : Type} [DecidableEq θ] (self : DataverseInventorySyncRunner) (client : ODataClient)
  (parties : θ → Party)

/-- `upsert_record` as one of the runs calls it. -/
def partyUpsert (r : θ) : Upsert Unit Destination :=
  self.odata.upsertInto client (parties r).token (parties r).fate

/-- A request for a key of the table is applied, whichever run sent it and gave up on it. -/
def applyLate (records : List NamedTuple) (world : Destination) (key : String) :
    Option Destination :=
  (self.odata.payloads records key).map fun record => patch world key record

/-- One step of one of the runs, or a late request. -/
def overlapStep (records : List NamedTuple) :
    SharedWorld.State θ (WriteLoop NamedTuple Stage (Shared Destination)) Destination →
      SharedWorld.Label θ (WriteLoop.Label Unit) String →
      Option (SharedWorld.State θ (WriteLoop NamedTuple Stage (Shared Destination)) Destination) :=
  SharedWorld.step
    (fun r => (self.tuned (parties r).tuning).odata.partStep (parties r).logger
      (self.partyUpsert client parties r))
    (self.applyLate records)

/-- No run has begun to write. -/
def overlapStart (records : List NamedTuple) (initial : Destination) :
    SharedWorld.State θ (WriteLoop NamedTuple Stage (Shared Destination)) Destination where
  part r := WriteLoop.start records ⟨.new (parties r).tuning.failureThreshold, initial, []⟩
  world := initial

/-- What holds of one run, whatever the others do. -/
def OverlapInv (records : List NamedTuple) (initial : Destination) (r : θ)
    (s : WriteLoop NamedTuple Stage (Shared Destination)) (world : Destination) : Prop :=
  (self.tuned (parties r).tuning).odata.SyncReaches (parties r).logger
      (onShared (self.partyUpsert client parties r)) records initial s ∧
    self.odata.Kept records initial s.pool.shared.trace world

variable {self} {records : List NamedTuple} {initial : Destination}

omit [DecidableEq θ] in
/-- Each run commits to the one table that they all write. -/
theorem commits_partyUpsert
    (hdistinct : (records.map fun row => row.getattr self.odata.dedupeKey).Nodup) (r : θ) :
    (self.tuned (parties r).tuning).odata.Commits id (self.partyUpsert client parties r) records :=
  (BaseODataSyncRunner.requests_upsertInto client _ _).commits hdistinct

variable (initial) in
omit [DecidableEq θ] in
theorem guarantees_overlap
    (hdistinct : (records.map fun row => row.getattr self.odata.dedupeKey).Nodup) :
    SharedWorld.Guarantees
      (fun r => (self.tuned (parties r).tuning).odata.partStep (parties r).logger
        (self.partyUpsert client parties r))
      (self.applyLate records) (self.OverlapInv client parties records initial)
      (Partly (self.odata.payloads records)) where
  part r s world lab s' world' hs hstep := by
    obtain ⟨hreaches, hkept⟩ := hs
    obtain ⟨hkept', hpartly⟩ := BaseODataSyncRunner.kept_of_partStep
      (commits_partyUpsert client parties hdistinct r) hreaches ⟨hkept.partly, hkept.answered⟩ hstep
    exact ⟨⟨BaseODataSyncRunner.syncReaches_of_partStep hreaches hstep,
      hkept'.partly, hkept'.answered⟩, hpartly⟩
  environment world key world' hlate := by
    obtain ⟨record, htable, rfl⟩ := Option.map_eq_some_iff.1 hlate
    exact partly_patch htable world
  stable r s world world' hs hworld := by
    obtain ⟨hreaches, hkept⟩ := hs
    exact ⟨hreaches, hkept.mono hworld [] (by simp)⟩

end Overlap

/-- Any number of runs of the same feed overlap, each with its own tuning, failures and schedule,
and requests that were given up on may be applied at any time. Whatever has happened so far, no more
than the last rows of the feed has been written, each as a whole. Once any of the runs has returned
with no row failed, all of them are written, and stay so whatever the other runs still do. -/
theorem overlapping_runs_deliver [IdentifierTables] {θ : Type} [DecidableEq θ]
    (self : DataverseInventorySyncRunner) (frames : List DataFrame) (columns : List String)
    (records : DataFrame) (hfeed : AcceptedFeed self frames columns records) (client : ODataClient)
    (parties : θ → Party) (initial : Destination)
    (schedule : List (SharedWorld.Label θ (WriteLoop.Label Unit) String))
    (s : SharedWorld.State θ (WriteLoop NamedTuple Stage (Shared Destination)) Destination)
    (hrun : TransitionSystem.exec (self.overlapStep client parties records.itertuples)
      (overlapStart parties records.itertuples initial) schedule = some s) :
    PartlyDelivered self frames initial s.world ∧
      ∀ r, (s.part r).phase = .exited none → (s.part r).result .failed = 0 →
        Delivered self frames initial s.world := by
  have hdistinct := BaseODataSyncRunner.distinct_of_acceptedFeed hfeed
  have hguarantees := guarantees_overlap client parties initial hdistinct
  have hstart : ∀ r, self.OverlapInv client parties records.itertuples initial r
      ((overlapStart parties records.itertuples initial).part r) initial :=
    fun r => ⟨⟨[], rfl⟩, BaseODataSyncRunner.kept_start⟩
  have hinv := hguarantees.forall_of_exec hstart hrun
  have hpartly : Partly (self.odata.payloads records.itertuples) initial s.world :=
    partly_of_reflTransGen (hguarantees.rel_of_exec hstart hrun)
  refine ⟨partlyDelivered_of_partly hfeed hpartly, fun r hphase hfailed => ?_⟩
  obtain ⟨hreaches, hkept⟩ := hinv r
  -- the run that returned saw an answer for every row, and what it wrote stands
  have hall : ∀ (i : ℕ) row, records.itertuples[i]? = some row →
      ∃ response, Event.returned i (.ok response) ∈ (s.part r).pool.shared.trace := by
    intro i row hrow
    obtain ⟨-, response, -, hresponse⟩ :=
      (BaseODataSyncRunner.failed_eq_zero_iff hreaches hphase).1 hfailed i row hrow
    exact ⟨response, hresponse⟩
  rw [hkept.eq_writeAll hall]
  refine delivered_of_writeAll hfeed fun row hrow => ?_
  have hanswers : (self.tuned (parties r).tuning).odata.AnswersRequests
      (onShared (self.partyUpsert client parties r)) records.itertuples := by
    intro i row key payload w _ response
    exact (commits_partyUpsert client parties hdistinct r).answersRequests i row key payload () w
      response
  exact BaseODataSyncRunner.exists_request_of_returned hanswers hreaches hphase hfailed hrow

open BaseODataSyncRunner (dataverseClient inTurn)

/-- A feed of one row. -/
def boltRow : List (String × PyValue × PyValue) := [("SKU-1", .str "Bolt", .int 3)]

/-- Two runs of a feed of one row: the first has sent its request and lost the answer, and the
second goes through while the first is still waiting. -/
def twoRuns : List (SharedWorld.Label Bool (WriteLoop.Label Unit) String) :=
  [.part false .main, .part false (.dequeue 0), .part false (.advance 0 ()),
    .part false (.advance 0 ()), .part false (.advance 0 ())] ++
      (inTurn 1).map (.part true) ++ [.environment "SKU-1"]

/-- The first of them loses its answer, the second is served. -/
def twoParties : Bool → Party
  | false => ⟨⟨10, 5, 50⟩, standardLogger, "token", fun _ => secondLost 1⟩
  | true => ⟨⟨1, 1, 1⟩, standardLogger, "token", noContent⟩

set_option maxRecDepth 20000 in
/-- Where they are after that. -/
def twoRunsEnd : SharedWorld.State Bool (WriteLoop NamedTuple Stage (Shared Destination))
    Destination :=
  (TransitionSystem.exec
    ((shippedRunner boltRow).overlapStep dataverseClient twoParties
      (@DataFrame.itertuples asciiTables (shippedFrame boltRow)))
    (overlapStart twoParties (@DataFrame.itertuples asciiTables (shippedFrame boltRow)) stocked)
    twoRuns).get rfl

set_option maxRecDepth 20000 in
theorem overlapping_runs_deliver_twoRuns :
    @Delivered asciiTables (shippedRunner boltRow) [shippedFrame boltRow] stocked
      twoRunsEnd.world :=
  (@overlapping_runs_deliver asciiTables Bool _ (shippedRunner boltRow) [shippedFrame boltRow] _
    (shippedFrame boltRow) (acceptedFeed_shipped rfl) dataverseClient twoParties stocked
    twoRuns twoRunsEnd (Option.some_get _).symm).2 true rfl rfl

end DataverseInventorySyncRunner

end Sync
