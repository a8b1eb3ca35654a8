import InventorySync.Sync.CsvSync

/-!
# A feed in parts

Feeds that are synced one after another, each by as many runs as it takes until one exits with 0.
All fields that a run writes are written for every row, so that a later row with the same key leaves
nothing of an earlier one; and so it does not matter where a feed is cut into parts.

* `Delivered.append`: delivering two feeds in turn is delivering one after the other in one feed;
* `parts_deliver_whole`: feeds that are synced in turn leave the destination as one run over all of
  them does.
-/

open Python Pandas Ingest Transport ThreadPool PatchStore

namespace Sync

/-! ### Feeds that are delivered in turn -/

section Fields

variable {schema : DataverseInventorySyncRunner}

/-- The record of a row leaves nothing of the record of another row. -/
theorem overwrite_overwrite_of_requestOf {row row' : NamedTuple} {key key' : String}
    {record record' : Record String JsonValue}
    (h : schema.odata.requestOf row = some (key, record))
    (h' : schema.odata.requestOf row' = some (key', record'))
    (old : Option (Record String JsonValue)) :
    overwrite record (some (overwrite record' old)) = overwrite record old := by
  refine overwrite_overwrite_of_fields (fun name hname => ?_) old
  rw [eq_none_iff_of_requestOf h] at hname
  rwa [eq_none_iff_of_requestOf h']

/-- Every row of a feed is filed under the text that it is sent under. -/
def TextKeys [IdentifierTables] (schema : DataverseInventorySyncRunner) (frames : List DataFrame) :
    Prop :=
  ∀ row ∈ feedRows frames, ∃ text, row.getattr schema.dedupeKey = .ok (.str text) ∧
    rowKey schema.dedupeKey row = .text text

end Fields

section Delivered

variable [IdentifierTables] {schema : DataverseInventorySyncRunner}
  {frames frames' : List DataFrame} {initial middle final final' : Destination}

theorem TextKeys.rowKey_eq (hkeys : TextKeys schema frames) {row : NamedTuple}
    (hrow : row ∈ feedRows frames) {key : String} {record : Record String JsonValue}
    (hrequest : schema.odata.requestOf row = some (key, record)) :
    rowKey schema.dedupeKey row = .text key := by
  obtain ⟨text, htext, hrowKey⟩ := hkeys row hrow
  cases (BaseODataSyncRunner.getattr_of_requestOf hrequest).symm.trans htext
  exact hrowKey

theorem feedRows_append (frames frames' : List DataFrame) :
    feedRows (frames ++ frames') = feedRows frames ++ feedRows frames' := List.flatMap_append

namespace Delivered

/-- For a key that the feed has, the last row with it is written. -/
theorem exists_of_mem (h : Delivered schema frames initial final) (hkeys : TextKeys schema frames)
    {key : String} (hkey : .text key ∈ (feedRows frames).map (rowKey schema.dedupeKey)) :
    ∃ row record, Recency.IsLatest (rowKey schema.dedupeKey) (feedRows frames) row ∧
      rowKey schema.dedupeKey row = .text key ∧
      schema.odata.requestOf row = some (key, record) ∧
      final key = some (overwrite record (initial key)) := by
  obtain ⟨row, hlatest, hrowKey⟩ := Recency.exists_isLatest hkey
  obtain ⟨key', record, hrequest, hfinal⟩ := h.fed row hlatest
  obtain rfl : key' = key :=
    PyValue.HashKey.text.inj ((hkeys.rowKey_eq hlatest.mem hrequest).symm.trans hrowKey)
  exact ⟨row, record, hlatest, hrowKey, hrequest, hfinal⟩

/-- A delivered feed leaves one destination. -/
theorem unique (h : Delivered schema frames initial final)
    (h' : Delivered schema frames initial final') (hkeys : TextKeys schema frames) :
    final = final' := by
  ext key : 1
  by_cases hkey : .text key ∈ (feedRows frames).map (rowKey schema.dedupeKey)
  · obtain ⟨row, record, hlatest, hrowKey, hrequest, hfinal⟩ := h.exists_of_mem hkeys hkey
    obtain ⟨row', record', hlatest', hrowKey', hrequest', hfinal'⟩ := h'.exists_of_mem hkeys hkey
    obtain rfl := hlatest.unique hlatest' (hrowKey.trans hrowKey'.symm)
    cases hrequest.symm.trans hrequest'
    rw [hfinal, hfinal']
  · rw [h.unfed key hkey, h'.unfed key hkey]

/-- Delivering two feeds in turn is delivering one after the other in one feed. -/
theorem append (h : Delivered schema frames initial middle)
    (h' : Delivered schema frames' middle final) (hkeys : TextKeys schema frames) :
    Delivered schema (frames ++ frames') initial final where
  fed row hlatest := by
    rw [feedRows_append, Recency.isLatest_append] at hlatest
    rcases hlatest with hlatest | ⟨hlatest, hnot⟩
    · -- what the first feed may have written under the key, the second one overwrites
      obtain ⟨key, record, hrequest, hfinal⟩ := h'.fed row hlatest
      refine ⟨key, record, hrequest, ?_⟩
      by_cases hkey : .text key ∈ (feedRows frames).map (rowKey schema.dedupeKey)
      · obtain ⟨row', record', -, -, hrequest', hmiddle⟩ := h.exists_of_mem hkeys hkey
        rw [hfinal, hmiddle, overwrite_overwrite_of_requestOf hrequest hrequest']
      · rw [hfinal, h.unfed key hkey]
    · -- the second feed does not have the key
      obtain ⟨key, record, hrequest, hmiddle⟩ := h.fed row hlatest
      rw [hkeys.rowKey_eq hlatest.mem hrequest] at hnot
      exact ⟨key, record, hrequest, (h'.unfed key hnot).trans hmiddle⟩
  unfed key hunfed := by
    rw [feedRows_append, List.map_append, List.mem_append, not_or] at hunfed
    rw [h'.unfed key hunfed.2, h.unfed key hunfed.1]

/-- Delivering a feed makes good what an attempt to deliver a part of it has left. -/
theorem of_partlyDelivered (h : PartlyDelivered schema frames initial middle)
    (h' : Delivered schema frames' middle final) (hkeys : TextKeys schema frames)
    (hpart : feedRows frames ⊆ feedRows frames') : Delivered schema frames' initial final where
  fed row hlatest := by
    obtain ⟨key, record, hrequest, hfinal⟩ := h'.fed row hlatest
    refine ⟨key, record, hrequest, ?_⟩
    rcases h key with hkept | ⟨row', record', -, hrequest', hmiddle⟩
    · rw [hfinal, hkept]
    · rw [hfinal, hmiddle, overwrite_overwrite_of_requestOf hrequest hrequest']
  unfed key hunfed := by
    rw [h'.unfed key hunfed]
    rcases h key with hkept | ⟨row, record, hlatest, hrequest, -⟩
    · exact hkept
    · have hmem := List.mem_map_of_mem (f := rowKey schema.dedupeKey) (hpart hlatest.mem)
      rw [hkeys.rowKey_eq hlatest.mem hrequest] at hmem
      exact absurd hmem hunfed

end Delivered

end Delivered

/-! ### Runs one after another -/

/-- Two runners that write the same fields under the same keys. Their sources and their tuning may
differ. -/
structure SameSchema (runner schema : DataverseInventorySyncRunner) : Prop where
  dedupeKey_eq : runner.dedupeKey = schema.dedupeKey
  fieldMapping_eq : runner.fieldMapping = schema.fieldMapping

/-- One run of the service over a feed, told by the destinations before and after it and by its exit
code. How many workers and which window it has, its schedule and what becomes of its sends are left
open. -/
inductive SyncRun [IdentifierTables] (schema : DataverseInventorySyncRunner)
    (frames : List DataFrame) : Destination → ℕ → Destination → Prop
  | intro {S : Type} (self : EffectfulRunner S ODataClient Wire)
      (runner : DataverseInventorySyncRunner) (hschema : SameSchema runner schema)
      (hingest : self.ingest = runner.mixin) (logger : Logger)
      (adapter : StatusAdapter Wire) (token : String) (sending : ℕ → ℕ → Sending)
      (columns : List String) (records : DataFrame)
      (hfeed : AcceptedFeed runner frames columns records) (effects effects' : Effects Wire)
      (hsync : ∀ client, self.Prepared client records →
        runner.odata.SyncRuns logger (runner.odata.upsertOver client adapter token sending)
          records.itertuples (effects.pull self.ingest.pulledChunks)
          ((self.syncRecords client records).run (effects.pull self.ingest.pulledChunks)))
      (code : ℕ) (hrun : (self.run logger).run effects = .ok code effects') :
      SyncRun schema frames effects.world.destination code effects'.world.destination

/-- Feeds that are synced one after another, each again until a run exits with 0. -/
inductive SyncedInTurn [IdentifierTables] (schema : DataverseInventorySyncRunner) :
    List (List DataFrame) → Destination → Destination → Prop
  | done {destination} : SyncedInTurn schema [] destination destination
  | again {frames feeds initial middle final code}
      (hrun : SyncRun schema frames initial code middle)
      (hcode : code ≠ 0) (hrest : SyncedInTurn schema (frames :: feeds) middle final) :
      SyncedInTurn schema (frames :: feeds) initial final
  | next {frames feeds initial middle final} (hrun : SyncRun schema frames initial 0 middle)
      (hrest : SyncedInTurn schema feeds middle final) :
      SyncedInTurn schema (frames :: feeds) initial final

theorem SameSchema.requestOf_eq {runner schema : DataverseInventorySyncRunner}
    (h : SameSchema runner schema) : runner.odata.requestOf = schema.odata.requestOf := by
  ext1 row
  simp only [BaseODataSyncRunner.requestOf, DataverseInventorySyncRunner.odata, h.dedupeKey_eq,
    h.fieldMapping_eq]

section Runs

variable [IdentifierTables] {schema : DataverseInventorySyncRunner} {frames : List DataFrame}
  {feeds : List (List DataFrame)} {initial final : Destination} {code : ℕ}

/-- What a run has done to the destination is told by its exit code. -/
theorem SyncRun.delivered (h : SyncRun schema frames initial code final) :
    TextKeys schema frames ∧ PartlyDelivered schema frames initial final ∧
      (code = 0 → Delivered schema frames initial final) := by
  cases h with
  | intro self runner hschema hingest logger adapter token sending columns records hfeed effects
      effects' hsync _ hrun =>
    have hrecords : self.ingest.loadRecords = .ok records := hingest ▸ hfeed.loaded
    have hcommits : ∀ client, runner.odata.Commits Wire.destination
        (runner.odata.upsertOver client adapter token sending) records.itertuples :=
      fun client => BaseODataSyncRunner.requests_upsertOver.commits
        (BaseODataSyncRunner.distinct_of_acceptedFeed hfeed)
    obtain ⟨code', effects'', hrun', hends⟩ := EffectfulRunner.runEnds_of_run hrecords hsync
    cases hrun.symm.trans hrun'
    obtain ⟨-, hpartly, hdelivered⟩ := hends.delivered hfeed fun client _ => hcommits client
    refine ⟨fun row hrow => ?_, ?_, fun hzero => ?_⟩
    · rw [← hschema.dedupeKey_eq]
      exact hfeed.exists_key hrow
    · simp only [PartlyDelivered, hschema.requestOf_eq, hschema.dedupeKey_eq] at hpartly
      exact hpartly
    · obtain ⟨hfed, hunfed⟩ := hdelivered hzero
      rw [hschema.requestOf_eq, hschema.dedupeKey_eq] at hfed
      rw [hschema.dedupeKey_eq] at hunfed
      exact ⟨hfed, hunfed⟩

/-- Feeds that are synced in turn are delivered as one. -/
theorem SyncedInTurn.delivered (h : SyncedInTurn schema feeds initial final) :
    Delivered schema feeds.flatten initial final := by
  induction h with
  | done => exact ⟨fun row hlatest => absurd hlatest (Recency.not_isLatest_nil row), fun _ _ => rfl⟩
  | again hrun _ _ ih =>
    obtain ⟨hkeys, hpartly, -⟩ := hrun.delivered
    refine Delivered.of_partlyDelivered hpartly ih hkeys ?_
    rw [List.flatten_cons, feedRows_append]
    exact List.subset_append_left _ _
  | next hrun _ ih =>
    obtain ⟨hkeys, -, hdelivered⟩ := hrun.delivered
    exact (hdelivered rfl).append ih hkeys

open BaseODataSyncRunner in
/-- A feed whose rows can be serialised can be synced. -/
theorem exists_syncRun {runner : DataverseInventorySyncRunner} {columns : List String}
    {records : DataFrame} (hschema : SameSchema runner schema)
    (hfeed : AcceptedFeed runner frames columns records)
    (hjson : ∀ row ∈ records.itertuples, runner.odata.Serialisable row)
    (hworkers : 1 ≤ runner.maxWorkers) (initial : Destination) :
    ∃ final, SyncRun schema frames initial 0 final := by
  have hanswers : ∀ client, runner.odata.AlwaysAnswers
      (runner.odata.upsertOver client wireAdapter "token" allAccepted) records.itertuples :=
    fun client => alwaysAnswers_of_recovers (writable_of_acceptedFeed hfeed hjson)
      recovers_allAccepted
  obtain ⟨self, hingest, hprepared, hsync⟩ := EffectfulRunner.exists_prepared runner.mixin
    dataverseClient runner.odata hworkers standardLogger
    (fun client => runner.odata.upsertOver client wireAdapter "token" allAccepted) hfeed.loaded
    ⟨⟨initial, 0⟩, [], 0⟩
  have hruns := fun client hclient => (hsync client hclient).2
  obtain ⟨code, effects', hrun, hended⟩ :=
    EffectfulRunner.runEnds_of_run (hingest ▸ hfeed.loaded) hruns
  obtain rfl := hended.eq_zero_of_alwaysAnswers (fun client _ => hanswers client)
    ⟨dataverseClient, hprepared⟩ hworkers
  exact ⟨_, .intro self runner hschema hingest standardLogger wireAdapter "token" allAccepted
    columns records hfeed _ effects' hruns 0 hrun⟩

end Runs

/-- Feeds that are synced one after another, each again until a run exits with 0, leave the
destination exactly as a run over all of them that exits with 0 does. -/
theorem parts_deliver_whole [IdentifierTables] (schema : DataverseInventorySyncRunner)
    (feeds : List (List DataFrame)) (initial final final' : Destination)
    (hparts : SyncedInTurn schema feeds initial final)
    (hwhole : SyncRun schema feeds.flatten initial 0 final') : final = final' := by
  obtain ⟨hkeys, -, hdelivered⟩ := hwhole.delivered
  exact hparts.delivered.unique (hdelivered rfl) hkeys

/-- The lines of a file in which a price is corrected, two of them on one day and one on the next,
and all of them in one file. -/
theorem parts_deliver_whole_correctedLines :
    ∃ final, @SyncedInTurn asciiTables correctedLinesRunner
        ((correctedLines.frames 2).map fun df => [df]) stocked final ∧
      @SyncRun asciiTables correctedLinesRunner (correctedLines.frames 2) stocked 0 final := by
  have hframes : correctedLines.frames 2 =
      [shippedFrame [("SKU-1", .str "Bolt", .int 3), ("SKU-2", .str "Nut", .int 2)],
        shippedFrame [("SKU-1", .str "Bolt", .int 4)]] := rfl
  have hrun (rows records : List (String × PyValue × PyValue))
      (hloaded : @InventoryDomainMixin.loadRecords (shippedRunner rows).mixin asciiTables =
        .ok (shippedFrame records))
      (hjson : ∀ row ∈ @DataFrame.itertuples asciiTables (shippedFrame records),
        (shippedRunner rows).odata.Serialisable row) (initial : Destination) :
      ∃ final, @SyncRun asciiTables correctedLinesRunner [shippedFrame rows] initial 0 final :=
    @exists_syncRun asciiTables correctedLinesRunner [shippedFrame rows] (shippedRunner rows) _ _
      ⟨rfl, rfl⟩ (acceptedFeed_shipped hloaded) hjson (show (1 : ℤ) ≤ 10 by decide) initial
  obtain ⟨middle, hfirst⟩ := hrun
    [("SKU-1", .str "Bolt", .int 3), ("SKU-2", .str "Nut", .int 2)]
    [("SKU-1", .str "Bolt", .int 3), ("SKU-2", .str "Nut", .int 2)] rfl
    (by
      intro row hrow
      rcases List.mem_pair.1 hrow with rfl | rfl
      · exact ⟨_, _, rfl, rfl⟩
      · exact ⟨_, _, rfl, rfl⟩) stocked
  obtain ⟨final, hsecond⟩ := hrun [("SKU-1", .str "Bolt", .int 4)] [("SKU-1", .str "Bolt", .int 4)]
    rfl
    (by
      intro row hrow
      obtain rfl := List.mem_singleton.1 hrow
      exact ⟨_, _, rfl, rfl⟩) middle
  obtain ⟨final', hwhole⟩ := @exists_syncRun asciiTables correctedLinesRunner
    (correctedLines.frames 2) correctedLinesRunner _ _ ⟨rfl, rfl⟩
    (@CsvRun.accepted asciiTables _ _ _ _ _ csvRun_correctedLines)
    (by
      intro row hrow
      rcases List.mem_pair.1 hrow with rfl | rfl
      · exact ⟨_, _, rfl, rfl⟩
      · exact ⟨_, _, rfl, rfl⟩) (by decide) stocked
  have hparts : @SyncedInTurn asciiTables correctedLinesRunner
      ((correctedLines.frames 2).map fun df => [df]) stocked final := by
    rw [hframes]
    exact @SyncedInTurn.next asciiTables _ _ _ _ _ _ hfirst
      (@SyncedInTurn.next asciiTables _ _ _ _ _ _ hsecond (@SyncedInTurn.done asciiTables _ _))
  have hsame := @parts_deliver_whole asciiTables correctedLinesRunner
    ((correctedLines.frames 2).map fun df => [df]) stocked final final' hparts hwhole
  exact ⟨final, hparts, hsame ▸ hwhole⟩

end Sync
