import Mathlib
import PharmaIntel.Atomicity

/-! Publication against any snapshot. Facts that other transactions have committed since
the snapshot are not seen; they can only make an insert fail, never turn a row that
passed the validation into a conflict. -/

namespace PharmaIntel.Publication
open PharmaIntel.Base PharmaIntel.Models PharmaIntel.Collector PharmaIntel.Validation
  PharmaIntel.Queue

/-! ## The chunks of the second pass -/

/-- A chunk with the state in which the pass comes to it. -/
structure Visit where
  rows : List SalesImportStagedRow
  state : LinkState

/-- Some row of the chunk differs from a fact that has its key. -/
def Visit.Differs (sourceSystem : String) (visit : Visit) : Prop :=
  ∃ row ∈ visit.rows,
    conflicts (existingFacts visit.state.visible sourceSystem visit.rows) row = true

/-- What the chunk hands to `bulk_create`. -/
def Visit.inserts (sourceSystem : String) (visit : Visit) : List SalesValues :=
  ((visit.rows.filter (fun row =>
    ((existingFacts visit.state.visible sourceSystem visit.rows).get row.sourceRecordId).isNone)).mapM
      (newFact sourceSystem)).getD []

/-- The chunks `linkBatches` comes to, up to the one that stops it. -/
def visits (sourceSystem : String) (createdById : Nat) (createdAt : Instant) :
    List (List SalesImportStagedRow) → LinkState → List Visit
  | [], _ => []
  | rows :: rest, state =>
      ⟨rows, state⟩ ::
        match linkOrInsertChunk sourceSystem createdById createdAt rows state with
        | .error _ => []
        | .ok next => visits sourceSystem createdById createdAt rest next

/-- The chunks of the second pass of one publication. -/
def publishVisits (settings : Settings) (snapshot : Snapshot) (intake : SalesImport)
    (attempt : SalesImportAttempt) (collector : IssueCollector) (createdAt : Instant) (store : Store) :
    List Visit :=
  visits intake.sourceSystem intake.uploadedById createdAt
    (batched settings.dbBatchSize (inRowOrder attempt.stagedRows))
    { visible := snapshot.factTable.facts, table := store.factTable, collector := collector }

/-! ## Ready rows in any table -/

section Pass
variable {sourceSystem : String} {old base : List SalesTransaction} {createdById : Nat}
  {createdAt : Instant}

/-- The second pass after the rows `past`: `base` is what the table held at its start. -/
structure Passed (sourceSystem : String) (old base : List SalesTransaction)
    (past : List SalesImportStagedRow) (added : List SalesTransaction) (state : LinkState) : Prop where
  sees : Sees sourceSystem old past added state
  table : state.table.facts = base ++ added
  clean : state.collector.total = 0
  counted : state.insertedRows + state.reusedRows = past.length

/-- A fact that the snapshot does not show has taken a key. -/
def Overtaken (old base : List SalesTransaction) : Prop :=
  ∃ fact ∈ base, fact.key ∉ old.map SalesTransaction.key

theorem absent_or_seen (rows : List SalesImportStagedRow) :
    (rows.filter (absent sourceSystem old)).length +
      rows.countP (fun row => !absent sourceSystem old row) = rows.length := by
  have halves := @List.length_eq_countP_add_countP _ (absent sourceSystem old) rows
  rw [halves, ← List.countP_eq_length_filter]
  simp

/-- Keys that the pass has not seen are refused only for a fact the snapshot does not show. -/
theorem insertAll_overtaken {past : List SalesImportStagedRow} {added : List SalesTransaction}
    {state : LinkState} (passed : Passed sourceSystem old base past added state)
    {values : List SalesValues} (distinctKeys : (values.map SalesValues.key).Nodup)
    (freshKeys : ∀ value ∈ values, value.key ∉ state.visible.map SalesTransaction.key) {failure : PyError}
    (refused : state.table.insertAll createdById createdAt values = .error failure) : Overtaken old base := by
  by_contra untouched
  have fresh : ∀ value ∈ values, value.key ∉ state.table.facts.map SalesTransaction.key := by
    intro value member known
    have unseen := freshKeys value member
    rw [passed.sees.visible, List.map_append, List.mem_append, not_or] at unseen
    rw [passed.table, List.map_append, List.mem_append] at known
    rcases known with overlapping | own
    · obtain ⟨fact, inside, key⟩ := List.mem_map.mp overlapping
      exact untouched ⟨fact, inside, key ▸ unseen.1⟩
    · exact unseen.2 own
  obtain ⟨next, done⟩ := FactTable.insertAll_fresh createdById createdAt distinctKeys fresh
  rw [refused] at done
  cases done

/-- The transaction sees what it has inserted. -/
theorem sees_chunk {past rows : List SalesImportStagedRow} {added chunkAdded : List SalesTransaction}
    {state next : LinkState} (sees : Sees sourceSystem old past added state) {values : List SalesValues}
    (grown : next.visible = state.visible ++ chunkAdded)
    (stored : chunkAdded.map SalesTransaction.values = values)
    (chunkValues : chunkAdded.map (fun fact => some fact.values) =
      (rows.filter (absent sourceSystem old)).map (newFact sourceSystem))
    (distinctKeys : (values.map SalesValues.key).Nodup)
    (freshKeys : ∀ value ∈ values, value.key ∉ state.visible.map SalesTransaction.key) :
    Sees sourceSystem old (past ++ rows) (added ++ chunkAdded) next where
  visible := by rw [grown, sees.visible, List.append_assoc]
  unique := by
    have chunkKeys : chunkAdded.map SalesTransaction.key = values.map SalesValues.key := by
      rw [← stored, List.map_map]
      rfl
    rw [grown, List.map_append, chunkKeys]
    refine List.nodup_append.mpr ⟨sees.unique, distinctKeys, ?_⟩
    intro key known other new equal
    obtain ⟨value, member, rfl⟩ := List.mem_map.mp new
    exact freshKeys value member (equal ▸ known)
  values := by rw [List.map_append, sees.values, chunkValues, List.filter_append, List.map_append]

theorem linkOrInsertChunk_passed {past rows : List SalesImportStagedRow} {added : List SalesTransaction}
    {state : LinkState} (passed : Passed sourceSystem old base past added state)
    (distinct : ((past ++ rows).map SalesImportStagedRow.sourceRecordId).Nodup)
    (ready : ∀ row ∈ rows, Ready sourceSystem old row) :
    ¬Visit.Differs sourceSystem ⟨rows, state⟩ ∧
      (Visit.inserts sourceSystem ⟨rows, state⟩).map SalesValues.key =
        (rows.filter (absent sourceSystem old)).map (fun row => (sourceSystem, row.sourceRecordId)) ∧
      (Overtaken old base ∧ linkOrInsertChunk sourceSystem createdById createdAt rows state =
          .error (.raised (.integrityError "business_data_sales_source_unique")) ∨
        ∃ chunkAdded next, linkOrInsertChunk sourceSystem createdById createdAt rows state = .ok next ∧
          Passed sourceSystem old base (past ++ rows) (added ++ chunkAdded) next) := by
  obtain ⟨agree, values, built, same, distinctKeys, freshKeys, run⟩ :=
    @linkOrInsertChunk_ready _ _ createdById createdAt _ _ _ _ passed.sees distinct ready passed.clean
  have seen := countP_seen passed.sees distinct
  refine ⟨?_, ?_, ?_⟩
  · rintro ⟨row, member, differs⟩
    have equal := agree row member
    rw [equal] at differs
    exact Bool.false_ne_true differs
  · unfold Visit.inserts
    dsimp only
    rw [built]
    exact map_key_of_values same
  · cases inserted : state.table.insertAll createdById createdAt values with
    | error failure =>
      left
      rw [inserted, FactTable.insertAll_error inserted] at run
      exact ⟨insertAll_overtaken passed distinctKeys freshKeys inserted, run⟩
    | ok table =>
      right
      rw [inserted] at run
      obtain ⟨chunkAdded, grown, dropped, stored, chunkValues, _⟩ := inserted_chunk same inserted
      refine ⟨chunkAdded, _, run, ?_⟩
      unfold linkedState
      rw [dropped]
      refine ⟨sees_chunk passed.sees rfl stored chunkValues distinctKeys freshKeys, ?_, passed.clean, ?_⟩
      · dsimp only
        rw [grown, passed.table, List.append_assoc]
      · dsimp only
        rw [seen]
        have lengths := congrArg List.length chunkValues
        rw [List.length_map, List.length_map] at lengths
        have split := @absent_or_seen sourceSystem old rows
        have before := passed.counted
        rw [List.length_append]
        omega

/-- No chunk of the pass meets a differing fact or repeats a key, and the pass fails only
when it has been overtaken. -/
theorem linkBatches_passed (batches : List (List SalesImportStagedRow))
    {past : List SalesImportStagedRow} {added : List SalesTransaction} {state : LinkState}
    (passed : Passed sourceSystem old base past added state)
    (distinct : ((past ++ batches.flatten).map SalesImportStagedRow.sourceRecordId).Nodup)
    (ready : ∀ row ∈ batches.flatten, Ready sourceSystem old row) :
    (∀ visit ∈ visits sourceSystem createdById createdAt batches state,
        ¬Visit.Differs sourceSystem visit) ∧
      (((visits sourceSystem createdById createdAt batches state).flatMap
          (Visit.inserts sourceSystem)).map SalesValues.key).Sublist
        ((batches.flatten.filter (absent sourceSystem old)).map
          (fun row => (sourceSystem, row.sourceRecordId))) ∧
      (Overtaken old base ∧ linkBatches sourceSystem createdById createdAt batches state =
          .error (.raised (.integrityError "business_data_sales_source_unique")) ∨
        ∃ more final, linkBatches sourceSystem createdById createdAt batches state = .ok final ∧
          Passed sourceSystem old base (past ++ batches.flatten) (added ++ more) final) := by
  induction batches generalizing past added state with
  | nil =>
    refine ⟨by simp [visits], by simp [visits], Or.inr ⟨[], state, rfl, ?_⟩⟩
    simpa using passed
  | cons rows rest ih =>
    rw [List.flatten_cons, ← List.append_assoc] at distinct
    have front : ((past ++ rows).map SalesImportStagedRow.sourceRecordId).Nodup := by
      rw [List.map_append] at distinct
      exact (List.nodup_append.mp distinct).1
    obtain ⟨agrees, keys, ends⟩ := @linkOrInsertChunk_passed _ _ _ createdById createdAt _ _ _ _ passed
      front (fun row member => ready row (List.mem_append_left _ member))
    rw [visits, linkBatches, List.flatten_cons, List.filter_append, List.map_append]
    rcases ends with ⟨overtaken, failed⟩ | ⟨chunkAdded, next, done, nextPassed⟩
    · rw [failed]
      refine ⟨?_, ?_, Or.inl ⟨overtaken, rfl⟩⟩
      · intro visit member
        rw [List.mem_singleton.mp member]
        exact agrees
      · rw [List.flatMap_singleton, keys]
        exact List.sublist_append_left _ _
    · obtain ⟨laterAgree, laterKeys, laterEnds⟩ := ih nextPassed distinct
        (fun row member => ready row (List.mem_append_right _ member))
      rw [done]
      refine ⟨?_, ?_, ?_⟩
      · intro visit member
        rcases List.mem_cons.mp member with rfl | later
        · exact agrees
        · exact laterAgree visit later
      · rw [List.flatMap_cons, List.map_append, keys]
        exact (List.Sublist.refl _).append laterKeys
      · rcases laterEnds with failed | ⟨more, final, finished, result⟩
        · exact Or.inl failed
        · refine Or.inr ⟨chunkAdded ++ more, final, finished, ?_⟩
          rwa [← List.append_assoc, ← List.append_assoc]

end Pass

/-! ## The validation pass decides -/

/-- The tables of the snapshot as a database. -/
def Snapshot.shown (snapshot : Snapshot) : Store where
  importTable := ⟨[], by simp, by simp, by simp⟩
  factTable := snapshot.factTable
  master := snapshot.master

section Phases
variable (settings : Settings) (snapshot : Snapshot) (store : Store) (times : PublicationTimes)
  {intake : SalesImport} {attempt : SalesImportAttempt} {checked : ValidationState}

/-- The first pass of one publication. -/
def validationPass (intake : SalesImport) (attempt : SalesImportAttempt) :
    Except PyError ValidationState :=
  validateBatches snapshot.master snapshot.factTable.facts intake.sourceSystem
    { collector := { maximum := settings.maxIssues } }
    (batched settings.dbBatchSize (inRowOrder attempt.stagedRows))

/-- The first pass has gone over all rows. -/
abbrev PassChecked (intake : SalesImport) (attempt : SalesImportAttempt) (checked : ValidationState) :
    Prop :=
  Validated snapshot.master snapshot.factTable.facts intake.sourceSystem settings.maxIssues
    (inRowOrder attempt.stagedRows) checked

theorem validationPass_checked
    (numbers : (attempt.stagedRows.map SalesImportStagedRow.rowNumber).Nodup) :
    ∃ checked, validationPass settings snapshot intake attempt = .ok checked ∧
      PassChecked settings snapshot intake attempt checked :=
  validateBatches_sorted settings snapshot.shown intake numbers

variable {settings snapshot}

theorem rejection_accepted (validated : PassChecked settings snapshot intake attempt checked)
    (loud : checked.collector.total ≠ 0) :
    validateFor (rejectionCounts attempt.stagedRows.length checked.invalidRows checked.collector.total)
      .rejected = .ok () :=
  (validateFor_ok _ _).mpr (@validated_rejection snapshot.shown _ _ _ _ validated loud)

/-- Without an issue the second pass starts from rows that can all be linked. -/
theorem secondPass_ends (numbers : (attempt.stagedRows.map SalesImportStagedRow.rowNumber).Nodup)
    (ids : (attempt.stagedRows.map SalesImportStagedRow.sourceRecordId).Nodup)
    (validated : PassChecked settings snapshot intake attempt checked)
    (silent : checked.collector.total = 0) :
    (∀ visit ∈ publishVisits settings snapshot intake (validatedAttempt attempt checked)
        checked.collector times.createdAt store, ¬visit.Differs intake.sourceSystem) ∧
      (((publishVisits settings snapshot intake (validatedAttempt attempt checked) checked.collector
        times.createdAt store).flatMap (Visit.inserts intake.sourceSystem)).map SalesValues.key).Nodup ∧
      (Overtaken snapshot.factTable.facts store.factTable.facts ∧
          linkRows settings snapshot intake (validatedAttempt attempt checked) checked.collector
            times.createdAt store =
              .error (.raised (.integrityError "business_data_sales_source_unique")) ∨
        ∃ final, linkRows settings snapshot intake (validatedAttempt attempt checked) checked.collector
            times.createdAt store = .ok final ∧
          final.insertedRows + final.reusedRows = attempt.stagedRows.length) := by
  have passes : AllSound snapshot.shown intake attempt.stagedRows :=
    (total_zero_iff validated).mp silent
  have saved : (validatedAttempt attempt checked).stagedRows =
      attempt.stagedRows.map (resolve snapshot.master) :=
    @resolved_sound snapshot.shown _ _ numbers _ _ validated passes
  obtain ⟨sorted, sortedIds, ready⟩ := @sound_sorted snapshot.shown _ _ ids passes
  simp only [Snapshot.shown] at sorted sortedIds ready
  have partition := batched_partition settings.dbBatchSize
    ((inRowOrder attempt.stagedRows).map (resolve snapshot.master))
  have start : Passed intake.sourceSystem snapshot.factTable.facts store.factTable.facts [] []
      { visible := snapshot.factTable.facts, table := store.factTable, collector := checked.collector } :=
    ⟨⟨by simp, snapshot.factTable.keys_nodup, by simp⟩, by simp, silent, rfl⟩
  have pass := @linkBatches_passed _ _ _ intake.uploadedById times.createdAt
    (batched settings.dbBatchSize ((inRowOrder attempt.stagedRows).map (resolve snapshot.master)))
    _ _ _ start (by rwa [List.nil_append, partition.flatten]) (by rwa [partition.flatten])
  simp only [partition.flatten, List.nil_append] at pass
  unfold publishVisits linkRows
  rw [saved, sorted]
  obtain ⟨agree, keys, ends⟩ := pass
  refine ⟨agree, keys.nodup ?_, ?_⟩
  · have filtered := sortedIds.sublist ((List.filter_sublist
      (p := absent intake.sourceSystem snapshot.factTable.facts)).map SalesImportStagedRow.sourceRecordId)
    have paired := filtered.map (f := fun id : String => (intake.sourceSystem, id))
      (fun first second equal => congrArg Prod.snd equal)
    simpa only [List.map_map, Function.comp_def] using paired
  · rcases ends with overtaken | ⟨more, final, done, passed⟩
    · exact Or.inl overtaken
    · refine Or.inr ⟨final, done, ?_⟩
      rw [passed.counted, List.length_map]
      exact (inRowOrder_perm attempt.stagedRows).length_eq

end Phases

/-! ## No content can stop the publication -/

/-- The job has left PROCESSING and the attempt is closed. -/
def Settles (next : Store) (jobId attemptId : Uuid) : Prop :=
  ∃ finalJob finalAttempt, findJob next jobId = some finalJob ∧
    finalAttempt ∈ finalJob.attempts ∧ finalAttempt.id = attemptId ∧
    finalJob.status.isTerminal = true ∧ finalAttempt.outcome ≠ .running

theorem finishLockedJob_settles {jobId : Uuid} {intake : SalesImport} {job : SalesImportJob}
    {attempt last : SalesImportAttempt} {status : SalesImportJob.Status}
    {outcome : SalesImportAttempt.Outcome} {counts : SalesImportJobCounts}
    {errorCode errorMessage : String} {finishedAt : Instant} {store : Store}
    (found : findImport store jobId = some intake) (member : attempt ∈ job.attempts)
    (same : last.id = attempt.id) (accepted : validateFor counts status = .ok ())
    (terminal : status.isTerminal = true) (closed : outcome ≠ .running) :
    ∃ result next, finishLockedJob jobId job last status outcome counts errorCode errorMessage finishedAt
        store = .ok (result, next) ∧ Settles next jobId attempt.id := by
  refine ⟨⟨jobId, status, counts⟩, saveJob store jobId (saveAttempt
    (finishedJob job status counts errorCode errorMessage finishedAt)
    (finishedAttempt last status outcome counts errorCode errorMessage finishedAt)), ?_, ?_⟩
  · rw [finishLockedJob, accepted]
  · refine ⟨_, finishedAttempt last status outcome counts errorCode errorMessage finishedAt,
      findJob_saveJob_same found _, mem_saveAttempt member same, same, terminal, closed⟩

section Settled
variable {settings : Settings} {snapshot : Snapshot} {store : Store} {times : PublicationTimes}
  {jobId : Uuid} {job : SalesImportJob} {attempt : SalesImportAttempt} {intake : SalesImport}
  {checked : ValidationState}

/-- The second pass raises no issue, and the counters it ends with are accepted. -/
theorem secondPass_accepted (numbers : (attempt.stagedRows.map SalesImportStagedRow.rowNumber).Nodup)
    (ids : (attempt.stagedRows.map SalesImportStagedRow.sourceRecordId).Nodup)
    (validated : PassChecked settings snapshot intake attempt checked)
    (silent : checked.collector.total = 0) :
    (∀ rejected, linkRows settings snapshot intake (validatedAttempt attempt checked)
        checked.collector times.createdAt store ≠ .error (.rejected rejected)) ∧
      ∀ state, linkRows settings snapshot intake (validatedAttempt attempt checked)
          checked.collector times.createdAt store = .ok state →
        validateFor (publicationCounts attempt.stagedRows.length state.insertedRows state.reusedRows)
          .published = .ok () := by
  obtain ⟨_, _, ends⟩ := secondPass_ends store times numbers ids validated silent
  rcases ends with ⟨_, failed⟩ | ⟨final, done, counted⟩
  · rw [failed]
    exact ⟨by simp, by simp⟩
  · rw [done]
    refine ⟨by simp, ?_⟩
    intro state same
    obtain rfl := Except.ok.inj same
    exact (validateFor_ok _ _).mpr (publicationCounts_valid counted)

theorem publishLocked_settles (member : attempt ∈ job.attempts) (found : findImport store jobId = some intake)
    (numbers : (attempt.stagedRows.map SalesImportStagedRow.rowNumber).Nodup)
    (ids : (attempt.stagedRows.map SalesImportStagedRow.sourceRecordId).Nodup)
    (pass : validationPass settings snapshot intake attempt = .ok checked)
    (validated : PassChecked settings snapshot intake attempt checked) :
    (∃ result next, publishLocked settings snapshot jobId intake job attempt times store = .ok (result, next) ∧
        Settles next jobId attempt.id) ∨
      publishLocked settings snapshot jobId intake job attempt times store =
          .error (.integrityError "business_data_sales_source_unique") ∧
        Overtaken snapshot.factTable.facts store.factTable.facts := by
  have staged : (validatedAttempt attempt checked).stagedRows.length = attempt.stagedRows.length :=
    saveRows_length _ _ _
  unfold validationPass at pass
  rw [publishLocked, pass]
  dsimp only
  by_cases loud : checked.collector.total ≠ 0
  · rw [if_pos loud]
    exact Or.inl (finishLockedJob_settles found member rfl (rejection_accepted validated loud) rfl
      (by decide))
  · rw [if_neg loud]
    obtain ⟨_, _, ends⟩ := secondPass_ends store times numbers ids validated (not_not.mp loud)
    rcases ends with ⟨overtaken, failed⟩ | ⟨final, done, counted⟩
    · rw [publishValidated, failed]
      exact Or.inr ⟨rfl, overtaken⟩
    · rw [publishValidated, done]
      dsimp only
      rw [staged]
      exact Or.inl (@finishLockedJob_settles _ _ _ _ _ _ _ _ _ _ _
        { store with factTable := final.table } found member rfl
        ((validateFor_ok _ _).mpr (publicationCounts_valid counted)) rfl (by decide))

end Settled

/-- The publication of a live claim settles its job, unless another transaction has overtaken its
snapshot. -/
theorem publishOnce_settles (settings : Settings) (snapshot : Snapshot) {store : Store}
    {claim : SalesImportClaim} (times : PublicationTimes) {job : SalesImportJob}
    {attempt : SalesImportAttempt} {intake : SalesImport}
    (live : lockedLiveClaim claim.jobId claim.leaseToken times.startedAt store = .ok (job, attempt))
    (own : claimMatches attempt claim = true) (found : findImport store claim.jobId = some intake)
    (numbers : (attempt.stagedRows.map SalesImportStagedRow.rowNumber).Nodup)
    (ids : (attempt.stagedRows.map SalesImportStagedRow.sourceRecordId).Nodup) :
    (∃ result next, publishOnce settings snapshot claim times store = .ok (result, next) ∧
        Settles next claim.jobId attempt.id) ∨
      publishOnce settings snapshot claim times store =
          .error (.integrityError "business_data_sales_source_unique") ∧
        Overtaken snapshot.factTable.facts store.factTable.facts := by
  obtain ⟨checked, pass, validated⟩ := @validationPass_checked settings snapshot intake _ numbers
  rw [@publishOnce_live settings snapshot store claim times job attempt intake live own found]
  exact publishLocked_settles (lockedLiveClaim_ok live).member found numbers ids pass validated

/-- After a silent validation no chunk meets a differing fact, no key is inserted twice and
the counters are accepted; after a loud one the counters of the rejection are. So the
publication settles the job, unless another transaction has overtaken its snapshot. -/
theorem publishPhase_total (settings : Settings) (snapshot : Snapshot) (store : Store)
    (claim : SalesImportClaim) (times : PublicationTimes) (job : SalesImportJob)
    (attempt : SalesImportAttempt) (intake : SalesImport)
    (live : lockedLiveClaim claim.jobId claim.leaseToken times.startedAt store = .ok (job, attempt))
    (own : claimMatches attempt claim = true) (found : findImport store claim.jobId = some intake)
    (numbers : (attempt.stagedRows.map SalesImportStagedRow.rowNumber).Nodup)
    (ids : (attempt.stagedRows.map SalesImportStagedRow.sourceRecordId).Nodup) :
    ∃ checked, validationPass settings snapshot intake attempt = .ok checked ∧
      (checked.collector.total = 0 →
        (∀ visit ∈ publishVisits settings snapshot intake (validatedAttempt attempt checked)
            checked.collector times.createdAt store, ¬visit.Differs intake.sourceSystem) ∧
          (((publishVisits settings snapshot intake (validatedAttempt attempt checked)
            checked.collector times.createdAt store).flatMap
              (Visit.inserts intake.sourceSystem)).map SalesValues.key).Nodup ∧
          (∀ rejected, linkRows settings snapshot intake (validatedAttempt attempt checked)
            checked.collector times.createdAt store ≠ .error (.rejected rejected)) ∧
          ∀ state, linkRows settings snapshot intake (validatedAttempt attempt checked)
              checked.collector times.createdAt store = .ok state →
            validateFor (publicationCounts attempt.stagedRows.length state.insertedRows state.reusedRows)
              .published = .ok ()) ∧
      (checked.collector.total ≠ 0 →
        validateFor (rejectionCounts attempt.stagedRows.length checked.invalidRows
          checked.collector.total) .rejected = .ok ()) ∧
      ((∃ result next, publishOnce settings snapshot claim times store = .ok (result, next) ∧
          Settles next claim.jobId attempt.id) ∨
        publishOnce settings snapshot claim times store =
            .error (.integrityError "business_data_sales_source_unique") ∧
          Overtaken snapshot.factTable.facts store.factTable.facts) := by
  obtain ⟨checked, pass, validated⟩ := @validationPass_checked settings snapshot intake _ numbers
  refine ⟨checked, pass, ?_, rejection_accepted validated, ?_⟩
  · intro silent
    obtain ⟨agree, keys, _⟩ := secondPass_ends store times numbers ids validated silent
    obtain ⟨unstopped, accepted⟩ := @secondPass_accepted _ _ store times _ _ _ numbers ids validated silent
    exact ⟨agree, keys, unstopped, accepted⟩
  · exact publishOnce_settles settings snapshot times live own found numbers ids

/-- Three rows in batches of two, one of which is stored already: settled under the current
snapshot, refused by the unique key under one that lags behind. -/
theorem publishPhase_total_sample :
    (∃ result next, publishOnce Sample.smallBatches (snapshotOf (Sample.storeWith Sample.soundRows))
        Sample.claim Sample.times (Sample.storeWith Sample.soundRows) = .ok (result, next) ∧
      Settles next 3 7) ∧
    publishOnce Sample.smallBatches ⟨FactTable.empty, Validation.Sample.master⟩ Sample.claim Sample.times
        (Sample.storeWith Sample.soundRows) = .error (.integrityError "business_data_sales_source_unique") ∧
      Overtaken [] Sample.knownTable.facts := by
  have ends := fun snapshot => publishPhase_total Sample.smallBatches snapshot
    (Sample.storeWith Sample.soundRows) Sample.claim Sample.times (Sample.job Sample.soundRows)
    (Sample.attempt Sample.soundRows) (Sample.intake Sample.soundRows) rfl rfl rfl (by decide) (by decide)
  constructor
  · obtain ⟨_, _, _, _, settled | ⟨failed, _⟩⟩ := ends (snapshotOf (Sample.storeWith Sample.soundRows))
    · exact settled
    · have published : (publishOnce Sample.smallBatches (snapshotOf (Sample.storeWith Sample.soundRows))
          Sample.claim Sample.times (Sample.storeWith Sample.soundRows)).isOk = true := by decide +kernel
      rw [failed] at published
      cases published
  · obtain ⟨_, _, _, _, ⟨_, _, done, _⟩ | overtaken⟩ := ends ⟨FactTable.empty, Validation.Sample.master⟩
    · have refused : (publishOnce Sample.smallBatches ⟨FactTable.empty, Validation.Sample.master⟩ Sample.claim
          Sample.times (Sample.storeWith Sample.soundRows)).isOk = false := by decide +kernel
      rw [done] at refused
      cases refused
    · exact overtaken

end PharmaIntel.Publication
