import Mathlib
import PharmaIntel.Overlap

/-! The statements of one publication as steps of their own: lock the claim, validate, insert,
commit. A transaction whose tables nobody else changes ends as `publishOnce` does. -/

namespace PharmaIntel.Publication
open PharmaIntel.Base PharmaIntel.Models PharmaIntel.Collector PharmaIntel.Validation
  PharmaIntel.Queue

/-- What a publication reads once its claim is locked. -/
structure LockedRows where
  intake : SalesImport
  job : SalesImportJob
  attempt : SalesImportAttempt

/-- What the end of a publication writes. -/
structure Conclusion where
  attempt : SalesImportAttempt
  status : SalesImportJob.Status
  outcome : SalesImportAttempt.Outcome
  counts : SalesImportJobCounts
  errorCode : String := ""
  errorMessage : String := ""
  /-- The facts inserted so far, visible to the others from the commit on. -/
  inserts : List SalesValues := []

/-- Where the validation loop leads. -/
inductive Verdict where
  | rejected (conclusion : Conclusion)
  | sound (checked : ValidationState)

section Steps
variable (settings : Settings) (snapshot : Snapshot) (claim : SalesImportClaim)

def lockClaim (startedAt : Instant) (store : Store) : Except PyError LockedRows :=
  match lockedLiveClaim claim.jobId claim.leaseToken startedAt store with
  | .error e => .error e
  | .ok (job, attempt) =>
      if claimMatches attempt claim then
        match findImport store claim.jobId with
        | none => .error .doesNotExist
        | some intake => .ok ⟨intake, job, attempt⟩
      else .error claimMismatch

def validateRows (rows : LockedRows) : Except PyError Verdict :=
  match validationPass settings snapshot rows.intake rows.attempt with
  | .error e => .error e
  | .ok checked =>
      let validated := validatedAttempt rows.attempt checked
      if checked.collector.total ≠ 0 then
        .ok (.rejected {
          attempt := { validated with issues := validated.issues ++ checked.collector.persisted }
          status := .rejected
          outcome := .rejected
          counts := rejectionCounts rows.attempt.stagedRows.length checked.invalidRows
            checked.collector.total
          errorCode := "VALIDATION_REJECTED"
          errorMessage := "Database-backed validation rejected the sales file." })
      else .ok (.sound checked)

/-- The second pass, against the facts committed by then. -/
def insertRows (rows : LockedRows) (checked : ValidationState) (createdAt : Instant) (store : Store) :
    Except PyError Conclusion :=
  let validated := validatedAttempt rows.attempt checked
  let totalRows := validated.stagedRows.length
  match linkRows settings snapshot rows.intake validated checked.collector createdAt store with
  | .error (.raised e) => .error e
  | .error (.rejected rejected) => .ok {
      attempt := { validated with phase := .publish, issues := validated.issues ++ rejected.persisted }
      status := .rejected
      outcome := .rejected
      counts := rejectionCounts totalRows rejected.total rejected.total
      errorCode := sourceRecordConflict
      errorMessage := "One or more source record IDs conflict with immutable facts." }
  | .ok state => .ok {
      attempt := { validated with
        phase := .publish
        stagedRows := saveRows state.linked copyLink validated.stagedRows }
      status := .published
      outcome := .published
      counts := publicationCounts totalRows state.insertedRows state.reusedRows
      inserts := (state.table.facts.drop store.factTable.facts.length).map SalesTransaction.values }

/-- `_finish_locked_job` and the commit. An insert waits for an uncommitted one of its key, so
a key that another transaction has taken by now is a violation. -/
def commitRows (rows : LockedRows) (conclusion : Conclusion) (createdAt finishedAt : Instant)
    (store : Store) : Outcome SalesImportProcessingResult :=
  match store.factTable.insertAll rows.intake.uploadedById createdAt conclusion.inserts with
  | .error e => .error e
  | .ok table => finishLockedJob claim.jobId rows.job conclusion.attempt conclusion.status
      conclusion.outcome conclusion.counts conclusion.errorCode conclusion.errorMessage finishedAt
      { store with factTable := table }

/-- The conclusion the locked rows lead to while the tables stay as they are. -/
def conclude (rows : LockedRows) (createdAt : Instant) (store : Store) : Except PyError Conclusion :=
  match validateRows settings snapshot rows with
  | .error e => .error e
  | .ok (.rejected conclusion) => .ok conclusion
  | .ok (.sound checked) => insertRows settings snapshot rows checked createdAt store

end Steps

/-! ## The inserted facts -/

theorem insertAll_append (createdById : Nat) (createdAt : Instant) (front back : List SalesValues)
    {table middle : FactTable} (first : table.insertAll createdById createdAt front = .ok middle) :
    table.insertAll createdById createdAt (front ++ back) = middle.insertAll createdById createdAt back := by
  induction front generalizing table with
  | nil =>
    cases first
    rfl
  | cons values rest ih =>
    rw [FactTable.insertAll] at first
    rw [List.cons_append, FactTable.insertAll]
    cases inserted : table.insert values createdById createdAt with
    | error e => simp [inserted] at first
    | ok next =>
      rw [inserted] at first
      exact ih first

section Inserts
variable {sourceSystem : String} {createdById : Nat} {createdAt : Instant}

theorem linkOrInsertChunk_inserts {rows : List SalesImportStagedRow} {state next : LinkState}
    (done : linkOrInsertChunk sourceSystem createdById createdAt rows state = .ok next) :
    ∃ values, state.table.insertAll createdById createdAt values = .ok next.table := by
  unfold linkOrInsertChunk at done
  dsimp only at done
  split_ifs at done
  split at done
  · cases done
  · rename_i values _
    split at done
    · cases done
    · rename_i table inserted
      cases done
      exact ⟨values, inserted⟩

/-- The chunks together insert what one statement would. -/
theorem linkBatches_inserts {batches : List (List SalesImportStagedRow)} {state final : LinkState}
    (done : linkBatches sourceSystem createdById createdAt batches state = .ok final) :
    ∃ values, state.table.insertAll createdById createdAt values = .ok final.table := by
  induction batches generalizing state with
  | nil =>
    cases done
    exact ⟨[], rfl⟩
  | cons rows rest ih =>
    rw [linkBatches] at done
    cases chunk : linkOrInsertChunk sourceSystem createdById createdAt rows state with
    | error stop => simp [chunk] at done
    | ok next =>
      rw [chunk] at done
      obtain ⟨front, first⟩ := linkOrInsertChunk_inserts chunk
      obtain ⟨back, second⟩ := ih done
      refine ⟨front ++ back, ?_⟩
      rw [insertAll_append createdById createdAt front back first]
      exact second

/-- Inserting the new facts of a table gives that table. -/
theorem insertAll_dropped {table final : FactTable} {values : List SalesValues}
    (inserted : table.insertAll createdById createdAt values = .ok final) :
    table.insertAll createdById createdAt
      ((final.facts.drop table.facts.length).map SalesTransaction.values) = .ok final := by
  obtain ⟨added, grown, stored, _⟩ := FactTable.insertAll_ok inserted
  rw [grown, List.drop_left, stored]
  exact inserted

end Inserts

/-! ## The whole transaction -/

section Whole
variable (settings : Settings) (snapshot : Snapshot) (claim : SalesImportClaim)
  (times : PublicationTimes) (store : Store)

/-- The second pass and the commit, when no fact comes between them. -/
theorem publishValidated_steps (rows : LockedRows) (checked : ValidationState) :
    publishValidated settings snapshot claim.jobId rows.intake rows.job
        (validatedAttempt rows.attempt checked) checked.collector times store =
      match insertRows settings snapshot rows checked times.createdAt store with
      | .error e => .error e
      | .ok conclusion => commitRows claim rows conclusion times.createdAt times.finishedAt store := by
  unfold publishValidated insertRows
  dsimp only
  cases linked : linkRows settings snapshot rows.intake (validatedAttempt rows.attempt checked)
      checked.collector times.createdAt store with
  | error stop =>
    cases stop with
    | raised e => rfl
    | rejected rejected => rfl
  | ok state =>
    obtain ⟨values, inserted⟩ := linkBatches_inserts linked
    have again := insertAll_dropped inserted
    dsimp only at again ⊢
    unfold commitRows
    rw [again]

/-- The steps of a transaction do what `publishOnce` does in one. -/
theorem publishOnce_steps :
    publishOnce settings snapshot claim times store =
      match lockClaim claim times.startedAt store with
      | .error e => .error e
      | .ok rows =>
          match conclude settings snapshot rows times.createdAt store with
          | .error e => .error e
          | .ok conclusion => commitRows claim rows conclusion times.createdAt times.finishedAt store := by
  unfold publishOnce fenced lockClaim
  cases locked : lockedLiveClaim claim.jobId claim.leaseToken times.startedAt store with
  | error e => rfl
  | ok pair =>
    obtain ⟨job, attempt⟩ := pair
    dsimp only
    by_cases own : claimMatches attempt claim = true
    · rw [if_pos own, if_pos own]
      cases found : findImport store claim.jobId with
      | none => rfl
      | some intake =>
        dsimp only
        unfold publishLocked conclude validateRows
        rw [← validationPass]
        cases pass : validationPass settings snapshot intake attempt with
        | error e => rfl
        | ok checked =>
          dsimp only
          by_cases loud : checked.collector.total ≠ 0
          · rw [if_pos loud, if_pos loud]
            rfl
          · rw [if_neg loud, if_neg loud]
            exact publishValidated_steps settings snapshot claim times store ⟨intake, job, attempt⟩ checked
    · rw [if_neg own, if_neg own]

variable {settings snapshot claim times store}

theorem publishOnce_unlocked {e : PyError} (failed : lockClaim claim times.startedAt store = .error e) :
    publishOnce settings snapshot claim times store = .error e := by
  rw [publishOnce_steps, failed]

theorem publishOnce_concluded {rows : LockedRows} {conclusion : Conclusion}
    (locked : lockClaim claim times.startedAt store = .ok rows)
    (concluded : conclude settings snapshot rows times.createdAt store = .ok conclusion) :
    publishOnce settings snapshot claim times store =
      commitRows claim rows conclusion times.createdAt times.finishedAt store := by
  rw [publishOnce_steps, locked]
  dsimp only
  rw [concluded]

end Whole

/-! ## Tables that stay as they are -/

/-- Locking a claim reads the worker's own import only. -/
theorem lockClaim_congr {claim : SalesImportClaim} {store next : Store}
    (same : findImport next claim.jobId = findImport store claim.jobId) (startedAt : Instant) :
    lockClaim claim startedAt next = lockClaim claim startedAt store := by
  unfold lockClaim lockedLiveClaim findJob
  rw [same]

theorem lockClaim_error {claim : SalesImportClaim} {startedAt : Instant} {store : Store} {e : PyError}
    (failed : lockClaim claim startedAt store = .error e) :
    e ≠ .integrityError "business_data_sales_source_unique" := by
  unfold lockClaim lockedLiveClaim at failed
  intro violated
  rw [violated] at failed
  split at failed
  · rename_i error locked
    split at locked
    · cases locked
      cases failed
    · split at locked
      · cases locked
        cases failed
      · cases locked
  · split_ifs at failed
    · split at failed
      · cases failed
      · cases failed
    · cases failed

theorem lockClaim_ok {claim : SalesImportClaim} {startedAt : Instant} {store : Store} {rows : LockedRows}
    (locked : lockClaim claim startedAt store = .ok rows) :
    LiveClaim store claim.jobId claim.leaseToken startedAt rows.job rows.attempt := by
  unfold lockClaim at locked
  split at locked
  · cases locked
  · rename_i job attempt live
    split_ifs at locked
    split at locked
    · cases locked
    · cases locked
      exact lockedLiveClaim_ok live

/-- The passes read the facts and no other import. -/
theorem conclude_congr {settings : Settings} {snapshot : Snapshot} {rows : LockedRows}
    {createdAt : Instant} {store next : Store} (same : next.factTable = store.factTable) :
    conclude settings snapshot rows createdAt next = conclude settings snapshot rows createdAt store := by
  unfold conclude insertRows linkRows
  rw [same]

theorem saveRows_map {β : Type} {key : SalesImportStagedRow → β}
    {copy : SalesImportStagedRow → SalesImportStagedRow → SalesImportStagedRow}
    (keeps : ∀ source row, key (copy source row) = key row) (changed rows : List SalesImportStagedRow) :
    (saveRows changed copy rows).map key = rows.map key := by
  unfold saveRows
  rw [List.map_map]
  apply List.map_congr_left
  intro row _
  rw [Function.comp_apply]
  split
  · exact keeps _ row
  · rfl

/-- A conclusion that can be committed, with the rows of the attempt it belongs to. -/
structure Concludes (rows : LockedRows) (createdAt : Instant) (store : Store) (conclusion : Conclusion) :
    Prop where
  inserted : ∃ table, store.factTable.insertAll rows.intake.uploadedById createdAt conclusion.inserts = .ok table
  accepted : validateFor conclusion.counts conclusion.status = .ok ()
  id : conclusion.attempt.id = rows.attempt.id
  staged : ∀ {β : Type} (key : SalesImportStagedRow → β),
    (∀ source row, key (copyReferences source row) = key row) →
    (∀ source row, key (copyLink source row) = key row) →
      conclusion.attempt.stagedRows.map key = rows.attempt.stagedRows.map key

/-- Against its own snapshot a publication always comes to a conclusion. -/
theorem conclude_current (settings : Settings) (store : Store) (rows : LockedRows) (createdAt : Instant)
    (numbers : (rows.attempt.stagedRows.map SalesImportStagedRow.rowNumber).Nodup)
    (ids : (rows.attempt.stagedRows.map SalesImportStagedRow.sourceRecordId).Nodup) :
    ∃ conclusion, conclude settings (snapshotOf store) rows createdAt store = .ok conclusion ∧
      Concludes rows createdAt store conclusion := by
  obtain ⟨checked, pass, validated⟩ :=
    @validationPass_checked settings (snapshotOf store) rows.intake _ numbers
  unfold conclude validateRows
  rw [pass]
  dsimp only
  by_cases loud : checked.collector.total ≠ 0
  · rw [if_pos loud]
    refine ⟨_, rfl, ⟨store.factTable, rfl⟩, rejection_accepted validated loud, rfl, ?_⟩
    intro β key references _
    exact saveRows_map references _ _
  · rw [if_neg loud]
    dsimp only
    obtain ⟨_, _, ends⟩ := secondPass_ends store ⟨createdAt, createdAt, createdAt⟩ numbers ids validated
      (not_not.mp loud)
    rcases ends with ⟨⟨fact, member, unseen⟩, _⟩ | ⟨final, linked, counted⟩
    · exact absurd (List.mem_map_of_mem member) unseen
    · obtain ⟨values, inserted⟩ := linkBatches_inserts linked
      have staged : (validatedAttempt rows.attempt checked).stagedRows.length =
          rows.attempt.stagedRows.length := saveRows_length _ _ _
      unfold insertRows
      dsimp only at linked ⊢
      rw [linked]
      refine ⟨_, rfl, ⟨final.table, insertAll_dropped inserted⟩, ?_, rfl, ?_⟩
      · dsimp only
        rw [staged]
        exact (validateFor_ok _ _).mpr (publicationCounts_valid counted)
      · intro β key references links
        exact (saveRows_map links _ _).trans (saveRows_map references _ _)

end PharmaIntel.Publication
