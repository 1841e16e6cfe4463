import Mathlib
import PharmaIntel.SetBased
import PharmaIntel.Queue

/-! Publication: one transaction validates the staged rows of the running attempt
against its snapshot and then links or inserts every row, or rejects them all. -/

namespace PharmaIntel.Publication
open PharmaIntel.Base PharmaIntel.Models PharmaIntel.Collector PharmaIntel.Validation
  PharmaIntel.Queue

/-- What a repeatable-read transaction sees of the shared tables: the commits made
before its first query. -/
structure Snapshot where
  factTable : FactTable
  master : MasterData

/-- The snapshot of a transaction that nothing overlaps. -/
def snapshotOf (store : Store) : Snapshot := ⟨store.factTable, store.master⟩

/-- The times a publication reads: the transaction's, the inserts' and the wall clock
at its end. -/
structure PublicationTimes where
  startedAt : Instant
  createdAt : Instant
  finishedAt : Instant
  deriving DecidableEq, Repr

structure SalesImportProcessingResult where
  jobId : Uuid
  status : SalesImportJob.Status
  counts : SalesImportJobCounts
  deriving DecidableEq, Repr

/-- Why a publication stops: the rows are rejected, or the statement failed. -/
inductive PublicationStop where
  | rejected (collector : IssueCollector)
  | raised (error : PyError)

/-! ## Linking -/

/-- The fact of a resolved row; a missing required reference violates NOT NULL. -/
def newFact (sourceSystem : String) (row : SalesImportStagedRow) : Option SalesValues :=
  match row.calendarDateId, row.productId, row.territoryId with
  | some calendarDateId, some productId, some territoryId =>
      some ⟨calendarDateId, productId, territoryId, row.hospitalId, row.salesRepresentativeId,
        row.quantity, row.revenueAmount, row.currencyCode, sourceSystem, row.sourceRecordId⟩
  | _, _, _ => none

structure LinkState where
  /-- The snapshot and the transaction's own inserts. -/
  visible : List SalesTransaction
  table : FactTable
  collector : IssueCollector
  linked : List SalesImportStagedRow := []
  insertedRows : Nat := 0
  reusedRows : Nat := 0

/-- The row with the fact it ends up with; record ids are unique within an attempt. -/
def linkRow (existing : Dict String SalesTransaction) (added : List SalesTransaction)
    (row : SalesImportStagedRow) : SalesImportStagedRow :=
  match existing.get row.sourceRecordId with
  | some fact => { row with outcome := .reused, salesTransactionId := some fact.id }
  | none =>
      match findBy SalesTransaction.sourceRecordId row.sourceRecordId added with
      | some fact => { row with outcome := .published, salesTransactionId := some fact.id }
      | none => row

/-- The state once the missing facts are in the table. -/
def linkedState (state : LinkState) (existing : Dict String SalesTransaction)
    (collector : IssueCollector) (rows : List SalesImportStagedRow) (table : FactTable) : LinkState :=
  let added := table.facts.drop state.table.facts.length
  { visible := state.visible ++ added
    table := table
    collector := collector
    linked := state.linked ++ rows.map (linkRow existing added)
    insertedRows := state.insertedRows + added.length
    reusedRows := state.reusedRows +
      rows.countP (fun row => (existing.get row.sourceRecordId).isSome) }

/-- `_link_or_insert_chunk`. -/
def linkOrInsertChunk (sourceSystem : String) (createdById : Nat) (createdAt : Instant)
    (rows : List SalesImportStagedRow) (state : LinkState) : Except PublicationStop LinkState :=
  let existing := existingFacts state.visible sourceSystem rows
  let collector := state.collector.addAll ((rows.filter (conflicts existing)).map conflictIssue)
  if collector.total ≠ 0 then .error (.rejected collector)
  else
    match (rows.filter (fun row => (existing.get row.sourceRecordId).isNone)).mapM
        (newFact sourceSystem) with
    | none => .error (.raised (.integrityError ""))
    | some values =>
        match state.table.insertAll createdById createdAt values with
        | .error e => .error (.raised e)
        | .ok table => .ok (linkedState state existing collector rows table)

def linkBatches (sourceSystem : String) (createdById : Nat) (createdAt : Instant) :
    List (List SalesImportStagedRow) → LinkState → Except PublicationStop LinkState
  | [], state => .ok state
  | rows :: rest, state =>
      match linkOrInsertChunk sourceSystem createdById createdAt rows state with
      | .error stop => .error stop
      | .ok state => linkBatches sourceSystem createdById createdAt rest state

/-! ## Saving rows -/

/-- `bulk_update` of the changed rows, by their place in the file. -/
def saveRows (changed : List SalesImportStagedRow)
    (copy : SalesImportStagedRow → SalesImportStagedRow → SalesImportStagedRow)
    (rows : List SalesImportStagedRow) : List SalesImportStagedRow :=
  rows.map (fun row =>
    match findBy SalesImportStagedRow.rowNumber row.rowNumber changed with
    | some source => copy source row
    | none => row)

def copyReferences (source row : SalesImportStagedRow) : SalesImportStagedRow :=
  { row with
    calendarDateId := source.calendarDateId
    productId := source.productId
    territoryId := source.territoryId
    hospitalId := source.hospitalId
    salesRepresentativeId := source.salesRepresentativeId }

def copyLink (source row : SalesImportStagedRow) : SalesImportStagedRow :=
  { row with outcome := source.outcome, salesTransactionId := source.salesTransactionId }

/-- `order_by("row_number")`. -/
def inRowOrder (rows : List SalesImportStagedRow) : List SalesImportStagedRow :=
  rows.insertionSort (fun first second => first.rowNumber ≤ second.rowNumber)

/-! ## Finishing -/

/-- `_finish_locked_job`. -/
def finishLockedJob (jobId : Uuid) (job : SalesImportJob) (attempt : SalesImportAttempt)
    (status : SalesImportJob.Status) (outcome : SalesImportAttempt.Outcome)
    (counts : SalesImportJobCounts) (errorCode errorMessage : String) (finishedAt : Instant)
    (store : Store) : Outcome SalesImportProcessingResult :=
  match validateFor counts status with
  | .error e => .error e
  | .ok () => .ok (⟨jobId, status, counts⟩, saveJob store jobId (saveAttempt
      (finishedJob job status counts errorCode errorMessage finishedAt)
      (finishedAttempt attempt status outcome counts errorCode errorMessage finishedAt)))

def rejectionCounts (totalRows invalidRows issueCount : Nat) : SalesImportJobCounts where
  totalRows := totalRows
  validRows := totalRows - invalidRows
  invalidRows := invalidRows
  issueCount := issueCount

def publicationCounts (totalRows insertedRows reusedRows : Nat) : SalesImportJobCounts where
  totalRows := totalRows
  validRows := totalRows
  insertedRows := insertedRows
  reusedRows := reusedRows

/-- The attempt once the validation loop has saved its references and issues. -/
def validatedAttempt (attempt : SalesImportAttempt) (checked : ValidationState) : SalesImportAttempt :=
  { attempt with
    phase := .validate
    stagedRows := saveRows checked.resolved copyReferences attempt.stagedRows
    issues := attempt.issues ++ checked.stored }

/-- The second pass over the rows as they have been saved, inside its savepoint. -/
def linkRows (settings : Settings) (snapshot : Snapshot) (intake : SalesImport)
    (attempt : SalesImportAttempt) (collector : IssueCollector) (createdAt : Instant) (store : Store) :
    Except PublicationStop LinkState :=
  linkBatches intake.sourceSystem intake.uploadedById createdAt
    (batched settings.dbBatchSize (inRowOrder attempt.stagedRows))
    { visible := snapshot.factTable.facts, table := store.factTable, collector := collector }

/-- After a validation without issues: publish, or reject on a late conflict. -/
def publishValidated (settings : Settings) (snapshot : Snapshot) (jobId : Uuid) (intake : SalesImport)
    (job : SalesImportJob) (attempt : SalesImportAttempt) (collector : IssueCollector)
    (times : PublicationTimes) (store : Store) : Outcome SalesImportProcessingResult :=
  let totalRows := attempt.stagedRows.length
  match linkRows settings snapshot intake attempt collector times.createdAt store with
  | .error (.raised e) => .error e
  | .error (.rejected rejected) =>
      finishLockedJob jobId job
        { attempt with phase := .publish, issues := attempt.issues ++ rejected.persisted }
        .rejected .rejected (rejectionCounts totalRows rejected.total rejected.total)
        sourceRecordConflict "One or more source record IDs conflict with immutable facts."
        times.finishedAt store
  | .ok state =>
      finishLockedJob jobId job
        { attempt with phase := .publish, stagedRows := saveRows state.linked copyLink attempt.stagedRows }
        .published .published (publicationCounts totalRows state.insertedRows state.reusedRows)
        "" "" times.finishedAt { store with factTable := state.table }

/-- The locked part of `_publish_once`. -/
def publishLocked (settings : Settings) (snapshot : Snapshot) (jobId : Uuid) (intake : SalesImport)
    (job : SalesImportJob) (attempt : SalesImportAttempt) (times : PublicationTimes) (store : Store) :
    Outcome SalesImportProcessingResult :=
  match validateBatches snapshot.master snapshot.factTable.facts intake.sourceSystem
      { collector := { maximum := settings.maxIssues } }
      (batched settings.dbBatchSize (inRowOrder attempt.stagedRows)) with
  | .error e => .error e
  | .ok checked =>
      let validated := validatedAttempt attempt checked
      if checked.collector.total ≠ 0 then
        finishLockedJob jobId job
          { validated with issues := validated.issues ++ checked.collector.persisted }
          .rejected .rejected
          (rejectionCounts attempt.stagedRows.length checked.invalidRows checked.collector.total)
          "VALIDATION_REJECTED" "Database-backed validation rejected the sales file."
          times.finishedAt store
      else
        publishValidated settings snapshot jobId intake job validated checked.collector times store

/-- `_publish_once`: `store` is the database the transaction commits into. -/
def publishOnce (settings : Settings) (snapshot : Snapshot) (claim : SalesImportClaim)
    (times : PublicationTimes) (store : Store) : Outcome SalesImportProcessingResult :=
  fenced claim.jobId claim.leaseToken times.startedAt store fun job attempt =>
    if claimMatches attempt claim then
      match findImport store claim.jobId with
      | none => .error .doesNotExist
      | some intake => publishLocked settings snapshot claim.jobId intake job attempt times store
    else .error claimMismatch

/-! ## A worker about to publish, for worked instances -/

namespace Sample

def settings : Settings := ⟨100000, 500, 1000, by decide, by decide, by decide⟩

def smallBatches : Settings := { settings with dbBatchSize := 2, dbBatchSize_positive := by decide }

def attempt (rows : List SalesImportStagedRow) : SalesImportAttempt where
  id := 7
  attemptNumber := 1
  leaseToken := 11
  workerId := "worker"
  phase := .parse
  startedAt := 0
  heartbeatAt := 0
  counts := { totalRows := rows.length, validRows := rows.length }
  stagedRows := rows

def job (rows : List SalesImportStagedRow) : SalesImportJob where
  status := .processing
  availableAt := 0
  attemptCount := 1
  leaseToken := some 11
  leasedBy := "worker"
  leaseExpiresAt := some 1000
  heartbeatAt := some 0
  firstStartedAt := some 0
  counts := { totalRows := rows.length, validRows := rows.length }
  createdAt := 0
  attempts := [attempt rows]

def intake (rows : List SalesImportStagedRow) : SalesImport where
  id := 3
  sourceSystem := "ERP"
  originalFilename := "sales.csv"
  contentType := "text/csv"
  fileFormat := .csv
  sizeBytes := 200
  sha256 := "0f"
  storageBucket := "bucket"
  storageKmsKeyArn := some "arn:aws:kms:eu-west-1:123456789012:key/one"
  storageKey := "sales-imports/original/2026/01/3.csv"
  storageVersionId := "v1"
  uploadedById := 1
  status := .received
  receivedAt := some 0
  createdAt := 0
  processingJob := some (job rows)

def store (table : FactTable) (rows : List SalesImportStagedRow) : Store where
  importTable := ⟨[intake rows], List.nodup_singleton _, List.nodup_singleton _,
    by simp [SalesImport.MetadataConsistent, intake]⟩
  factTable := table
  master := Validation.Sample.master

def claim : SalesImportClaim where
  jobId := 3
  salesImportId := 3
  attemptId := 7
  attemptNumber := 1
  leaseToken := 11
  workerId := "worker"
  leaseExpiresAt := 1000
  one_to_one := rfl

def otherClaim : SalesImportClaim := { claim with jobId := 4, salesImportId := 4, one_to_one := rfl }

def times : PublicationTimes := ⟨10, 20, 30⟩

end Sample

end PharmaIntel.Publication
