import Mathlib
import PharmaIntel.System

/-! The entry points as programs of transactions. What object storage, the download and
the wait for the source lock do is a parameter; clocks and random values come with each
transaction's environment. -/

namespace PharmaIntel.System
open PharmaIntel.Base PharmaIntel.Models PharmaIntel.Queue PharmaIntel.Intake PharmaIntel.Publication

/-- `SalesImportQueueError` is a `RuntimeError`. -/
def isRuntimeError : PyError → Bool
  | .runtimeError _ | .claimLost _ | .queueStateError _ => true
  | _ => false

def isDatabaseError : PyError → Bool
  | .integrityError _ | .databaseError _ => true
  | _ => false

def errorText : PyError → String
  | .claimLost message | .queueStateError message | .valueError message | .runtimeError message
  | .validationError message | .databaseError message | .commandError message => message
  | .integrityError constraint => constraint
  | .doesNotExist => ""

/-! ## Intake -/

structure SalesImportIntakeResult where
  importId : Uuid
  created : Bool
  deriving DecidableEq, Repr

/-- A concurrent upload of the same file, found after the insert has failed. -/
def concurrentImport (sourceSystem sha256 : String) : PyError → Transaction (Option Uuid)
  | .integrityError constraint => do
      match ← transact (.findActiveImport sourceSystem sha256) with
      | none => throw (.integrityError constraint)
      | some existing => return some existing.id
  | e => throw e

/-- What storage says about an unfinished upload. -/
inductive StorageCheck where
  | stored (versionId : String)
  | notFound
  | verificationFailed
  | unavailable
  deriving DecidableEq, Repr

inductive Reconciled where
  | received
  | failed
  | deferred
  | skipped
  deriving DecidableEq, Repr

/-- An intake that another process has finished meanwhile is skipped. -/
def unlessFinished (reconciled : Reconciled) (transaction : Transaction SalesImportJob) :
    Transaction Reconciled :=
  tryCatch
    (do
      let _ ← transaction
      return reconciled)
    (fun e => if isRuntimeError e then return .skipped else throw e)

def reconcileImport (pk : Uuid) : StorageCheck → Transaction Reconciled
  | .stored versionId => unlessFinished .received (transact (.completeReceiving pk versionId))
  | .notFound => unlessFinished .failed (transact (.abandonReceiving pk .objectMissing))
  | .verificationFailed => unlessFinished .failed (transact (.abandonReceiving pk .verificationFailed))
  | .unavailable => return .deferred

def reconciliationSummary (results : List Reconciled) : String :=
  "Reconciled imports: " ++ toString (results.count .received) ++ " received, " ++
    toString (results.count .failed) ++ " failed, " ++ toString (results.count .deferred) ++
    " deferred for retry."

structure DiscoveredKmsProvenance where
  kmsKeyArn : String
  versionId : String
  deriving DecidableEq, Repr

/-- The evidence `backfill_sales_import_kms` asks for before it reads storage. -/
def isRecoverable (intake : SalesImport) : Bool :=
  (intake.status = .receiving && intake.receivedAt = none && intake.storageVersionId = "") ||
    ((intake.status = .received || intake.status = .failed) && intake.receivedAt ≠ none &&
      intake.storageVersionId ≠ "")

/-! ### Commands that ask object storage between their transactions

They are written over any monad that runs transactions; the caller says what storage does. -/

section Commands
variable {m : Type → Type} [Monad m] [MonadExcept PyError m] (database : {α : Type} → Transaction α → m α)

/-- `receive_sales_import`. Only a file that is not active yet is prepared: its draft, and the
upload that gives the version storage reports, if it does. -/
def receiveSalesImport (ucd : PyText.UnicodeDatabase) (sourceSystem sha256 : String)
    (prepared : m (IntakeDraft × m (Option String))) : m SalesImportIntakeResult := do
  match ← database (transact (.findActiveImport (PyText.upper ucd (PyText.strip sourceSystem)) sha256)) with
  | some existing =>
      let _ ← database (transact (.enqueueImport existing.id defaultMaxAttempts))
      return ⟨existing.id, false⟩
  | none =>
      let (draft, upload) ← prepared
      let concurrent ← database (tryCatch
        (do
          let _ ← transact (.createImport { draft with sourceSystem := PyText.upper ucd (PyText.strip sourceSystem) })
          return none)
        (concurrentImport (PyText.upper ucd (PyText.strip sourceSystem)) sha256))
      match concurrent with
      | some existing => return ⟨existing, false⟩
      | none =>
          match ← upload with
          | none => return ⟨draft.id, true⟩
          | some versionId =>
              let _ ← database (transact (.completeReceiving draft.id versionId))
              return ⟨draft.id, true⟩

section Reconciling
variable (verify : SalesImport → m StorageCheck)

def reconcileEach : List SalesImport → m (List Reconciled)
  | [] => pure []
  | intake :: rest => do
      let checked ← verify intake
      let reconciled ← database (reconcileImport intake.id checked)
      let others ← reconcileEach rest
      return reconciled :: others

/-- `reconcile_sales_imports`, started at `now`. -/
def reconcileSalesImports (graceMinutes : Int) (now : Instant) : m String := do
  if graceMinutes < 1 then throw (PyError.commandError "--older-than-minutes must be at least 1.")
  else
    let imports ← database (transact (.findUnfinishedImports (now - graceMinutes * 60000000)))
    let results ← reconcileEach database verify
      (imports.mergeSort (fun first second => first.createdAt ≤ second.createdAt))
    if 0 < results.count .deferred then
      throw (PyError.commandError (reconciliationSummary results ++
        " S3 could not be reached; run reconciliation again after storage recovers."))
    else return reconciliationSummary results

end Reconciling

/-- `backfill_sales_import_kms`. -/
def backfillSalesImportKms (discover : SalesImport → m (Except String DiscoveredKmsProvenance)) (pk : Uuid) :
    m Unit := do
  let intake ← database (tryCatch (transact (.readImport pk)) (fun e =>
    if e = .doesNotExist then throw (.commandError ("No sales import exists for " ++ toString pk ++ "."))
    else throw e))
  if intake.storageKmsKeyArn.any (fun arn => arn ≠ "") then
    throw (PyError.commandError "This sales import already records its KMS key ARN.")
  else if isRecoverable intake = false then
    throw (PyError.commandError "This legacy import has no recoverable stored-object evidence.")
  else
    match ← discover intake with
    | .error message => throw (PyError.commandError message)
    | .ok provenance =>
        database (tryCatch (transact (.recordProvenance pk provenance.kmsKeyArn provenance.versionId)) (fun e =>
          if isRuntimeError e then throw (.commandError (errorText e)) else throw e))

end Commands

/-! ## Queue -/

/-- `claim_next_job`: cleanup and claim are two transactions. -/
def claimNextJob (workerId : String) (leaseDuration : Duration) : Transaction (Option SalesImportClaim) := do
  match normalizedWorkerId workerId with
  | .error e => throw e
  | .ok workerId =>
      match validateDuration leaseDuration "lease_duration" with
      | .error e => throw e
      | .ok leaseDuration =>
          let _ ← transact .markExhaustedBatch
          transact (.claimJob workerId leaseDuration)

/-! ## Processing a claim -/

/-- The exceptions of opening the stored object. -/
inductive DownloadFailure where
  | downloadError (message : String)
  | kmsProvenanceError (message : String)
  | notFoundError (message : String)
  | verificationError (message : String)
  | storageError (message : String)

structure Download where
  heartbeats : Nat
  opened : Except DownloadFailure Csv.TextStream

/-- The polls of `_source_session_lock`: the heartbeats between them, and whether the
lock was free before the deadline. -/
structure LockWait where
  heartbeats : Nat
  acquired : Bool

/-- How the guarded part of `process_claim` ends when no exception leaves it. -/
inductive FileEnd where
  | finished (result : SalesImportProcessingResult)
  | unopened (failure : DownloadFailure)
  | databaseError

section Worker
variable (settings : Settings) (ucd : PyText.UnicodeDatabase) (claim : SalesImportClaim)

def heartbeat : Transaction Unit := do
  let _ ← transact (.heartbeatJob claim.jobId claim.leaseToken defaultLeaseDuration)

def heartbeats (count : Nat) : Transaction Unit :=
  eachOf (fun _ => heartbeat claim) (List.replicate count ())

/-- `_stage_csv`. -/
def stageFile (stream : Csv.TextStream) : Transaction (Staging.Progress × Bool) := do
  eachOf (fun batch => transact (.recordParseBatch claim batch)) (Staging.stageCsv settings ucd stream).1
  match (Staging.stageCsv settings ucd stream).2 with
  | .error e => throw e
  | .ok staged => return staged

/-- `_publish_staged_rows`. -/
def publishStagedRows (wait : LockWait) : Transaction SalesImportProcessingResult := do
  heartbeats claim wait.heartbeats
  if wait.acquired then
    heartbeat claim
    tryCatch (transact (.publishOnce claim)) (fun e =>
      if e = .integrityError "business_data_sales_source_unique" then transact (.publishOnce claim)
      else throw e)
  else throw (.databaseError "Timed out waiting to publish another import from this source.")

def rejectContract (progress : Staging.Progress) : Transaction SalesImportProcessingResult := do
  let job ← transact (.completeJob claim.jobId claim.leaseToken .rejected (some (progress.counts 0 0))
    "CONTRACT_REJECTED" "The CSV row contract rejected the sales file.")
  return ⟨claim.jobId, job.status, progress.counts 0 0⟩

/-- What `process_claim` does between `try` and its handlers. -/
def processFile (download : Download) (wait : LockWait) : Transaction FileEnd := do
  transact (.advanceAttemptPhase claim.jobId claim.leaseToken .download)
  heartbeat claim
  heartbeats claim download.heartbeats
  match download.opened with
  | .error failure => return .unopened failure
  | .ok stream =>
      heartbeat claim
      let staged ← stageFile settings ucd claim stream
      if staged.2 then .finished <$> rejectContract claim staged.1
      else
        heartbeat claim
        .finished <$> publishStagedRows claim wait

/-- `_complete_failure`. -/
def completeFailure (errorCode errorMessage : String) : Transaction SalesImportProcessingResult := do
  let counts ← transact (.readCounts claim.jobId)
  let job ← transact (.completeJob claim.jobId claim.leaseToken .failed (some counts) errorCode errorMessage)
  return ⟨claim.jobId, job.status, counts⟩

def failStoredObject (failureCode : SalesImport.FailureCode) (errorCode errorMessage : String) :
    Transaction SalesImportProcessingResult := do
  let job ← transact (.completeStoredObjectFailure claim failureCode errorCode errorMessage)
  return ⟨claim.jobId, job.status, job.counts⟩

/-- `_schedule_processing_retry`. -/
def scheduleProcessingRetry (errorCode errorMessage : String) : Transaction SalesImportProcessingResult := do
  let job ← transact (.scheduleRetry claim.jobId claim.leaseToken errorCode errorMessage
    defaultRetryBaseDelay defaultRetryMaxDelay)
  let counts ← transact (.readCounts claim.jobId)
  return ⟨claim.jobId, job.status, counts⟩

/-- The handlers of the storage exceptions. -/
def handleUnopened : DownloadFailure → Transaction SalesImportProcessingResult
  | .downloadError message => scheduleProcessingRetry claim "S3_DOWNLOAD_RETRYABLE" message
  | .kmsProvenanceError message => completeFailure claim "KMS_PROVENANCE_MISSING" message
  | .notFoundError message => failStoredObject claim .objectMissing "S3_VERSION_NOT_FOUND" message
  | .verificationError message => failStoredObject claim .verificationFailed "S3_VERIFICATION_FAILED" message
  | .storageError message => completeFailure claim "S3_CONFIGURATION_ERROR" message

/-- `process_claim`. -/
def processClaim (download : Download) (wait : LockWait) : Transaction SalesImportProcessingResult := do
  let intake ← transact (.readImport claim.jobId)
  if intake.processingJob = none then throw .doesNotExist
  else if intake.fileFormat ≠ .csv then
    completeFailure claim "FORMAT_PARSER_UNAVAILABLE" "This file format does not have a row parser yet."
  else
    let ending ← tryCatch (processFile settings ucd claim download wait) (fun e =>
      if isDatabaseError e then return .databaseError else throw e)
    match ending with
    | .finished result => return result
    | .unopened failure => handleUnopened claim failure
    | .databaseError =>
        scheduleProcessingRetry claim "DATABASE_RETRYABLE"
          "A transient database error interrupted processing."

end Worker

end PharmaIntel.System
