import Mathlib
import PharmaIntel.Queue

/-! The intake of an original file: its record, the conditional updates of its status,
and the transactions that move the record together with its job. -/

namespace PharmaIntel.Intake
open PharmaIntel.Base PharmaIntel.Models PharmaIntel.Queue

/-- What an upload records about its file. -/
structure IntakeDraft where
  id : Uuid
  sourceSystem : String
  originalFilename : String
  contentType : String
  fileFormat : SalesImport.FileFormat
  sizeBytes : Nat
  sha256 : String
  storageBucket : String
  storageKmsKeyArn : String
  storageKey : String
  uploadedById : Nat
  deriving DecidableEq, Repr

def newImport (ucd : PyText.UnicodeDatabase) (draft : IntakeDraft) (createdAt : Instant) : SalesImport where
  id := draft.id
  sourceSystem := PyText.upper ucd (PyText.strip draft.sourceSystem)
  originalFilename := draft.originalFilename
  contentType := draft.contentType
  fileFormat := draft.fileFormat
  sizeBytes := draft.sizeBytes
  sha256 := draft.sha256
  storageBucket := draft.storageBucket
  storageKmsKeyArn := some (PyText.strip draft.storageKmsKeyArn)
  storageKey := draft.storageKey
  uploadedById := draft.uploadedById
  createdAt := createdAt

/-- `max_attempts` when the caller gives none. -/
def defaultMaxAttempts : Nat := 5

/-- `SalesImport.objects.create` and `enqueue_import` in one transaction. -/
def createImport (ucd : PyText.UnicodeDatabase) (draft : IntakeDraft) (now createdAt : Instant)
    (store : Store) : Outcome SalesImportJob :=
  if PyText.strip draft.storageKmsKeyArn = "" then
    .error (.validationError "A sales import must record its KMS key ARN.")
  else
    match store.importTable.insert (newImport ucd draft createdAt) with
    | .error e => .error e
    | .ok table =>
        enqueueImport draft.id defaultMaxAttempts now createdAt { store with importTable := table }

/-- `_existing_active_import`. -/
def existingActiveImport (sourceSystem sha256 : String) (store : Store) : Option SalesImport :=
  store.importTable.imports.find? (fun intake =>
    intake.fileKey = (.salesV1, .salesRowsV1, sourceSystem, sha256) && intake.isActive)

/-! ## Conditional updates -/

/-- A stored object version as `mark_received` keeps it. -/
structure VersionId where
  text : String
  nonempty : text ≠ ""

def receivedImport (version : VersionId) (now : Instant) (intake : SalesImport) : SalesImport :=
  if intake.status = .receiving then
    { intake with
      status := .received
      storageVersionId := version.text
      receivedAt := some now
      failureCode := .none
      failedAt := none }
  else intake

def failedImport (failureCode : SalesImport.FailureCode) (now : Instant) (intake : SalesImport) :
    SalesImport :=
  if intake.status = .receiving ∧ failureCode ≠ .none then
    { intake with
      status := .failed
      storageVersionId := ""
      receivedAt := none
      failureCode := failureCode
      failedAt := some now }
  else intake

/-- The codes of a stored object that is gone for good. -/
def isPermanent (failureCode : SalesImport.FailureCode) : Bool :=
  failureCode = .objectMissing || failureCode = .verificationFailed

def objectFailedImport (failureCode : SalesImport.FailureCode) (now : Instant) (intake : SalesImport) :
    SalesImport :=
  if intake.status = .received ∧ isPermanent failureCode = true then
    { intake with status := .failed, failureCode := failureCode, failedAt := some now }
  else intake

/-- The intakes whose missing key can still be verified. -/
def lacksProvenance (intake : SalesImport) : Bool :=
  intake.storageKmsKeyArn = none &&
    (intake.status = .receiving && intake.receivedAt = none && intake.storageVersionId = "" ||
      (intake.status = .received || intake.status = .failed) && intake.receivedAt ≠ none &&
        intake.storageVersionId ≠ "")

def provenImport (kmsKeyArn : String) (intake : SalesImport) : SalesImport :=
  if lacksProvenance intake = true then { intake with storageKmsKeyArn := some kmsKeyArn } else intake

theorem receivedImport_stable (version : VersionId) (now : Instant) :
    Stable (receivedImport version now) := by
  apply Stable.guarded (fun intake => intake.status = .receiving)
  · exact fun _ _ => rfl
  · exact fun _ _ => rfl
  · exact fun intake receiving _ => by simp [SalesImport.isActive, receiving]
  · exact fun intake _ _ => by simp [SalesImport.MetadataConsistent, version.nonempty]

theorem failedImport_stable (failureCode : SalesImport.FailureCode) (now : Instant) :
    Stable (failedImport failureCode now) := by
  apply Stable.guarded (fun intake => intake.status = .receiving ∧ failureCode ≠ .none)
  · exact fun _ _ => rfl
  · exact fun _ _ => rfl
  · exact fun intake _ active => by simp [SalesImport.isActive] at active
  · exact fun intake coded _ => by simp [SalesImport.MetadataConsistent, coded.2]

theorem objectFailedImport_stable (failureCode : SalesImport.FailureCode) (now : Instant) :
    Stable (objectFailedImport failureCode now) := by
  apply Stable.guarded (fun intake => intake.status = .received ∧ isPermanent failureCode = true)
  · exact fun _ _ => rfl
  · exact fun _ _ => rfl
  · exact fun intake _ active => by simp [SalesImport.isActive] at active
  · intro intake received consistent
    have permanent : failureCode = .objectMissing ∨ failureCode = .verificationFailed := by
      simpa [isPermanent] using received.2
    have stored : intake.receivedAt ≠ none ∧ intake.storageVersionId ≠ "" := by
      simp only [SalesImport.MetadataConsistent, received.1] at consistent
      simp at consistent
      exact ⟨consistent.1, consistent.2.2.2⟩
    refine Or.inr (Or.inr ⟨rfl, by simp, ?_, Or.inr ⟨stored.1, permanent, stored.2⟩⟩)
    rcases permanent with rfl | rfl <;> simp

theorem provenImport_stable (kmsKeyArn : String) : Stable (provenImport kmsKeyArn) :=
  Stable.guarded (fun intake => lacksProvenance intake = true) (fun _ _ => rfl) (fun _ _ => rfl)
    (fun _ _ active => active) (fun _ _ consistent => consistent)

/-! ## Status transitions -/

def noLongerReceiving : PyError := .runtimeError "The import is no longer awaiting storage completion."

/-- `mark_received`. -/
def markReceived (pk : Uuid) (versionId : String) (now : Instant) (store : Store) : Except PyError Store :=
  if blank : PyText.strip versionId = "" then .error (.valueError "A stored object version is required.")
  else if (findImport store pk).any (fun intake => intake.status = .receiving) then
    .ok (updateImport store pk (receivedImport ⟨PyText.strip versionId, blank⟩ now)
      (receivedImport_stable _ now))
  else .error noLongerReceiving

/-- `mark_failed`. -/
def markFailed (pk : Uuid) (failureCode : SalesImport.FailureCode) (now : Instant) (store : Store) :
    Except PyError Store :=
  if failureCode = .none then .error (.valueError "A recognized failure code is required.")
  else if (findImport store pk).any (fun intake => intake.status = .receiving) then
    .ok (updateImport store pk (failedImport failureCode now) (failedImport_stable failureCode now))
  else .error noLongerReceiving

/-- `mark_stored_object_failed`. -/
def markStoredObjectFailed (pk : Uuid) (failureCode : SalesImport.FailureCode) (now : Instant)
    (store : Store) : Except PyError Store :=
  if isPermanent failureCode = false then
    .error (.valueError "A permanent stored-object failure code is required.")
  else if (findImport store pk).any (fun intake => intake.status = .received) then
    .ok (updateImport store pk (objectFailedImport failureCode now)
      (objectFailedImport_stable failureCode now))
  else .error (.runtimeError "The received import can no longer be failed.")

/-- What follows `key/` in a key's resource: `[^/\s]+`. -/
def isKeyResource : List Char → Bool
  | 'k' :: 'e' :: 'y' :: '/' :: name => name ≠ [] && name.all (fun c => c ≠ '/' && !PyText.isspace c)
  | _ => false

/-- `KMS_KEY_ARN_PATTERN.fullmatch`; only the resource may hold further colons. -/
def isKmsKeyArn (value : String) : Bool :=
  match value.toList.splitOn ':' with
  | arn :: part :: kms :: region :: account :: resource =>
      arn = "arn".toList && part ≠ [] && kms = "kms".toList && region ≠ [] &&
        (account.length = 12 && account.all (fun c => decide ('0' ≤ c) && decide (c ≤ '9'))) &&
        isKeyResource (List.intercalate [':'] resource)
  | _ => false

/-- `record_legacy_kms_key_arn`. -/
def recordLegacyKmsKeyArn (pk : Uuid) (kmsKeyArn : String) (store : Store) : Except PyError Store :=
  if isKmsKeyArn (PyText.strip kmsKeyArn) = false then
    .error (.valueError "A concrete KMS key ARN is required.")
  else if (findImport store pk).any lacksProvenance then
    .ok (updateImport store pk (provenImport (PyText.strip kmsKeyArn)) (provenImport_stable _))
  else .error (.runtimeError ("KMS provenance can be recorded only once for a legacy import " ++
    "with verifiable storage evidence."))

/-! ## Transactions over the record and its job -/

/-- `mark_received` and `enqueue_import`. -/
def completeReceiving (pk : Uuid) (versionId : String) (now createdAt : Instant) (store : Store) :
    Outcome SalesImportJob :=
  match markReceived pk versionId now store with
  | .error e => .error e
  | .ok store => enqueueImport pk defaultMaxAttempts now createdAt store

/-- `mark_failed` and `enqueue_import`. -/
def abandonReceiving (pk : Uuid) (failureCode : SalesImport.FailureCode) (now createdAt : Instant)
    (store : Store) : Outcome SalesImportJob :=
  match markFailed pk failureCode now store with
  | .error e => .error e
  | .ok store => enqueueImport pk defaultMaxAttempts now createdAt store

/-- The transaction of `backfill_sales_import_kms`: an unfinished intake is received with
the version that was verified. -/
def recordProvenance (pk : Uuid) (kmsKeyArn versionId : String) (now createdAt : Instant)
    (store : Store) : Outcome Unit :=
  match findImport store pk with
  | none => .error .doesNotExist
  | some intake =>
      match recordLegacyKmsKeyArn pk kmsKeyArn store with
      | .error e => .error e
      | .ok store =>
          if intake.status = .receiving then
            (completeReceiving pk versionId now createdAt store).map (fun answer => ((), answer.2))
          else .ok ((), store)

def currentCounts (jobId : Uuid) (store : Store) : Except PyError SalesImportJobCounts :=
  match findJob store jobId with
  | none => .error .doesNotExist
  | some job => .ok job.counts

/-- `_complete_stored_object_failure`: the intake and the fenced claim fail together. -/
def completeStoredObjectFailure (claim : SalesImportClaim) (failureCode : SalesImport.FailureCode)
    (errorCode errorMessage : String) (now : Instant) (store : Store) : Outcome SalesImportJob :=
  match findImport store claim.salesImportId with
  | none => .error .doesNotExist
  | some _ =>
      match markStoredObjectFailed claim.salesImportId failureCode now store with
      | .error e => .error e
      | .ok store =>
          match currentCounts claim.jobId store with
          | .error e => .error e
          | .ok counts =>
              completeJob claim.jobId claim.leaseToken .failed (some counts) errorCode errorMessage now store

end PharmaIntel.Intake
