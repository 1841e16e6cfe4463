import Mathlib
import PharmaIntel.Base.Gregorian

/-! The persisted records. A record of the one side holds the records of the many
side under the foreign key's related name, so a job is part of its intake, attempts
are part of their job, and staged rows and issues part of their attempt. Surrogate
keys are kept where the code reads them. -/

namespace PharmaIntel.Models
open PharmaIntel.Base

abbrev Uuid := Nat
/-- Microseconds since the epoch. -/
abbrev Instant := Int
/-- Microseconds. -/
abbrev Duration := Int

/-- A `numeric(_, places)` column: `units` counts the last decimal place. -/
structure Numeric (places : Nat) where
  units : Int
  deriving DecidableEq, Repr

/-! ## Sales facts -/

structure SalesTransaction where
  id : Nat
  calendarDateId : Date
  productId : Nat
  territoryId : Nat
  hospitalId : Option Nat
  salesRepresentativeId : Option Nat
  quantity : Numeric 3
  revenueAmount : Numeric 4
  currencyCode : String
  sourceSystem : String
  sourceRecordId : String
  createdById : Nat
  createdAt : Instant
  deriving DecidableEq

def SalesTransaction.key (fact : SalesTransaction) : String × String :=
  (fact.sourceSystem, fact.sourceRecordId)

/-- A fact without its surrogate id, creator and creation time. -/
structure SalesValues where
  calendarDateId : Date
  productId : Nat
  territoryId : Nat
  hospitalId : Option Nat
  salesRepresentativeId : Option Nat
  quantity : Numeric 3
  revenueAmount : Numeric 4
  currencyCode : String
  sourceSystem : String
  sourceRecordId : String
  deriving DecidableEq

def SalesTransaction.values (fact : SalesTransaction) : SalesValues :=
  ⟨fact.calendarDateId, fact.productId, fact.territoryId, fact.hospitalId, fact.salesRepresentativeId,
    fact.quantity, fact.revenueAmount, fact.currencyCode, fact.sourceSystem, fact.sourceRecordId⟩

def SalesValues.key (values : SalesValues) : String × String :=
  (values.sourceSystem, values.sourceRecordId)

@[simp] theorem SalesTransaction.key_values (fact : SalesTransaction) : fact.values.key = fact.key := rfl

/-- `business_data_salestransaction`, with its primary key, its sequence and
`business_data_sales_source_unique`. -/
structure FactTable where
  facts : List SalesTransaction
  sequence : Nat
  ids_below : ∀ fact ∈ facts, fact.id < sequence
  ids_nodup : (facts.map SalesTransaction.id).Nodup
  keys_nodup : (facts.map SalesTransaction.key).Nodup

def FactTable.empty : FactTable := ⟨[], 1, by simp, by simp, by simp⟩

/-! ## Master data -/

inductive Territory.Level where
  | zone
  | region
  | area
  | territory
  deriving DecidableEq, Repr

structure Territory where
  pk : Nat
  code : String
  level : Territory.Level
  deriving DecidableEq, Repr

/-- A product, a hospital or a sales representative, as the import reads them. -/
structure CodedMasterData where
  pk : Nat
  code : String
  deriving DecidableEq, Repr

/-- A dated assignment of a hospital or a sales representative to a territory;
an absent end date leaves the period open. -/
structure TerritoryAssignment where
  identityId : Nat
  territoryId : Nat
  effectiveFrom : Date
  effectiveTo : Option Date
  deriving DecidableEq

/-- Everything the import validates against except the facts; codes are unique. -/
structure MasterData where
  calendar : List Date
  products : List CodedMasterData
  territories : List Territory
  hospitals : List CodedMasterData
  representatives : List CodedMasterData
  hospitalAssignments : List TerritoryAssignment
  representativeAssignments : List TerritoryAssignment
  products_unique : (products.map CodedMasterData.code).Nodup
  territories_unique : (territories.map Territory.code).Nodup
  hospitals_unique : (hospitals.map CodedMasterData.code).Nodup
  representatives_unique : (representatives.map CodedMasterData.code).Nodup

/-! ## Import processing -/

/-- The six counters of a job or an attempt, validated by `validate_for`. -/
structure SalesImportJobCounts where
  totalRows : Nat := 0
  validRows : Nat := 0
  invalidRows : Nat := 0
  issueCount : Nat := 0
  insertedRows : Nat := 0
  reusedRows : Nat := 0
  deriving DecidableEq, Repr

inductive SalesImportStagedRow.Outcome where
  | staged
  | published
  | reused
  deriving DecidableEq, Repr

structure SalesImportStagedRow where
  rowNumber : Nat
  sourceRecordId : String
  transactionDate : Date
  productCode : String
  territoryCode : String
  hospitalCode : String
  salesRepresentativeCode : String
  quantity : Numeric 3
  revenueAmount : Numeric 4
  currencyCode : String
  calendarDateId : Option Date := none
  productId : Option Nat := none
  territoryId : Option Nat := none
  hospitalId : Option Nat := none
  salesRepresentativeId : Option Nat := none
  outcome : SalesImportStagedRow.Outcome := .staged
  salesTransactionId : Option Nat := none
  deriving DecidableEq

inductive SalesImportIssue.Phase where
  | contract
  | masterData
  | idempotency
  deriving DecidableEq, Repr

structure SalesImportIssue where
  rowNumber : Option Nat
  column : String
  code : String
  message : String
  phase : SalesImportIssue.Phase
  deriving DecidableEq, Repr

inductive SalesImportAttempt.Phase where
  | claimed
  | download
  | parse
  | validate
  | publish
  | complete
  deriving DecidableEq, Repr

inductive SalesImportAttempt.Outcome where
  | running
  | published
  | rejected
  | retryableFailure
  | permanentFailure
  | leaseExpired
  | cancelled
  deriving DecidableEq, Repr

structure SalesImportAttempt where
  id : Uuid
  attemptNumber : Nat
  leaseToken : Uuid
  workerId : String
  phase : SalesImportAttempt.Phase := .claimed
  outcome : SalesImportAttempt.Outcome := .running
  startedAt : Instant
  heartbeatAt : Instant
  finishedAt : Option Instant := none
  counts : SalesImportJobCounts := {}
  errorCode : String := ""
  errorMessage : String := ""
  stagedRows : List SalesImportStagedRow := []
  issues : List SalesImportIssue := []
  deriving DecidableEq

inductive SalesImportJob.Status where
  | waitingForFile
  | awaitingParser
  | queued
  | processing
  | retryWait
  | published
  | rejected
  | failed
  | cancelled
  deriving DecidableEq, Repr

/-- `SalesImportJob.TERMINAL_STATUSES`. -/
def SalesImportJob.Status.isTerminal : SalesImportJob.Status → Bool
  | .published | .rejected | .failed | .cancelled => true
  | _ => false

/-- Its primary key is the one-to-one key to the intake. -/
structure SalesImportJob where
  status : SalesImportJob.Status := .waitingForFile
  availableAt : Instant
  attemptCount : Nat := 0
  maxAttempts : Nat := 5
  leaseToken : Option Uuid := none
  leasedBy : String := ""
  leaseExpiresAt : Option Instant := none
  heartbeatAt : Option Instant := none
  firstStartedAt : Option Instant := none
  finishedAt : Option Instant := none
  counts : SalesImportJobCounts := {}
  lastErrorCode : String := ""
  lastErrorMessage : String := ""
  createdAt : Instant
  attempts : List SalesImportAttempt := []
  deriving DecidableEq

/-! ## Intake -/

inductive SalesImport.DataContract where
  | salesV1
  deriving DecidableEq, Repr

inductive SalesImport.RowContract where
  | salesRowsV1
  deriving DecidableEq, Repr

inductive SalesImport.FileFormat where
  | csv
  | xlsx
  deriving DecidableEq, Repr

inductive SalesImport.Status where
  | receiving
  | received
  | failed
  deriving DecidableEq, Repr

inductive SalesImport.FailureCode where
  | none
  | storageError
  | objectMissing
  | verificationFailed
  deriving DecidableEq, Repr

structure SalesImport where
  id : Uuid
  dataContract : SalesImport.DataContract := .salesV1
  rowContract : SalesImport.RowContract := .salesRowsV1
  sourceSystem : String
  originalFilename : String
  contentType : String
  fileFormat : SalesImport.FileFormat
  sizeBytes : Nat
  sha256 : String
  storageBucket : String
  storageKmsKeyArn : Option String
  storageKey : String
  storageVersionId : String := ""
  uploadedById : Nat
  status : SalesImport.Status := .receiving
  failureCode : SalesImport.FailureCode := .none
  receivedAt : Option Instant := none
  failedAt : Option Instant := none
  createdAt : Instant
  /-- The job is reached through its one-to-one key. -/
  processingJob : Option SalesImportJob := none
  deriving DecidableEq

/-- The columns of `sales_import_active_file_unique`. -/
def SalesImport.fileKey (intake : SalesImport) :
    SalesImport.DataContract × SalesImport.RowContract × String × String :=
  (intake.dataContract, intake.rowContract, intake.sourceSystem, intake.sha256)

def SalesImport.isActive (intake : SalesImport) : Bool :=
  intake.status = .receiving || intake.status = .received

/-- `sales_import_status_metadata_consistent`. -/
def SalesImport.MetadataConsistent (intake : SalesImport) : Prop :=
  intake.status = .receiving ∧ intake.receivedAt = none ∧ intake.failedAt = none ∧
      intake.storageVersionId = "" ∧ intake.failureCode = .none ∨
    intake.status = .received ∧ intake.receivedAt ≠ none ∧ intake.failedAt = none ∧
      intake.failureCode = .none ∧ intake.storageVersionId ≠ "" ∨
    intake.status = .failed ∧ intake.failedAt ≠ none ∧ intake.failureCode ≠ .none ∧
      (intake.receivedAt = none ∧ intake.storageVersionId = "" ∨
        intake.receivedAt ≠ none ∧
          (intake.failureCode = .objectMissing ∨ intake.failureCode = .verificationFailed) ∧
          intake.storageVersionId ≠ "")

instance (intake : SalesImport) : Decidable intake.MetadataConsistent :=
  inferInstanceAs (Decidable (_ ∨ _))

/-- `sales_imports_salesimport`, with its primary key, `sales_import_active_file_unique`
and `sales_import_status_metadata_consistent`. -/
structure ImportTable where
  imports : List SalesImport
  ids_nodup : (imports.map SalesImport.id).Nodup
  active_nodup : ((imports.filter SalesImport.isActive).map SalesImport.fileKey).Nodup
  consistent : ∀ intake ∈ imports, intake.MetadataConsistent

/-- The committed database. -/
structure Store where
  importTable : ImportTable
  factTable : FactTable
  master : MasterData

/-- The exceptions the modelled code raises. -/
inductive PyError where
  | claimLost (message : String)
  | queueStateError (message : String)
  | valueError (message : String)
  | runtimeError (message : String)
  | doesNotExist
  | integrityError (constraint : String)
  | validationError (message : String)
  /-- Any other refusal of the database, and a lost connection. -/
  | databaseError (message : String)
  | commandError (message : String)
  deriving DecidableEq, Repr

/-- The settings `positive_integer_setting` admits. -/
structure Settings where
  maxRows : Nat
  dbBatchSize : Nat
  maxIssues : Nat
  maxRows_positive : 1 ≤ maxRows
  dbBatchSize_positive : 1 ≤ dbBatchSize
  maxIssues_positive : 1 ≤ maxIssues

end PharmaIntel.Models
