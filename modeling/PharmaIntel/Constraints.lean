import Mathlib
import PharmaIntel.PyText
import PharmaIntel.Models

/-! The constraints the database puts on the tables: column limits, checks and the
whitespace trigger. Choice columns are enumerations here, so their checks hold by
construction. -/

namespace PharmaIntel.Constraints
open PharmaIntel.Base PharmaIntel.PyText PharmaIntel.Models

/-- The server's own case mapping and `[[:space:]]` class, which depend on its
locale. -/
structure PostgresText where
  upper : Char → Char
  isSpace : Char → Bool

/-- What the server and the interpreter agree on. -/
structure PostgresText.Agrees (pg : PostgresText) (ucd : UnicodeDatabase) : Prop where
  upper_fixed : ∀ c, ucd.upper c = [c] → pg.upper c = c
  isSpace_known : ∀ c, pg.isSpace c = true → isspace c = true ∨ ucd.isOther c = true

/-- `UPPER(value)`. -/
def PostgresText.upperText (pg : PostgresText) (s : String) : String :=
  String.ofList (s.toList.map pg.upper)

/-- `TRIM(value)`, which removes spaces only. -/
def trim (s : String) : String := String.ofList (trimBy (fun c => c = ' ') s.toList)

theorem trim_empty : trim "" = "" := by decide

/-- Text without whitespace at its ends has no spaces there either. -/
theorem trim_of_stripped {s : String} (stripped : Stripped s) : s = trim s := by
  have clear : NoEdge (fun c => c = ' ') s.toList := by
    apply NoEdge.mono stripped
    intro c _ space
    rw [of_decide_eq_true space]
    decide
  rw [trim, trimBy_of_noEdge clear, String.ofList_toList]

/-- Text columns cannot hold the character NUL. -/
def Encodable (s : String) : Prop := '\x00' ∉ s.toList

/-- The largest value of a `PositiveBigIntegerField`. -/
def maxBigInteger : Nat := 9223372036854775807

/-- `business_data_has_python_edge_whitespace(value)`. -/
def hasPythonEdgeWhitespace (s : String) : Bool := s ≠ strip s

/-- `^\s*$`. -/
def PostgresText.blank (pg : PostgresText) (s : String) : Bool := s.toList.all pg.isSpace

/-- `^[[:space:]]|[[:space:]]$`. -/
def PostgresText.edgeSpace (pg : PostgresText) (s : String) : Bool :=
  s.toList.head?.any pg.isSpace || s.toList.getLast?.any pg.isSpace

/-- `^[A-Z]{3}$`. -/
def currencyFormat (s : String) : Bool :=
  s.length = 3 && s.toList.all (fun c => decide ('A' ≤ c) && decide (c ≤ 'Z'))

/-- `^[A-Z][A-Z0-9_]*$`. -/
def codeFormat (s : String) : Bool :=
  match s.toList with
  | [] => false
  | first :: rest =>
      (decide ('A' ≤ first) && decide (first ≤ 'Z')) &&
        rest.all (fun c => decide ('A' ≤ c) && decide (c ≤ 'Z') ||
          decide ('0' ≤ c) && decide (c ≤ '9') || c = '_')

/-- The value fits `numeric(maxDigits, places)`. -/
def Fits (maxDigits : Nat) {places : Nat} (value : Numeric places) : Prop :=
  value.units.natAbs < 10 ^ maxDigits

/-- `quantity > 0 AND revenue >= 0 OR quantity < 0 AND revenue <= 0`. -/
def measureSigns (quantity : Numeric 3) (revenueAmount : Numeric 4) : Prop :=
  0 < quantity.units ∧ 0 ≤ revenueAmount.units ∨ quantity.units < 0 ∧ revenueAmount.units ≤ 0

/-! ## Staged rows -/

structure RequiredCode (pg : PostgresText) (code : String) : Prop where
  uppercase : code = pg.upperText code
  trimmed : code = trim code
  length : code.length ≤ 64
  encodable : Encodable code

structure StagedRowValid (pg : PostgresText) (row : SalesImportStagedRow) : Prop where
  rowNumber_limit : row.rowNumber ≤ maxBigInteger
  rowNumber_valid : 2 ≤ row.rowNumber
  sourceId_limit : row.sourceRecordId.length ≤ 255
  sourceId_encodable : Encodable row.sourceRecordId
  sourceId_valid : row.sourceRecordId = trim row.sourceRecordId ∧ row.sourceRecordId ≠ ""
  productCode_valid : RequiredCode pg row.productCode ∧ row.productCode ≠ ""
  territoryCode_valid : RequiredCode pg row.territoryCode ∧ row.territoryCode ≠ ""
  hospitalCode_valid : RequiredCode pg row.hospitalCode
  representativeCode_valid : RequiredCode pg row.salesRepresentativeCode
  quantity_limit : Fits 18 row.quantity
  revenue_limit : Fits 20 row.revenueAmount
  currency_valid : currencyFormat row.currencyCode
  measures_valid : row.quantity.units ≠ 0 ∧ measureSigns row.quantity row.revenueAmount
  result_consistent :
    row.outcome = .staged ∧ row.salesTransactionId = none ∨
      row.outcome ≠ .staged ∧ row.salesTransactionId ≠ none ∧ row.calendarDateId ≠ none ∧
        row.productId ≠ none ∧ row.territoryId ≠ none ∧
        (row.hospitalCode = "" ↔ row.hospitalId = none) ∧
        (row.salesRepresentativeCode = "" ↔ row.salesRepresentativeId = none)

/-- `sales_staged_row_number_unique` and `sales_staged_source_id_unique`, within one attempt. -/
structure StagedRowsUnique (rows : List SalesImportStagedRow) : Prop where
  rowNumbers : (rows.map SalesImportStagedRow.rowNumber).Nodup
  sourceIds : (rows.map SalesImportStagedRow.sourceRecordId).Nodup

/-! ## Sales facts -/

/-- The checks and the whitespace trigger on `source_system`. -/
structure SourceSystemValid (pg : PostgresText) (sourceSystem : String) : Prop where
  limit : sourceSystem.length ≤ 64
  encodable : Encodable sourceSystem
  not_blank : pg.blank sourceSystem = false
  trimmed : sourceSystem = trim sourceSystem
  uppercase : sourceSystem = pg.upperText sourceSystem
  no_edge_space : pg.edgeSpace sourceSystem = false
  python_trimmed : hasPythonEdgeWhitespace sourceSystem = false

structure FactValid (pg : PostgresText) (fact : SalesValues) : Prop where
  source_valid : SourceSystemValid pg fact.sourceSystem
  recordId_limit : fact.sourceRecordId.length ≤ 255
  recordId_encodable : Encodable fact.sourceRecordId
  recordId_not_blank : pg.blank fact.sourceRecordId = false
  recordId_trimmed : fact.sourceRecordId = trim fact.sourceRecordId
  record_no_edge_space : pg.edgeSpace fact.sourceRecordId = false
  record_python_trimmed : hasPythonEdgeWhitespace fact.sourceRecordId = false
  currency_format : currencyFormat fact.currencyCode
  quantity_nonzero : fact.quantity.units ≠ 0
  quantity_limit : Fits 18 fact.quantity
  quantity_finite : -(10 ^ 18 : Int) < fact.quantity.units ∧ fact.quantity.units < 10 ^ 18
  revenue_limit : Fits 20 fact.revenueAmount
  revenue_finite : -(10 ^ 20 : Int) < fact.revenueAmount.units ∧ fact.revenueAmount.units < 10 ^ 20
  measure_signs : measureSigns fact.quantity fact.revenueAmount

/-! ## Issues -/

structure IssueValid (issue : SalesImportIssue) : Prop where
  rowNumber_valid : ∀ n ∈ issue.rowNumber, 2 ≤ n ∧ n ≤ maxBigInteger
  column_limit : issue.column.length ≤ 64
  column_valid : issue.column = trim issue.column ∧ issue.column ≠ ""
  code_limit : issue.code.length ≤ 64
  code_valid : codeFormat issue.code
  message_limit : issue.message.length ≤ 1000
  message_valid : issue.message = trim issue.message ∧ issue.message ≠ ""

/-! ## Jobs and attempts -/

structure CountsValid (counts : SalesImportJobCounts) (published rejected : Prop) : Prop where
  counts_valid : counts.totalRows = counts.validRows + counts.invalidRows ∧
    counts.invalidRows ≤ counts.issueCount
  publish_counts_valid :
    published ∧ counts.invalidRows = 0 ∧ counts.issueCount = 0 ∧
        counts.totalRows = counts.validRows ∧
        counts.validRows = counts.insertedRows + counts.reusedRows ∨
      ¬published ∧ counts.insertedRows = 0 ∧ counts.reusedRows = 0
  rejection_has_issue : rejected → 0 < counts.issueCount

structure JobValid (job : SalesImportJob) : Prop where
  attempts_valid : 0 < job.maxAttempts ∧ job.attemptCount ≤ job.maxAttempts
  maxAttempts_limit : job.maxAttempts ≤ 32767
  counts : CountsValid job.counts (job.status = .published) (job.status = .rejected)
  lease_consistent :
    job.status = .processing ∧ job.leaseToken ≠ none ∧ job.leaseExpiresAt ≠ none ∧
        job.heartbeatAt ≠ none ∧ job.firstStartedAt ≠ none ∧ job.finishedAt = none ∧
        job.leasedBy ≠ "" ∨
      job.status ≠ .processing ∧ job.leaseToken = none ∧ job.leasedBy = "" ∧
        job.leaseExpiresAt = none ∧ job.heartbeatAt = none
  finished_consistent : job.status.isTerminal ↔ job.finishedAt ≠ none
  worker_limit : job.leasedBy.length ≤ 255
  worker_trimmed : job.leasedBy = trim job.leasedBy
  errorCode_limit : job.lastErrorCode.length ≤ 64
  errorMessage_limit : job.lastErrorMessage.length ≤ 1000

structure AttemptValid (attempt : SalesImportAttempt) : Prop where
  number_positive : 0 < attempt.attemptNumber
  worker_valid : attempt.workerId = trim attempt.workerId ∧ attempt.workerId ≠ ""
  worker_limit : attempt.workerId.length ≤ 255
  finished_consistent : attempt.outcome = .running ↔ attempt.finishedAt = none
  counts : CountsValid attempt.counts (attempt.outcome = .published) (attempt.outcome = .rejected)
  errorCode_limit : attempt.errorCode.length ≤ 64
  errorMessage_limit : attempt.errorMessage.length ≤ 1000

end PharmaIntel.Constraints
