import Mathlib
import PharmaIntel.Base.Run
import PharmaIntel.Base.Ternary
import PharmaIntel.Constraints

/-! The guards of the intake table against any statement: the audit trigger, the
storage-evidence trigger and the checks. A statement may give every column any value. -/

namespace PharmaIntel.AuditGuards
open PharmaIntel.Base PharmaIntel.Base.Ternary PharmaIntel.Models PharmaIntel.Constraints

/-! ## Rows -/

/-- A row of `sales_imports_salesimport`, with NULL in any column. -/
structure ImportRow where
  id : Option Uuid
  dataContract : Option String
  rowContract : Option String
  sourceSystem : Option String
  originalFilename : Option String
  contentType : Option String
  fileFormat : Option String
  sizeBytes : Option Int
  sha256 : Option String
  storageBucket : Option String
  storageKmsKeyArn : Option String
  storageKey : Option String
  storageVersionId : Option String
  uploadedById : Option Int
  status : Option String
  failureCode : Option String
  receivedAt : Option Instant
  failedAt : Option Instant
  createdAt : Option Instant
  updatedAt : Option Instant
  deriving DecidableEq, Repr

/-- The columns of the triggers' first row comparison. -/
structure Lineage where
  id : Option Uuid
  dataContract : Option String
  rowContract : Option String
  sourceSystem : Option String
  originalFilename : Option String
  contentType : Option String
  fileFormat : Option String
  sizeBytes : Option Int
  sha256 : Option String
  storageBucket : Option String
  storageKey : Option String
  uploadedById : Option Int
  createdAt : Option Instant
  deriving DecidableEq, Repr

def ImportRow.lineage (row : ImportRow) : Lineage where
  id := row.id
  dataContract := row.dataContract
  rowContract := row.rowContract
  sourceSystem := row.sourceSystem
  originalFilename := row.originalFilename
  contentType := row.contentType
  fileFormat := row.fileFormat
  sizeBytes := row.sizeBytes
  sha256 := row.sha256
  storageBucket := row.storageBucket
  storageKey := row.storageKey
  uploadedById := row.uploadedById
  createdAt := row.createdAt

/-- The columns a KMS backfill must leave alone. -/
structure StatusEvidence where
  status : Option String
  failureCode : Option String
  receivedAt : Option Instant
  failedAt : Option Instant
  storageVersionId : Option String
  deriving DecidableEq, Repr

def ImportRow.statusEvidence (row : ImportRow) : StatusEvidence where
  status := row.status
  failureCode := row.failureCode
  receivedAt := row.receivedAt
  failedAt := row.failedAt
  storageVersionId := row.storageVersionId

/-! ## Triggers -/

/-- An exception a trigger or a constraint raises. -/
structure Refusal where
  message : String
  constraint : String
  deriving DecidableEq, Repr

section Triggers
variable (old new : ImportRow)

def kmsBackfill : Truth :=
  conj (conj (equals old.status new.status) (isNull old.storageKmsKeyArn)) (isNotNull new.storageKmsKeyArn)

def statusTransition : Truth :=
  disj (disj (conj (equals old.status (some "receiving")) (isIn new.status ["received", "failed"]))
    (conj (equals old.status (some "received")) (equals new.status (some "failed")))) (kmsBackfill old new)

def lineageChanged : Truth :=
  disj (distinct new.lineage old.lineage)
    (conj (neg (kmsBackfill old new)) (distinct new.storageKmsKeyArn old.storageKmsKeyArn))

def evidenceChanged : Truth :=
  disj (distinct new.receivedAt old.receivedAt) (distinct new.storageVersionId old.storageVersionId)

def evidenceRewritten (status : String) : Truth :=
  conj (conj (equals old.status (some status)) (equals new.status (some "failed"))) (evidenceChanged old new)

/-- `sales_imports_protect_audit_row` of an update, in migration 0007. -/
def protectAuditRow : Except Refusal Unit :=
  if neg (statusTransition old new) = some true then
    .error ⟨"The sales import status transition is not allowed.", "sales_import_status_transition_valid"⟩
  else if lineageChanged old new = some true then
    .error ⟨"Sales import lineage fields are immutable.", "sales_import_lineage_immutable"⟩
  else if conj (kmsBackfill old new) (distinct new.statusEvidence old.statusEvidence) = some true then
    .error ⟨"KMS backfill cannot rewrite import status evidence.", "sales_import_kms_backfill_only"⟩
  else if evidenceRewritten old new "receiving" = some true then
    .error ⟨"A receiving import cannot fabricate received evidence.", "sales_import_received_evidence_valid"⟩
  else if evidenceRewritten old new "received" = some true then
    .error ⟨"Received storage evidence is immutable.", "sales_import_storage_evidence_immutable"⟩
  else .ok ()

/-- The same trigger on a deletion. -/
def protectDeletedRow : Except Refusal Unit :=
  .error ⟨"Sales import audit records cannot be deleted.", "sales_import_audit_immutable"⟩

/-- `sales_imports_protect_storage_evidence` of migration 0006. -/
def protectStorageEvidence : Except Refusal Unit :=
  if evidenceRewritten old new "received" = some true then
    .error ⟨"Received storage evidence is immutable.", "sales_import_storage_evidence_immutable"⟩
  else .ok ()

end Triggers

/-! ## Constraints -/

/-- `^[0-9a-f]{64}$`. -/
def sha256Format (s : String) : Bool :=
  s.length = 64 && s.toList.all (fun c => decide ('0' ≤ c) && decide (c ≤ '9') || decide ('a' ≤ c) && decide (c ≤ 'f'))

def isSourceEdge (c : Char) : Bool :=
  decide ('A' ≤ c) && decide (c ≤ 'Z') || decide ('0' ≤ c) && decide (c ≤ '9')

/-- `^[A-Z0-9]([A-Z0-9 ._:\/\-]*[A-Z0-9])?$`. -/
def sourceFormat (s : String) : Bool :=
  s.toList.head?.any isSourceEdge && s.toList.getLast?.any isSourceEdge &&
    s.toList.all (fun c => isSourceEdge c || c ∈ [' ', '.', '_', ':', '/', '-'])

/-- `^arn:[^:]+:kms:[^:]+:[0-9]{12}:key/.+$`. -/
def kmsKeyFormat (s : String) : Bool :=
  match s.toList.splitOn ':' with
  | arn :: part :: kms :: region :: account :: resource =>
      arn = "arn".toList && part ≠ [] && kms = "kms".toList && region ≠ [] &&
        (account.length = 12 && account.all (fun c => decide ('0' ≤ c) && decide (c ≤ '9'))) &&
        ("key/".toList.isPrefixOf (List.intercalate [':'] resource) &&
          4 < (List.intercalate [':'] resource).length)
  | _ => false

section Checks
variable (pg : PostgresText) (row : ImportRow)

/-- `sales_import_status_metadata_consistent`. -/
def statusMetadataConsistent : Truth :=
  disj
    (disj
      (conj (conj (conj (conj (equals row.status (some "receiving")) (isNull row.receivedAt)) (isNull row.failedAt))
        (equals row.storageVersionId (some ""))) (equals row.failureCode (some "")))
      (conj (conj (conj (conj (equals row.status (some "received")) (isNotNull row.receivedAt)) (isNull row.failedAt))
        (equals row.failureCode (some ""))) (neg (equals row.storageVersionId (some "")))))
    (conj
      (conj (conj (equals row.status (some "failed")) (isNotNull row.failedAt))
        (neg (equals row.failureCode (some ""))))
      (disj (conj (isNull row.receivedAt) (equals row.storageVersionId (some "")))
        (conj (conj (isNotNull row.receivedAt) (isIn row.failureCode ["object_missing", "verification_failed"]))
          (neg (equals row.storageVersionId (some ""))))))

/-- The `CHECK`s of the table, by name. -/
def checks : List (String × Truth) := [
  ("sales_import_contract_valid", equals row.dataContract (some "sales_v1")),
  ("sales_import_row_contract_valid", equals row.rowContract (some "sales_rows_v1")),
  ("sales_import_size_positive", holds (fun size => decide (0 < size)) row.sizeBytes),
  ("sales_import_sha256_valid", holds sha256Format row.sha256),
  ("sales_import_source_uppercase", equals row.sourceSystem (row.sourceSystem.map pg.upperText)),
  ("sales_import_source_trimmed", equals row.sourceSystem (row.sourceSystem.map trim)),
  ("sales_import_source_valid", holds sourceFormat row.sourceSystem),
  ("sales_import_filename_valid", conj (neg (holds pg.blank row.originalFilename))
    (equals row.originalFilename (row.originalFilename.map trim))),
  ("sales_import_storage_location_set", conj (neg (equals row.storageBucket (some "")))
    (neg (equals row.storageKey (some "")))),
  ("sales_import_kms_key_valid", disj (isNull row.storageKmsKeyArn)
    (conj (equals row.storageKmsKeyArn (row.storageKmsKeyArn.map trim)) (holds kmsKeyFormat row.storageKmsKeyArn))),
  ("sales_import_format_valid", isIn row.fileFormat ["csv", "xlsx"]),
  ("sales_import_failure_code_valid", isIn row.failureCode
    ["", "storage_error", "object_missing", "verification_failed"]),
  ("sales_import_status_metadata_consistent", statusMetadataConsistent row)]

/-- `sales_import_kms_required_new`, which was added `NOT VALID`: rows that stood before are
only tested when they are updated. -/
def kmsRequired : String × Truth := ("sales_import_kms_required_new", isNotNull row.storageKmsKeyArn)

/-- The columns that are `NOT NULL` hold values. -/
def NotNull : Prop :=
  row.id.isSome ∧ row.dataContract.isSome ∧ row.rowContract.isSome ∧ row.sourceSystem.isSome ∧
    row.originalFilename.isSome ∧ row.contentType.isSome ∧ row.fileFormat.isSome ∧ row.sizeBytes.isSome ∧
    row.sha256.isSome ∧ row.storageBucket.isSome ∧ row.storageKey.isSome ∧ row.storageVersionId.isSome ∧
    row.uploadedById.isSome ∧ row.status.isSome ∧ row.failureCode.isSome ∧ row.createdAt.isSome ∧
    row.updatedAt.isSome

instance : Decidable (NotNull row) := inferInstanceAs (Decidable (_ ∧ _))

/-- A `CHECK` refuses only what is false. -/
def failedCheck (constraints : List (String × Truth)) : Option String :=
  (constraints.find? (fun check => check.2 = some false)).map Prod.fst

/-- The row as the table accepts it. -/
def Accepted : Prop := NotNull row ∧ failedCheck (checks pg row) = none

end Checks

/-! ## Statements -/

/-- A statement as it reaches the row. `elsewhere` is what else the table asks of an update:
column types and limits, unique and foreign keys, the statement's other rows. -/
inductive Statement where
  | delete
  | update (new : ImportRow) (elsewhere : Bool)
  deriving DecidableEq, Repr

section Statements
variable (pg : PostgresText)

/-- Triggers first, in the order of their names, then the constraints. -/
def execute (old : ImportRow) : Statement → Except Refusal (Option ImportRow)
  | .delete =>
      match protectDeletedRow with
      | .error refusal => .error refusal
      | .ok () => .ok none
  | .update new elsewhere =>
      match protectAuditRow old new with
      | .error refusal => .error refusal
      | .ok () =>
          match protectStorageEvidence old new with
          | .error refusal => .error refusal
          | .ok () =>
              if ¬NotNull new then .error ⟨"A column violates its not-null constraint.", ""⟩
              else
                match failedCheck (kmsRequired new :: checks pg new) with
                | some constraint => .error ⟨"The row violates a check constraint.", constraint⟩
                | none => if elsewhere then .ok (some new) else .error ⟨"The statement fails elsewhere.", ""⟩

/-- A refused statement changes nothing; a row that is gone stays so. -/
def step (row : Option ImportRow) (statement : Statement) : Option ImportRow :=
  row.bind (fun old =>
    match execute pg old statement with
    | .error _ => some old
    | .ok after => after)

end Statements

/-! ## One statement -/

/-- What the checks say of a row, by its status. -/
inductive Stage (row : ImportRow) : Prop where
  | receiving (status : row.status = some "receiving") (receivedAt : row.receivedAt = none)
      (version : row.storageVersionId = some "")
  | received (status : row.status = some "received") (receivedAt : row.receivedAt ≠ none)
      (version : row.storageVersionId ≠ some "")
  | abandoned (status : row.status = some "failed") (receivedAt : row.receivedAt = none)
      (version : row.storageVersionId = some "")
  | unusable (status : row.status = some "failed") (receivedAt : row.receivedAt ≠ none)
      (version : row.storageVersionId ≠ some "")
      (code : row.failureCode = some "object_missing" ∨ row.failureCode = some "verification_failed")

theorem failedCheck_none {constraints : List (String × Truth)} :
    failedCheck constraints = none ↔ ∀ check ∈ constraints, check.2 ≠ some false := by
  rw [failedCheck, Option.map_eq_none_iff, List.find?_eq_none]
  simp

theorem NotNull.known {row : ImportRow} (notNull : NotNull row) :
    row.storageVersionId ≠ none ∧ row.status ≠ none ∧ row.failureCode ≠ none := by
  obtain ⟨_, _, _, _, _, _, _, _, _, _, _, version, _, status, code, _, _⟩ := notNull
  exact ⟨Option.isSome_iff_ne_none.mp version, Option.isSome_iff_ne_none.mp status,
    Option.isSome_iff_ne_none.mp code⟩

/-- Over columns that are not null the metadata check is true or false. -/
theorem statusMetadataConsistent_known {row : ImportRow} (notNull : NotNull row) :
    statusMetadataConsistent row ≠ none := by
  obtain ⟨version, status, code⟩ := notNull.known
  unfold statusMetadataConsistent
  repeat' first
    | apply disj_known
    | apply conj_known
    | apply neg_known
    | apply equals_known
    | apply isIn_known
    | apply isNull_known
    | apply isNotNull_known
  all_goals first
    | assumption
    | exact Option.some_ne_none _

theorem stage_of_accepted {pg : PostgresText} {row : ImportRow} (accepted : Accepted pg row) : Stage row := by
  obtain ⟨notNull, passed⟩ := accepted
  have listed : ("sales_import_status_metadata_consistent", statusMetadataConsistent row) ∈ checks pg row := by
    simp [checks]
  have passes := passed_true (statusMetadataConsistent_known notNull) (failedCheck_none.mp passed _ listed)
  simp only [statusMetadataConsistent, disj_true, conj_true, neg_true, equals_true, isNull_true, isNotNull_true,
    isIn_true] at passes
  have differs : equals row.storageVersionId (some "") = some false → row.storageVersionId ≠ some "" := by
    intro apart same
    rw [same] at apart
    simp at apart
  rcases passes with (⟨⟨⟨⟨status, unreceived⟩, _⟩, version⟩, _⟩ | ⟨⟨⟨⟨status, received⟩, _⟩, _⟩, version⟩) |
    ⟨⟨⟨status, _⟩, _⟩, ⟨unreceived, version⟩ | ⟨⟨received, code, known, same⟩, version⟩⟩
  · exact .receiving status unreceived version
  · exact .received status received (differs version)
  · exact .abandoned status unreceived version
  · refine .unusable status received (differs version) ?_
    simpa [same] using known

/-- What an admitted update does. -/
inductive Change (old new : ImportRow) : Prop where
  | backfilled (missing : old.storageKmsKeyArn = none) (given : new.storageKmsKeyArn ≠ none)
      (evidence : new.statusEvidence = old.statusEvidence)
  | received (before : old.status = some "receiving") (after : new.status = some "received")
      (kms : new.storageKmsKeyArn = old.storageKmsKeyArn)
  | failed (before : old.status = some "receiving" ∨ old.status = some "received")
      (after : new.status = some "failed") (kms : new.storageKmsKeyArn = old.storageKmsKeyArn)
      (receivedAt : new.receivedAt = old.receivedAt) (version : new.storageVersionId = old.storageVersionId)

theorem kmsBackfill_true (old new : ImportRow) : kmsBackfill old new = some true ↔
    equals old.status new.status = some true ∧ old.storageKmsKeyArn = none ∧ new.storageKmsKeyArn ≠ none := by
  simp [kmsBackfill, and_assoc]

/-- The audit trigger admits nothing else, once the new status is known not to be null. -/
theorem protectAuditRow_ok {old new : ImportRow} (oldStatus : old.status ≠ none) (newStatus : new.status ≠ none)
    (admitted : protectAuditRow old new = .ok ()) : new.lineage = old.lineage ∧ Change old new := by
  have known : kmsBackfill old new ≠ none :=
    conj_known (conj_known (equals_known oldStatus newStatus) (isNull_known _)) (isNotNull_known _)
  unfold protectAuditRow at admitted
  split_ifs at admitted with transition lineage backfill receiving received
  simp only [neg_true, lineageChanged, evidenceRewritten, evidenceChanged, disj_true, conj_true, distinct_true,
    not_or, not_not, not_and] at transition lineage backfill receiving received
  obtain ⟨same, kms⟩ := lineage
  refine ⟨same, ?_⟩
  by_cases backfilled : kmsBackfill old new = some true
  · obtain ⟨_, missing, given⟩ := (kmsBackfill_true old new).mp backfilled
    exact .backfilled missing given (backfill backfilled)
  · have kms := kms (not_not.mp (fun other => backfilled (passed_true known other)))
    have moved : statusTransition old new = some true := by
      refine passed_true (disj_known (disj_known (conj_known (equals_known oldStatus (Option.some_ne_none _))
        (isIn_known newStatus _)) (conj_known (equals_known oldStatus (Option.some_ne_none _))
          (equals_known newStatus (Option.some_ne_none _)))) known) transition
    simp only [statusTransition, disj_true, conj_true, equals_true, isIn_true] at moved
    rcases moved with (⟨before, status, member, after⟩ | ⟨before, after⟩) | again
    · rcases List.mem_cons.mp member with rfl | member
      · exact .received before after kms
      · obtain rfl := List.mem_singleton.mp member
        have kept := receiving ⟨(equals_true _ _).mpr before, (equals_true _ _).mpr after⟩
        exact .failed (Or.inl before) after kms kept.1 kept.2
    · have kept := received ⟨(equals_true _ _).mpr before, (equals_true _ _).mpr after⟩
      exact .failed (Or.inr before) after kms kept.1 kept.2
    · exact absurd again backfilled

section Steps
variable {pg : PostgresText}

/-- Everything a statement can do to a row that the table has accepted. -/
theorem step_cases {old : ImportRow} (accepted : Accepted pg old) (statement : Statement) :
    step pg (some old) statement = some old ∨
      ∃ new, step pg (some old) statement = some new ∧ Accepted pg new ∧ new.storageKmsKeyArn ≠ none ∧
        new.lineage = old.lineage ∧ Change old new := by
  cases statement with
  | delete => exact Or.inl rfl
  | update new elsewhere =>
    simp only [step, Option.bind_some, execute]
    cases audit : protectAuditRow old new with
    | error refusal => exact Or.inl rfl
    | ok passed =>
      cases evidence : protectStorageEvidence old new with
      | error refusal => exact Or.inl rfl
      | ok passed =>
        by_cases notNull : NotNull new
        · cases failed : failedCheck (kmsRequired new :: checks pg new) with
          | some constraint =>
            left
            simp [notNull]
          | none =>
            cases elsewhere with
            | false =>
              left
              simp [notNull]
            | true =>
              right
              have passes := failedCheck_none.mp failed
              have given : new.storageKmsKeyArn ≠ none := by
                simpa [kmsRequired] using passes (kmsRequired new) List.mem_cons_self
              have listed : failedCheck (checks pg new) = none :=
                failedCheck_none.mpr (fun check member => passes check (List.mem_cons_of_mem _ member))
              obtain ⟨lineage, change⟩ := protectAuditRow_ok accepted.1.known.2.1 notNull.known.2.1 audit
              exact ⟨new, by simp [notNull], ⟨notNull, listed⟩, given, lineage, change⟩
        · left
          simp [notNull]

/-! ## Runs of statements -/

/-- What a row keeps of an earlier one. -/
structure Kept (old row : ImportRow) : Prop where
  lineage : row.lineage = old.lineage
  kms : old.storageKmsKeyArn ≠ none → row.storageKmsKeyArn = old.storageKmsKeyArn
  evidence : old.receivedAt ≠ none →
    row.receivedAt = old.receivedAt ∧ row.storageVersionId = old.storageVersionId

theorem Kept.trans {first second third : ImportRow} (earlier : Kept first second) (later : Kept second third) :
    Kept first third where
  lineage := later.lineage.trans earlier.lineage
  kms := fun given => by
    have same := earlier.kms given
    exact (later.kms (same ▸ given)).trans same
  evidence := fun received => by
    obtain ⟨receivedAt, version⟩ := earlier.evidence received
    obtain ⟨laterReceivedAt, laterVersion⟩ := later.evidence (receivedAt ▸ received)
    exact ⟨laterReceivedAt.trans receivedAt, laterVersion.trans version⟩

theorem Stage.receiving_unreceived {row : ImportRow} (stage : Stage row) (status : row.status = some "receiving") :
    row.receivedAt = none ∧ row.storageVersionId = some "" := by
  cases stage with
  | receiving _ receivedAt version => exact ⟨receivedAt, version⟩
  | received other | abandoned other | unusable other =>
    rw [status] at other
    simp at other

theorem Stage.received_evidence {row : ImportRow} (stage : Stage row) (status : row.status = some "received") :
    row.receivedAt ≠ none ∧ row.storageVersionId ≠ some "" := by
  cases stage with
  | received _ receivedAt version => exact ⟨receivedAt, version⟩
  | receiving other | abandoned other | unusable other =>
    rw [status] at other
    simp at other

/-- The version is recorded exactly when the time is. -/
theorem Stage.evidence_iff {row : ImportRow} (stage : Stage row) :
    row.receivedAt ≠ none ↔ row.storageVersionId ≠ some "" := by
  cases stage with
  | receiving _ receivedAt version | abandoned _ receivedAt version =>
    exact iff_of_false (not_not.mpr receivedAt) (not_not.mpr version)
  | received _ receivedAt version | unusable _ receivedAt version => exact iff_of_true receivedAt version

theorem Change.kept {old new : ImportRow} (stage : Stage old) (lineage : new.lineage = old.lineage)
    (change : Change old new) : Kept old new := by
  cases change with
  | backfilled missing given evidence =>
    exact ⟨lineage, fun known => absurd missing known, fun _ =>
      ⟨congrArg StatusEvidence.receivedAt evidence, congrArg StatusEvidence.storageVersionId evidence⟩⟩
  | received before after kms =>
    exact ⟨lineage, fun _ => kms, fun received => absurd (stage.receiving_unreceived before).1 received⟩
  | failed before after kms receivedAt version => exact ⟨lineage, fun _ => kms, fun _ => ⟨receivedAt, version⟩⟩

theorem step_kept {old : ImportRow} (accepted : Accepted pg old) (statement : Statement) :
    ∃ new, step pg (some old) statement = some new ∧ Accepted pg new ∧ Kept old new := by
  rcases step_cases accepted statement with same | ⟨new, stepped, after, _, lineage, change⟩
  · exact ⟨old, same, accepted, rfl, fun _ => rfl, fun _ => ⟨rfl, rfl⟩⟩
  · exact ⟨new, stepped, after, change.kept (stage_of_accepted accepted) lineage⟩

/-- The row is there after every run, and keeps what it had. -/
theorem run_kept {start : ImportRow} (accepted : Accepted pg start) (statements : List Statement) :
    ∃ row, run (step pg) (some start) statements = some row ∧ Accepted pg row ∧ Kept start row := by
  refine run_invariant (step pg) (fun _ => True)
    (fun state => ∃ row, state = some row ∧ Accepted pg row ∧ Kept start row) ?_ (some start)
    ⟨start, rfl, accepted, rfl, fun _ => rfl, fun _ => ⟨rfl, rfl⟩⟩ statements (fun _ _ => trivial)
  rintro state statement _ ⟨row, rfl, known, kept⟩
  obtain ⟨new, stepped, after, later⟩ := step_kept known statement
  exact ⟨new, stepped, after, kept.trans later⟩

/-- The row was received after some of the statements. -/
def ReceivedWithin (pg : PostgresText) (start : ImportRow) (statements : List Statement) : Prop :=
  ∃ before after earlier, statements = before ++ after ∧ run (step pg) (some start) before = some earlier ∧
    earlier.status = some "received"

theorem ReceivedWithin.append {start : ImportRow} {statements : List Statement}
    (received : ReceivedWithin pg start statements) (later : List Statement) :
    ReceivedWithin pg start (statements ++ later) := by
  obtain ⟨before, after, earlier, rfl, reached, status⟩ := received
  exact ⟨before, after ++ later, earlier, List.append_assoc .., reached, status⟩

/-- Evidence comes from a state in which the row was received. -/
theorem run_received {start : ImportRow} (accepted : Accepted pg start) (inserted : start.status = some "receiving")
    (statements : List Statement) :
    ∀ row, run (step pg) (some start) statements = some row → row.receivedAt ≠ none →
      ReceivedWithin pg start statements := by
  refine run_history (step pg) (some start) (fun past state => ∀ row, state = some row → row.receivedAt ≠ none →
    ReceivedWithin pg start past) ?_ ?_ statements
  · rintro row same received
    obtain rfl := Option.some.inj same
    exact absurd ((stage_of_accepted accepted).receiving_unreceived inserted).1 received
  · intro past statement earlier row stepped received
    obtain ⟨old, reached, known, _⟩ := run_kept accepted past
    rw [reached] at stepped earlier
    rcases step_cases known statement with same | ⟨new, moved, _, _, _, change⟩
    · obtain rfl := Option.some.inj (same.symm.trans stepped)
      exact (earlier old rfl received).append [statement]
    · obtain rfl := Option.some.inj (moved.symm.trans stepped)
      cases change with
      | backfilled missing given evidence =>
        have same : new.receivedAt = old.receivedAt := congrArg StatusEvidence.receivedAt evidence
        exact (earlier old rfl (same ▸ received)).append [statement]
      | received before after kms =>
        refine ⟨past ++ [statement], [], new, by simp, ?_, after⟩
        rw [run_append, reached]
        exact moved
      | failed before after kms receivedAt version =>
        exact (earlier old rfl (receivedAt ▸ received)).append [statement]

/-- What a statement that turned `old` into `new` has done, seen from a later `row`. -/
structure WrittenOnce (old new row : ImportRow) : Prop where
  status : new.status = old.status ∨
    old.status = some "receiving" ∧ (new.status = some "received" ∨ new.status = some "failed") ∨
    old.status = some "received" ∧ new.status = some "failed"
  kms : new.storageKmsKeyArn ≠ old.storageKmsKeyArn →
    old.storageKmsKeyArn = none ∧ new.storageKmsKeyArn ≠ none ∧ new.statusEvidence = old.statusEvidence ∧
      row.storageKmsKeyArn = new.storageKmsKeyArn
  evidence : new.receivedAt ≠ old.receivedAt ∨ new.storageVersionId ≠ old.storageVersionId ↔
    old.status = some "receiving" ∧ new.status = some "received"
  written : old.status = some "receiving" → new.status = some "received" →
    old.receivedAt = none ∧ old.storageVersionId = some "" ∧ new.receivedAt ≠ none ∧
      new.storageVersionId ≠ some "" ∧ row.receivedAt = new.receivedAt ∧
      row.storageVersionId = new.storageVersionId

/-- A statement that leaves the status and the evidence. -/
theorem evidence_iff_of_same {old new : ImportRow} (receivedAt : new.receivedAt = old.receivedAt)
    (version : new.storageVersionId = old.storageVersionId)
    (other : ¬(old.status = some "receiving" ∧ new.status = some "received")) :
    new.receivedAt ≠ old.receivedAt ∨ new.storageVersionId ≠ old.storageVersionId ↔
      old.status = some "receiving" ∧ new.status = some "received" :=
  iff_of_false (by simp [receivedAt, version]) other

theorem receiving_not_received {status : Option String} (receiving : status = some "receiving") :
    status ≠ some "received" := by
  rw [receiving]
  simp

theorem writtenOnce_same {old row : ImportRow} : WrittenOnce old old row where
  status := Or.inl rfl
  kms := fun changed => absurd rfl changed
  evidence := evidence_iff_of_same rfl rfl (fun both => receiving_not_received both.1 both.2)
  written := fun receiving received => absurd received (receiving_not_received receiving)

theorem Change.writtenOnce {old new row : ImportRow} (before : Stage old) (after : Stage new)
    (change : Change old new) (kept : Kept new row) : WrittenOnce old new row := by
  cases change with
  | backfilled missing given evidence =>
    have status : new.status = old.status := congrArg StatusEvidence.status evidence
    have other : ¬(old.status = some "receiving" ∧ new.status = some "received") :=
      fun both => receiving_not_received both.1 (status ▸ both.2)
    exact ⟨Or.inl status, fun _ => ⟨missing, given, evidence, kept.kms given⟩,
      evidence_iff_of_same (congrArg StatusEvidence.receivedAt evidence)
        (congrArg StatusEvidence.storageVersionId evidence) other,
      fun receiving received => absurd ⟨receiving, received⟩ other⟩
  | received receiving received kms =>
    obtain ⟨unreceived, unversioned⟩ := before.receiving_unreceived receiving
    obtain ⟨receivedAt, version⟩ := after.received_evidence received
    refine ⟨Or.inr (Or.inl ⟨receiving, Or.inl received⟩), fun changed => absurd kms changed, ?_, fun _ _ => ?_⟩
    · exact iff_of_true (Or.inl (unreceived ▸ receivedAt)) ⟨receiving, received⟩
    · exact ⟨unreceived, unversioned, receivedAt, version, kept.evidence receivedAt⟩
  | failed origin failed kms receivedAt version =>
    have other : ¬(old.status = some "receiving" ∧ new.status = some "received") := by
      rintro ⟨_, received⟩
      rw [failed] at received
      simp at received
    refine ⟨Or.inr ?_, fun changed => absurd kms changed, evidence_iff_of_same receivedAt version other,
      fun receiving received => absurd ⟨receiving, received⟩ other⟩
    exact origin.imp (fun receiving => ⟨receiving, Or.inr failed⟩) (fun received => ⟨received, failed⟩)

variable (pg)

/-- A row that was inserted as receiving is never deleted and never loses its evidence,
whatever statements are made: each column is written at most once, in the way the
application writes it. -/
theorem evidence_writeOnce (start : ImportRow) (inserted : start.status = some "receiving")
    (accepted : Accepted pg start) (statements : List Statement) :
    ∃ row, run (step pg) (some start) statements = some row ∧ row.lineage = start.lineage ∧
      (∀ before statement after, statements = before ++ statement :: after →
        ∃ old new, run (step pg) (some start) before = some old ∧
          run (step pg) (some start) (before ++ [statement]) = some new ∧ WrittenOnce old new row) ∧
      (row.status = some "failed" →
        (row.receivedAt ≠ none ↔ ReceivedWithin pg start statements) ∧
        (row.storageVersionId ≠ some "" ↔ ReceivedWithin pg start statements)) ∧
      ∀ before after earlier, statements = before ++ after → run (step pg) (some start) before = some earlier →
        earlier.status = some "received" →
          row.receivedAt = earlier.receivedAt ∧ row.storageVersionId = earlier.storageVersionId ∧
            (row.status = some "failed" →
              row.failureCode = some "object_missing" ∨ row.failureCode = some "verification_failed") := by
  obtain ⟨row, reached, known, kept⟩ := run_kept accepted statements
  have stage := stage_of_accepted known
  have lasting : ∀ before after earlier, statements = before ++ after →
      run (step pg) (some start) before = some earlier → Accepted pg earlier ∧ Kept earlier row := by
    intro before after earlier whole arrived
    obtain ⟨other, same, earlierKnown, _⟩ := run_kept accepted before
    obtain rfl := Option.some.inj (same.symm.trans arrived)
    obtain ⟨final, ended, _, later⟩ := run_kept earlierKnown after
    rw [whole, run_append, arrived, ended] at reached
    obtain rfl := Option.some.inj reached
    exact ⟨earlierKnown, later⟩
  have evidence : ∀ before after earlier, statements = before ++ after →
      run (step pg) (some start) before = some earlier → earlier.status = some "received" →
        row.receivedAt ≠ none ∧ row.receivedAt = earlier.receivedAt ∧
          row.storageVersionId = earlier.storageVersionId := by
    intro before after earlier whole arrived status
    obtain ⟨earlierKnown, later⟩ := lasting before after earlier whole arrived
    have received := ((stage_of_accepted earlierKnown).received_evidence status).1
    obtain ⟨receivedAt, version⟩ := later.evidence received
    exact ⟨receivedAt ▸ received, receivedAt, version⟩
  refine ⟨row, reached, kept.lineage, ?_, ?_, ?_⟩
  · intro before statement after whole
    obtain ⟨old, arrived, oldKnown, _⟩ := run_kept accepted before
    obtain ⟨new, stepped, newKnown, _⟩ := step_kept oldKnown statement
    have next : run (step pg) (some start) (before ++ [statement]) = some new := by
      rw [run_append, arrived]
      exact stepped
    have later := (lasting (before ++ [statement]) after new (by simpa using whole) next).2
    refine ⟨old, new, arrived, next, ?_⟩
    rcases step_cases oldKnown statement with same | ⟨other, moved, _, _, _, change⟩
    · obtain rfl := Option.some.inj (same.symm.trans stepped)
      exact writtenOnce_same
    · obtain rfl := Option.some.inj (moved.symm.trans stepped)
      exact change.writtenOnce (stage_of_accepted oldKnown) (stage_of_accepted newKnown) later
  · intro _
    have recorded : row.receivedAt ≠ none ↔ ReceivedWithin pg start statements := by
      constructor
      · exact run_received accepted inserted statements row reached
      · rintro ⟨before, after, earlier, whole, arrived, status⟩
        exact (evidence before after earlier whole arrived status).1
    exact ⟨recorded, stage.evidence_iff.symm.trans recorded⟩
  · intro before after earlier whole arrived status
    obtain ⟨received, receivedAt, version⟩ := evidence before after earlier whole arrived status
    refine ⟨receivedAt, version, fun failed => ?_⟩
    cases stage with
    | unusable _ _ _ code => exact code
    | abandoned _ unreceived _ => exact absurd unreceived received
    | receiving other | received other =>
      rw [failed] at other
      simp at other

end Steps

namespace Sample

def server : PostgresText := ⟨Char.toUpper, fun c => c = ' '⟩

/-- Inserted before keys were recorded. -/
def legacyRow : ImportRow where
  id := some 3
  dataContract := some "sales_v1"
  rowContract := some "sales_rows_v1"
  sourceSystem := some "ERP"
  originalFilename := some "sales.csv"
  contentType := some "text/csv"
  fileFormat := some "csv"
  sizeBytes := some 200
  sha256 := some "ba7816bf8f01cfea414140de5dae2223b00361a396177a9cb410ff61f20015ad"
  storageBucket := some "bucket"
  storageKmsKeyArn := none
  storageKey := some "sales-imports/original/2026/01/3.csv"
  storageVersionId := some ""
  uploadedById := some 1
  status := some "receiving"
  failureCode := some ""
  receivedAt := none
  failedAt := none
  createdAt := some 0
  updatedAt := some 0

def keyedRow : ImportRow :=
  { legacyRow with storageKmsKeyArn := some "arn:aws:kms:eu-west-1:123456789012:key/one", updatedAt := some 1 }

def receivedRow : ImportRow :=
  { keyedRow with status := some "received", receivedAt := some 2, storageVersionId := some "v1", updatedAt := some 2 }

/-- The key is filled in and the file received; then an attacker clears the version, sets
the status to NULL and deletes the row. -/
def statements : List Statement := [.update receivedRow true, .update keyedRow true, .update receivedRow true,
  .update { receivedRow with storageVersionId := some "" } true, .update { receivedRow with status := none } true,
  .delete]

end Sample

example : run (step Sample.server) (some Sample.legacyRow) Sample.statements = some Sample.receivedRow := by
  decide +kernel

theorem evidence_writeOnce_sample :
    ∃ row, run (step Sample.server) (some Sample.legacyRow) Sample.statements = some row ∧
      row.lineage = Sample.legacyRow.lineage := by
  obtain ⟨row, reached, lineage, _⟩ := evidence_writeOnce Sample.server Sample.legacyRow rfl
    ⟨by decide, by decide +kernel⟩ Sample.statements
  exact ⟨row, reached, lineage⟩

end PharmaIntel.AuditGuards
