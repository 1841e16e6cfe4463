import Mathlib
import PharmaIntel.Base.Guarded
import PharmaIntel.StagedRowAudit

/-! The recorded evidence under any SQL. The triggers of migration 0008 guard jobs, attempts, staged
rows and issues, that of migration 0007 the intakes and that of `business_data` the facts. -/

namespace PharmaIntel.AuditEvidence
open PharmaIntel.Base PharmaIntel.Base.Ternary PharmaIntel.Models PharmaIntel.Validation PharmaIntel.AuditGuards
  PharmaIntel.StagedRowAudit

/-! ## Tables -/

/-- A row of `sales_imports_salesimportjob`: the columns its trigger compares. The others are free. -/
structure JobRow where
  salesImportId : Uuid
  createdAt : Instant
  deriving DecidableEq

/-- The columns of the row comparison of an attempt. -/
structure AttemptIdentity where
  id : Uuid
  jobId : Uuid
  attemptNumber : Nat
  leaseToken : Uuid
  workerId : String
  startedAt : Instant
  deriving DecidableEq

/-- A row of `sales_imports_salesimportattempt`. -/
structure AttemptRecord where
  identity : AttemptIdentity
  phase : SalesImportAttempt.Phase
  outcome : SalesImportAttempt.Outcome
  heartbeatAt : Instant
  finishedAt : Option Instant
  counts : SalesImportJobCounts
  errorCode : String
  errorMessage : String
  deriving DecidableEq

def AttemptRecord.id (record : AttemptRecord) : Uuid := record.identity.id

/-- A row of `sales_imports_salesimportissue`. -/
structure IssueRecord where
  id : Nat
  attemptId : Uuid
  issue : SalesImportIssue
  createdAt : Instant
  deriving DecidableEq

structure AuditDatabase where
  intakes : KeyedTable ImportRow.id
  jobs : KeyedTable JobRow.salesImportId
  attempts : KeyedTable AttemptRecord.id
  staged : KeyedTable StagedRecord.id
  issues : KeyedTable IssueRecord.id
  facts : KeyedTable SalesTransaction.id

def AuditDatabase.empty : AuditDatabase := ⟨.empty, .empty, .empty, .empty, .empty, .empty⟩

def attemptRow (record : AttemptRecord) : AttemptRow := ⟨record.id, record.identity.jobId, record.outcome⟩

def intakeRow (row : ImportRow) : Option IntakeRow :=
  row.id.bind (fun id => row.sourceSystem.map (fun sourceSystem => ⟨id, sourceSystem⟩))

/-- What the staged-row trigger reads. -/
def AuditDatabase.auditTables (database : AuditDatabase) : AuditTables where
  attempts := database.attempts.rows.map attemptRow
  jobs := database.jobs.rows.map JobRow.salesImportId
  intakes := database.intakes.rows.filterMap intakeRow
  attempts_unique := by
    rw [List.map_map]
    exact database.attempts.unique

/-! ## Triggers -/

/-- `sales_imports_protect_job_audit`. -/
def protectJobAudit (old : JobRow) : Option JobRow → Except Refusal Unit
  | none => .error ⟨"Sales-import jobs cannot be deleted.", "sales_job_audit_delete_denied"⟩
  | some new =>
      if distinct new old = some true then
        .error ⟨"Sales-import job identity is immutable.", "sales_job_identity_immutable"⟩
      else .ok ()

/-- `sales_imports_protect_attempt_audit`. -/
def protectAttemptAudit (old : AttemptRecord) : Option AttemptRecord → Except Refusal Unit
  | none => .error ⟨"Sales-import attempts cannot be deleted.", "sales_attempt_audit_delete_denied"⟩
  | some new =>
      if neg (equals (some old.outcome) (some .running)) = some true then
        .error ⟨"Completed sales-import attempts are immutable.", "sales_attempt_terminal_immutable"⟩
      else if distinct new.identity old.identity = some true then
        .error ⟨"Sales-import attempt identity is immutable.", "sales_attempt_identity_immutable"⟩
      else .ok ()

/-- `sales_imports_protect_issue_audit`. -/
def protectIssueAudit (_old : IssueRecord) : Option IssueRecord → Except Refusal Unit
  | none => .error ⟨"Sales-import issues cannot be deleted.", "sales_issue_audit_delete_denied"⟩
  | some _ => .error ⟨"Sales-import issues are immutable.", "sales_issue_audit_immutable"⟩

/-- `business_data_prevent_sales_mutation`. -/
def preventSalesMutation (_old : SalesTransaction) (_new : Option SalesTransaction) : Except Refusal Unit :=
  .error ⟨"Sales transactions are immutable; create a correction record.", "business_data_sales_immutable"⟩

/-- The guards of the staged-row trigger's table, in the terms of `protectStagedRowAudit`. -/
def protectStaged (database : AuditDatabase) (old : StagedRecord) (new : Option StagedRecord) : Except Refusal Unit :=
  protectStagedRowAudit database.auditTables database.facts.rows old (new.elim .delete .update)

/-- The triggers of the intakes, as `AuditGuards.execute` runs them before the checks. -/
def protectIntake (old : ImportRow) : Option ImportRow → Except Refusal Unit
  | none => protectDeletedRow
  | some new =>
      match protectAuditRow old new with
      | .error refusal => .error refusal
      | .ok () => protectStorageEvidence old new

/-! ## Statements -/

/-- A statement as it reaches one row of one of the tables; any value may stand in any column. -/
inductive Statement where
  | intake (write : Write ImportRow (Option Uuid))
  | job (write : Write JobRow Uuid)
  | attempt (write : Write AttemptRecord Uuid)
  | staged (write : Write StagedRecord Nat)
  | issue (write : Write IssueRecord Nat)
  | fact (write : Write SalesTransaction Nat)

/-- A constraint of the table, or what else it asks of a row. -/
def elsewhereRefusal : Refusal := ⟨"The statement fails elsewhere.", ""⟩

def execute (database : AuditDatabase) : Statement → Except Refusal AuditDatabase
  | .intake write =>
      (database.intakes.write protectIntake elsewhereRefusal write).map (fun intakes => { database with intakes := intakes })
  | .job write =>
      (database.jobs.write protectJobAudit elsewhereRefusal write).map (fun jobs => { database with jobs := jobs })
  | .attempt write =>
      (database.attempts.write protectAttemptAudit elsewhereRefusal write).map (fun attempts =>
        { database with attempts := attempts })
  | .staged write =>
      (database.staged.write (protectStaged database) elsewhereRefusal write).map (fun staged =>
        { database with staged := staged })
  | .issue write =>
      (database.issues.write protectIssueAudit elsewhereRefusal write).map (fun issues => { database with issues := issues })
  | .fact write =>
      (database.facts.write preventSalesMutation elsewhereRefusal write).map (fun facts => { database with facts := facts })

/-! ## What stands -/

/-- The record is final, or its attempt is. -/
def Settled (database : AuditDatabase) (record : StagedRecord) : Prop :=
  record.row.outcome ≠ .staged ∨
    ∃ attempt ∈ database.attempts.rows, attempt.id = record.attemptId ∧ attempt.outcome ≠ .running

/-- No evidence of an earlier state is lost or rewritten. -/
structure Stands (database later : AuditDatabase) : Prop where
  intakes : ∀ row ∈ database.intakes.rows, ∃ after ∈ later.intakes.rows, after.lineage = row.lineage
  jobs : ∀ row ∈ database.jobs.rows, row ∈ later.jobs.rows
  attempts : ∀ row ∈ database.attempts.rows, ∃ after ∈ later.attempts.rows, after.identity = row.identity ∧
    (row.outcome ≠ .running → after = row)
  staged : ∀ record ∈ database.staged.rows, ∃ after ∈ later.staged.rows, after.sourceValues = record.sourceValues ∧
    (Settled database record → after = record)
  issues : ∀ record ∈ database.issues.rows, record ∈ later.issues.rows
  facts : ∀ fact ∈ database.facts.rows, fact ∈ later.facts.rows

section Steps
variable {database middle later : AuditDatabase}

theorem Stands.refl : Stands database database where
  intakes row member := ⟨row, member, rfl⟩
  jobs _ member := member
  attempts row member := ⟨row, member, rfl, fun _ => rfl⟩
  staged record member := ⟨record, member, rfl, fun _ => rfl⟩
  issues _ member := member
  facts _ member := member

/-- A settled record stays settled. -/
theorem Stands.settled (stands : Stands database middle) {record : StagedRecord} (settled : Settled database record) :
    Settled middle record := by
  refine settled.imp id ?_
  rintro ⟨attempt, member, own, ended⟩
  obtain ⟨after, inside, _, same⟩ := stands.attempts attempt member
  obtain rfl := same ended
  exact ⟨after, inside, own, ended⟩

theorem Stands.trans (first : Stands database middle) (second : Stands middle later) : Stands database later where
  intakes row member := by
    obtain ⟨between, inside, same⟩ := first.intakes row member
    obtain ⟨after, last, again⟩ := second.intakes between inside
    exact ⟨after, last, again.trans same⟩
  jobs row member := second.jobs row (first.jobs row member)
  attempts row member := by
    obtain ⟨between, inside, same, ended⟩ := first.attempts row member
    obtain ⟨after, last, again, still⟩ := second.attempts between inside
    refine ⟨after, last, again.trans same, fun terminal => ?_⟩
    obtain rfl := ended terminal
    exact still terminal
  staged record member := by
    obtain ⟨between, inside, same, ended⟩ := first.staged record member
    obtain ⟨after, last, again, still⟩ := second.staged between inside
    refine ⟨after, last, again.trans same, fun settled => ?_⟩
    obtain rfl := ended settled
    exact still (first.settled settled)
  issues record member := second.issues record (first.issues record member)
  facts fact member := second.facts fact (first.facts fact member)

/-! ## One statement -/

theorem protectAttemptAudit_ok {old new : AttemptRecord} (admitted : protectAttemptAudit old (some new) = .ok ()) :
    old.outcome = .running ∧ new.identity = old.identity := by
  unfold protectAttemptAudit at admitted
  dsimp only at admitted
  split_ifs at admitted with ended changed
  exact ⟨by simpa using ended, by simpa using changed⟩

theorem protectStaged_ok {old new : StagedRecord} (admitted : protectStaged database old (some new) = .ok ()) :
    old.row.outcome = .staged ∧ new.sourceValues = old.sourceValues ∧
      parentOutcome database.auditTables old.attemptId = some .running ∧
      (new.row.outcome ≠ .staged → matchingFactExists database.auditTables database.facts.rows new = true) := by
  change protectStagedRowAudit _ _ old (.update new) = .ok () at admitted
  unfold protectStagedRowAudit at admitted
  dsimp only at admitted
  split_ifs at admitted with ended changed closed unlinked
  refine ⟨by simpa using ended, by simpa using changed, by simpa using closed, fun final => ?_⟩
  by_contra missing
  exact unlinked (by simpa [final] using missing)

theorem protectIntake_ok {old new : ImportRow} (admitted : protectIntake old (some new) = .ok ()) :
    new.lineage = old.lineage := by
  unfold protectIntake protectAuditRow at admitted
  dsimp only at admitted
  split at admitted
  · cases admitted
  · rename_i audit
    split_ifs at audit with transition changed
    simp only [lineageChanged, disj_true, distinct_true, not_or, not_not] at changed
    exact changed.1

/-- A record whose parent runs is settled only by its own outcome. -/
theorem unsettled {record : StagedRecord} (staged : record.row.outcome = .staged)
    (running : parentOutcome database.auditTables record.attemptId = some .running) : ¬Settled database record := by
  rintro (final | ⟨attempt, member, own, ended⟩)
  · exact final staged
  · have listed : attemptRow attempt ∈ database.auditTables.attempts := List.mem_map_of_mem member
    have found := findBy_of_mem database.auditTables.attempts_unique listed
    rw [parentOutcome, ← own] at running
    change findBy AttemptRow.id attempt.id _ = _ at found
    rw [found] at running
    exact ended (Option.some.inj running)

/-- Every admitted statement leaves the evidence standing. -/
theorem execute_stands {statement : Statement} (done : execute database statement = .ok later) :
    Stands database later := by
  cases statement with
  | intake write =>
    obtain ⟨intakes, wrote, rfl⟩ := map_ok done
    have kept := KeyedTable.write_keeps (K := fun old new => new.lineage = old.lineage) (fun _ => rfl)
      (fun _ _ => protectIntake_ok) (fun _ => by simp [protectIntake, protectDeletedRow]) wrote
    exact { Stands.refl with intakes := kept }
  | job write =>
    obtain ⟨jobs, wrote, rfl⟩ := map_ok done
    have kept := KeyedTable.write_keeps (K := fun old new => new = old) (fun _ => rfl)
      (fun _ _ admitted => by simpa [protectJobAudit] using admitted) (fun _ => by simp [protectJobAudit]) wrote
    exact { Stands.refl with jobs := by simpa using kept }
  | attempt write =>
    obtain ⟨attempts, wrote, rfl⟩ := map_ok done
    have updates : ∀ old new, protectAttemptAudit old (some new) = .ok () →
        new.identity = old.identity ∧ (old.outcome ≠ .running → new = old) := by
      intro old new admitted
      obtain ⟨running, same⟩ := protectAttemptAudit_ok admitted
      exact ⟨same, fun ended => absurd running ended⟩
    have kept := KeyedTable.write_keeps (fun _ => ⟨rfl, fun _ => rfl⟩) updates
      (fun _ => by simp [protectAttemptAudit]) wrote
    exact { Stands.refl with attempts := kept }
  | staged write =>
    obtain ⟨staged, wrote, rfl⟩ := map_ok done
    have updates : ∀ old new, protectStaged database old (some new) = .ok () →
        new.sourceValues = old.sourceValues ∧ (Settled database old → new = old) := by
      intro old new admitted
      obtain ⟨open', same, running, _⟩ := protectStaged_ok admitted
      exact ⟨same, fun settled => absurd settled (unsettled open' running)⟩
    have kept := KeyedTable.write_keeps (fun _ => ⟨rfl, fun _ => rfl⟩) updates
      (fun _ => by simp [protectStaged, protectStagedRowAudit]) wrote
    exact { Stands.refl with staged := kept }
  | issue write =>
    obtain ⟨issues, wrote, rfl⟩ := map_ok done
    have kept := KeyedTable.write_keeps (K := fun old new => new = old) (fun _ => rfl)
      (fun _ _ admitted => by simp [protectIssueAudit] at admitted) (fun _ => by simp [protectIssueAudit]) wrote
    exact { Stands.refl with issues := by simpa using kept }
  | fact write =>
    obtain ⟨facts, wrote, rfl⟩ := map_ok done
    have kept := KeyedTable.write_keeps (K := fun old new => new = old) (fun _ => rfl)
      (fun _ _ admitted => by simp [preventSalesMutation] at admitted) (fun _ => by simp [preventSalesMutation]) wrote
    exact { Stands.refl with facts := by simpa using kept }

/-! ## Links -/

/-- The final record has its fact: the values are those of the row, and the source is that of the intake
whose attempt staged it. -/
structure LinkedTo (database : AuditDatabase) (record : StagedRecord) (fact : SalesTransaction) : Prop where
  stored : fact ∈ database.facts.rows
  id : record.row.salesTransactionId = some fact.id
  values : factMatches record.row fact = true
  sourceRecordId : fact.sourceRecordId = record.row.sourceRecordId
  sourceSystem : ∃ attempt ∈ database.attempts.rows, ∃ job ∈ database.jobs.rows, ∃ intake ∈ database.intakes.rows,
    attempt.id = record.attemptId ∧ job.salesImportId = attempt.identity.jobId ∧ intake.id = some job.salesImportId ∧
      intake.sourceSystem = some fact.sourceSystem

/-- Every final record has its fact. -/
def Linked (database : AuditDatabase) : Prop :=
  ∀ record ∈ database.staged.rows, record.row.outcome ≠ .staged → ∃ fact, LinkedTo database record fact

theorem linkedTo_of_exists {record : StagedRecord}
    (found : matchingFactExists database.auditTables database.facts.rows record = true) :
    ∃ fact, LinkedTo database record fact := by
  simp only [matchingFactExists, List.any_eq_true, decide_eq_true_eq, conjAll_true] at found
  obtain ⟨fact, member, attempt, started, job, queued, intake, known, conditions⟩ := found
  simp only [linkConditions, List.forall_mem_cons, some_equals_true, neg_true, distinct_false,
    Option.some.injEq] at conditions
  obtain ⟨own, ofJob, ofIntake, id, date, _, product, territory, hospital, representative, quantity, revenue, currency,
    source, sourceRecordId, _⟩ := conditions
  obtain ⟨record', inside, rfl⟩ := List.mem_map.mp started
  obtain ⟨row, listed, rfl⟩ := List.mem_map.mp queued
  obtain ⟨received, there, shown⟩ := List.mem_filterMap.mp known
  obtain ⟨intakeId, here, given⟩ := Option.bind_eq_some_iff.mp shown
  obtain ⟨sourceSystem, named, rfl⟩ := Option.map_eq_some_iff.mp given
  refine ⟨fact, member, id, ?_, sourceRecordId.symm, record', inside, row, listed, received, there, own.symm, ofJob.symm, ?_, ?_⟩
  · simp [factMatches, date, product, territory, hospital, representative, quantity, revenue, currency]
  · rw [here]
    exact congrArg some ofIntake.symm
  · rw [named]
    exact congrArg some source

/-- A link stays whatever is written later. -/
theorem LinkedTo.stands {record : StagedRecord} {fact : SalesTransaction} (link : LinkedTo database record fact)
    (stands : Stands database later) : LinkedTo later record fact := by
  refine ⟨stands.facts fact link.stored, link.id, link.values, link.sourceRecordId, ?_⟩
  obtain ⟨attempt, started, job, queued, intake, received, own, ofJob, ofIntake, source⟩ := link.sourceSystem
  obtain ⟨attempt', inside, same, _⟩ := stands.attempts attempt started
  obtain ⟨intake', there, lineage⟩ := stands.intakes intake received
  refine ⟨attempt', inside, job, stands.jobs job queued, intake', there, ?_, ?_, ?_, ?_⟩
  · exact (congrArg AttemptIdentity.id same).trans own
  · exact ofJob.trans (congrArg AttemptIdentity.jobId same).symm
  · exact (congrArg Lineage.id lineage).trans ofIntake
  · exact (congrArg Lineage.sourceSystem lineage).trans source

/-- A record is inserted before it is linked. -/
def Statement.StagesFirst : Statement → Prop
  | .staged (.insert new _) => new.row.outcome = .staged
  | _ => True

theorem execute_linked {statement : Statement} (first : statement.StagesFirst) (linked : Linked database)
    (done : execute database statement = .ok later) : Linked later := by
  have stands := execute_stands done
  have before : ∀ record ∈ database.staged.rows, record.row.outcome ≠ .staged → ∃ fact, LinkedTo later record fact := by
    intro record member final
    obtain ⟨fact, link⟩ := linked record member final
    exact ⟨fact, link.stands stands⟩
  intro record member final
  cases statement with
  | staged write =>
    obtain ⟨staged, wrote, rfl⟩ := map_ok done
    rcases KeyedTable.write_from wrote record member with old | ⟨elsewhere, rfl⟩ | ⟨old, _, admitted⟩
    · exact before record old final
    · exact absurd first final
    · obtain ⟨_, _, _, found⟩ := protectStaged_ok admitted
      obtain ⟨fact, link⟩ := linkedTo_of_exists (found final)
      exact ⟨fact, link.stands stands⟩
  | intake write | job write | attempt write | issue write | fact write =>
    obtain ⟨table, wrote, rfl⟩ := map_ok done
    exact before record member final

end Steps

/-! ## Runs of transactions -/

def step (database : AuditDatabase) (statements : List Statement) : AuditDatabase := transaction execute database statements

theorem run_stands (database : AuditDatabase) (transactions : List (List Statement)) :
    Stands database (run step database transactions) := by
  refine run_invariant step (fun _ => True) (Stands database) ?_ database Stands.refl transactions (fun _ _ => trivial)
  intro state statements _ stands
  exact transaction_preserves (fun _ _ _ _ before done => before.trans (execute_stands done)) (fun _ _ => trivial) stands

theorem run_linked (database : AuditDatabase) (linked : Linked database) (transactions : List (List Statement))
    (first : ∀ statements ∈ transactions, ∀ statement ∈ statements, statement.StagesFirst) :
    Linked (run step database transactions) := by
  refine run_invariant step (fun statements => ∀ statement ∈ statements, statement.StagesFirst) Linked ?_ database linked
    transactions first
  intro state statements staged linked
  exact transaction_preserves (fun _ _ _ admitted before done => execute_linked admitted before done) staged linked

/-- Whatever statements are run, in transactions that commit or roll back, no job, attempt, staged row, issue or
fact is lost; ended attempts, settled rows, issues and facts stay as they are. A staged row that was linked to
its fact by an update keeps it for good: same row, same fact, same values, and the source of its intake. -/
theorem evidence_stands (start : AuditDatabase) (linked : Linked start) (earlier later : List (List Statement))
    (first : ∀ statements ∈ earlier, ∀ statement ∈ statements, statement.StagesFirst) :
    let middle := run step start earlier
    let final := run step middle later
    Stands start middle ∧ Stands middle final ∧
      ∀ record ∈ middle.staged.rows, record.row.outcome ≠ .staged →
        record ∈ final.staged.rows ∧ ∃ fact, LinkedTo middle record fact ∧ LinkedTo final record fact := by
  intro middle final
  have stands : Stands middle final := run_stands middle later
  refine ⟨run_stands start earlier, stands, fun record member ended => ?_⟩
  obtain ⟨after, inside, _, same⟩ := stands.staged record member
  obtain ⟨fact, link⟩ := run_linked start linked earlier first record member ended
  rw [same (Or.inl ended)] at inside
  exact ⟨inside, fact, link, link.stands stands⟩

namespace Sample

def attempt (outcome : SalesImportAttempt.Outcome) : AttemptRecord where
  identity := ⟨7, 3, 1, 11, "worker", 0⟩
  phase := .publish
  outcome := outcome
  heartbeatAt := 0
  finishedAt := none
  counts := {}
  errorCode := ""
  errorMessage := ""

/-- One row of `StagedRowAudit` is staged, linked and its attempt ended. -/
def published : List (List Statement) := [
  [.intake (.insert AuditGuards.Sample.receivedRow true), .job (.insert ⟨3, 0⟩ true), .attempt (.insert (attempt .running) true)],
  [.staged (.insert StagedRowAudit.Sample.record true)],
  [.fact (.insert StagedRowAudit.Sample.fact true),
    .staged (.update 1 (StagedRowAudit.Sample.record.linkedTo .published 1) true),
    .attempt (.update 7 (attempt .published) true)]]

/-- The link is taken back, the fact and the row are deleted, and the attempt runs again. -/
def tampering : List (List Statement) := [
  [.staged (.update 1 StagedRowAudit.Sample.record true)], [.fact (.delete 1)], [.staged (.delete 1)],
  [.attempt (.update 7 (attempt .running) true)]]

end Sample

theorem evidence_stands_sample :
    let middle := run step AuditDatabase.empty Sample.published
    let final := run step middle Sample.tampering
    StagedRowAudit.Sample.record.linkedTo .published 1 ∈ final.staged.rows ∧
      ∃ fact, LinkedTo middle (StagedRowAudit.Sample.record.linkedTo .published 1) fact ∧
        LinkedTo final (StagedRowAudit.Sample.record.linkedTo .published 1) fact := by
  intro middle final
  have empty : Linked AuditDatabase.empty := fun _ absent => (List.not_mem_nil absent).elim
  have member : StagedRowAudit.Sample.record.linkedTo .published 1 ∈ middle.staged.rows := by
    decide +kernel
  refine (evidence_stands AuditDatabase.empty empty Sample.published Sample.tampering ?_).2.2 _ member (by decide)
  simp [Sample.published, Statement.StagesFirst, StagedRowAudit.Sample.record]
  rfl

end PharmaIntel.AuditEvidence
