import Mathlib
import PharmaIntel.AuditGuards
import PharmaIntel.Idempotence
import PharmaIntel.Overlap

/-! The guards of a staged row: the audit trigger and the check of its result. What the
publication compares in Python, the trigger compares once more in SQL. -/

namespace PharmaIntel.StagedRowAudit
open PharmaIntel.Base PharmaIntel.Base.Ternary PharmaIntel.Models PharmaIntel.Validation PharmaIntel.Publication
  PharmaIntel.AuditGuards

/-! ## The trigger -/

structure AttemptRow where
  id : Uuid
  jobId : Uuid
  outcome : SalesImportAttempt.Outcome
  deriving DecidableEq

structure IntakeRow where
  id : Uuid
  sourceSystem : String
  deriving DecidableEq

/-- The tables the trigger reads beside the facts. A job is known by its `sales_import_id`. -/
structure AuditTables where
  attempts : List AttemptRow
  jobs : List Uuid
  intakes : List IntakeRow
  attempts_unique : (attempts.map AttemptRow.id).Nodup

/-- A row of `sales_imports_salesimportstagedrow`. -/
structure StagedRecord where
  id : Nat
  attemptId : Uuid
  createdAt : Instant
  row : SalesImportStagedRow
  deriving DecidableEq

/-- The columns of the trigger's row comparison. -/
structure SourceValues where
  id : Nat
  attemptId : Uuid
  rowNumber : Nat
  sourceRecordId : String
  transactionDate : Date
  productCode : String
  territoryCode : String
  hospitalCode : String
  salesRepresentativeCode : String
  quantity : Numeric 3
  revenueAmount : Numeric 4
  currencyCode : String
  createdAt : Instant
  deriving DecidableEq

def StagedRecord.sourceValues (record : StagedRecord) : SourceValues where
  id := record.id
  attemptId := record.attemptId
  rowNumber := record.row.rowNumber
  sourceRecordId := record.row.sourceRecordId
  transactionDate := record.row.transactionDate
  productCode := record.row.productCode
  territoryCode := record.row.territoryCode
  hospitalCode := record.row.hospitalCode
  salesRepresentativeCode := record.row.salesRepresentativeCode
  quantity := record.row.quantity
  revenueAmount := record.row.revenueAmount
  currencyCode := record.row.currencyCode
  createdAt := record.createdAt

section Trigger
variable (tables : AuditTables) (facts : List SalesTransaction)

/-- The conditions of the joins and of the `WHERE` clause. -/
def linkConditions (fact : SalesTransaction) (attempt : AttemptRow) (job : Uuid) (intake : IntakeRow)
    (new : StagedRecord) : List Truth := [
  equals (some attempt.id) (some new.attemptId),
  equals (some job) (some attempt.jobId),
  equals (some intake.id) (some job),
  equals (some fact.id) new.row.salesTransactionId,
  equals (some fact.calendarDateId) (some new.row.transactionDate),
  equals (some fact.calendarDateId) new.row.calendarDateId,
  equals (some fact.productId) new.row.productId,
  equals (some fact.territoryId) new.row.territoryId,
  neg (distinct fact.hospitalId new.row.hospitalId),
  neg (distinct fact.salesRepresentativeId new.row.salesRepresentativeId),
  equals (some fact.quantity) (some new.row.quantity),
  equals (some fact.revenueAmount) (some new.row.revenueAmount),
  equals (some fact.currencyCode) (some new.row.currencyCode),
  equals (some fact.sourceSystem) (some intake.sourceSystem),
  equals (some fact.sourceRecordId) (some new.row.sourceRecordId)]

/-- `EXISTS (SELECT 1 FROM business_data_salestransaction AS fact JOIN ..)`. -/
def matchingFactExists (new : StagedRecord) : Bool :=
  facts.any (fun fact => tables.attempts.any (fun attempt => tables.jobs.any (fun job =>
    tables.intakes.any (fun intake => decide (conjAll (linkConditions fact attempt job intake new) = some true)))))

/-- `SELECT outcome INTO parent_outcome`. -/
def parentOutcome (attemptId : Uuid) : Option SalesImportAttempt.Outcome :=
  (findBy AttemptRow.id attemptId tables.attempts).map AttemptRow.outcome

inductive Operation where
  | delete
  | update (new : StagedRecord)

/-- `sales_imports_protect_staged_row_audit`. -/
def protectStagedRowAudit (old : StagedRecord) : Operation → Except Refusal Unit
  | .delete => .error ⟨"Staged sales-import rows cannot be deleted.", "sales_staged_audit_delete_denied"⟩
  | .update new =>
      if neg (equals (some old.row.outcome) (some .staged)) = some true then
        .error ⟨"Finalized staged sales-import rows are immutable.", "sales_staged_terminal_immutable"⟩
      else if distinct new.sourceValues old.sourceValues = some true then
        .error ⟨"Staged sales-import source values are immutable.", "sales_staged_values_immutable"⟩
      else if distinct (parentOutcome tables old.attemptId) (some .running) = some true then
        .error ⟨"Rows belonging to a completed attempt are immutable.", "sales_staged_attempt_terminal"⟩
      else if conj (neg (equals (some new.row.outcome) (some .staged)))
          (some (!matchingFactExists tables facts new)) = some true then
        .error ⟨"A finalized staged row must link to its matching sales fact.", "sales_staged_transaction_mismatch"⟩
      else .ok ()

end Trigger

/-! ## The check -/

/-- A reference is there exactly for a code that is not blank. -/
def optionalReference (code : String) (reference : Option Nat) : Truth :=
  disj (conj (equals (some code) (some "")) (isNull reference))
    (conj (neg (equals (some code) (some ""))) (isNotNull reference))

/-- `sales_staged_result_consistent`. -/
def resultConsistent (row : SalesImportStagedRow) : Truth :=
  disj (conj (equals (some row.outcome) (some .staged)) (isNull row.salesTransactionId))
    (conj
      (conj
        (conjAll [isIn (some row.outcome) [.published, .reused], isNotNull row.salesTransactionId,
          isNotNull row.calendarDateId, isNotNull row.productId, isNotNull row.territoryId])
        (optionalReference row.hospitalCode row.hospitalId))
      (optionalReference row.salesRepresentativeCode row.salesRepresentativeId))

theorem optionalReference_true (code : String) (reference : Option Nat) :
    optionalReference code reference = some true ↔ (code = "" ↔ reference = none) := by
  by_cases blank : code = "" <;> simp [optionalReference, blank]

theorem resultConsistent_true (row : SalesImportStagedRow) :
    resultConsistent row = some true ↔
      row.outcome = .staged ∧ row.salesTransactionId = none ∨
        row.outcome ≠ .staged ∧ row.salesTransactionId ≠ none ∧ row.calendarDateId ≠ none ∧
          row.productId ≠ none ∧ row.territoryId ≠ none ∧ (row.hospitalCode = "" ↔ row.hospitalId = none) ∧
          (row.salesRepresentativeCode = "" ↔ row.salesRepresentativeId = none) := by
  have finished : row.outcome = .published ∨ row.outcome = .reused ↔ row.outcome ≠ .staged := by
    cases row.outcome <;> simp
  rw [← finished]
  simp [resultConsistent, conjAll_true, optionalReference_true, and_assoc]

/-! ## Resolved rows -/

/-- The row comes out of a call of `_resolve_and_validate_chunk` without an issue. The numbers of
an attempt's rows are distinct, and the collector is drained before each call. -/
def ResolvedBy (master : MasterData) (table : FactTable) (sourceSystem : String) (row : SalesImportStagedRow) : Prop :=
  ∃ rows collector chunk, (rows.map SalesImportStagedRow.rowNumber).Nodup ∧ collector.pendingIdentities = [] ∧
    resolveAndValidateChunk master table.facts sourceSystem rows collector = .ok chunk ∧ row ∈ chunk.changedRows

/-- The references a finalized row needs. -/
structure Complete (row : SalesImportStagedRow) : Prop where
  calendar : row.calendarDateId = some row.transactionDate
  product : row.productId ≠ none
  territory : row.territoryId ≠ none
  hospital : row.hospitalCode = "" ↔ row.hospitalId = none
  representative : row.salesRepresentativeCode = "" ↔ row.salesRepresentativeId = none

section Resolved
variable {master : MasterData} {table : FactTable} {sourceSystem : String} {row : SalesImportStagedRow}

theorem ResolvedBy.origin (resolved : ResolvedBy master table sourceSystem row) :
    ∃ origin, rowMasterIssues master origin = [] ∧ row = resolve master origin := by
  obtain ⟨rows, collector, chunk, distinct, drained, run, changed⟩ := resolved
  have nonempty : rows ≠ [] := by
    rintro rfl
    cases run
  rw [resolveAndValidateChunk_eq master table.facts sourceSystem table.keys_nodup nonempty distinct collector drained]
    at run
  obtain rfl := Except.ok.inj run
  obtain ⟨origin, kept, rfl⟩ := List.mem_map.mp changed
  exact ⟨origin, (sound_iff.mp (List.mem_filter.mp kept).2).1, rfl⟩

/-- A row that passes every check is resolved by a call of its own. -/
theorem resolvedBy_resolve (passes : sound master table.facts sourceSystem row = true) :
    ResolvedBy master table sourceSystem (resolve master row) := by
  refine ⟨[row], { maximum := 0 }, _, List.nodup_singleton _, rfl,
    resolveAndValidateChunk_eq master table.facts sourceSystem table.keys_nodup (List.cons_ne_nil row [])
      (List.nodup_singleton _) _ rfl, ?_⟩
  rw [List.filter_cons_of_pos passes]
  exact List.mem_cons_self

/-- Without an issue, an optional code names nothing exactly if it is blank. -/
theorem optional_missing {code : String} {identity : Option CodedMasterData} {issue : SalesImportIssue}
    (blank : code = "" → identity = none)
    (silent : (if code ≠ "" ∧ identity = none then [issue] else []) = []) :
    code = "" ↔ identity.map CodedMasterData.pk = none := by
  rw [Option.map_eq_none_iff]
  constructor
  · exact blank
  · intro missing
    by_contra named
    rw [if_pos ⟨named, missing⟩] at silent
    cases silent

theorem complete_resolve (clean : rowMasterIssues master row = []) : Complete (resolve master row) := by
  obtain ⟨calendar, product, territory⟩ := references_found clean
  simp only [rowMasterIssues, referenceIssues, List.append_eq_nil_iff] at clean
  obtain ⟨⟨⟨_, hospital⟩, representative⟩, _⟩ := clean
  refine ⟨calendar, ?_, ?_, ?_, ?_⟩
  · simpa [resolve, resolvedRow, Option.isSome_iff_ne_none] using product
  · simpa [resolve, resolvedRow, Option.isSome_iff_ne_none] using territory
  · exact optional_missing (fun blank => if_pos blank) hospital
  · exact optional_missing (fun blank => if_pos blank) representative

theorem ResolvedBy.complete (resolved : ResolvedBy master table sourceSystem row) : Complete row := by
  obtain ⟨origin, clean, rfl⟩ := resolved.origin
  exact complete_resolve clean

end Resolved

/-! ## Two comparisons -/

/-- The attempt belongs to an import of the source system. -/
def AuditTables.Owns (tables : AuditTables) (sourceSystem : String) (attemptId : Uuid) : Prop :=
  ∃ attempt ∈ tables.attempts, ∃ intake ∈ tables.intakes,
    attempt.id = attemptId ∧ attempt.jobId ∈ tables.jobs ∧ intake.id = attempt.jobId ∧
      intake.sourceSystem = sourceSystem

/-- The record once its row is linked to the fact. -/
def StagedRecord.linkedTo (record : StagedRecord) (outcome : SalesImportStagedRow.Outcome) (factId : Nat) :
    StagedRecord :=
  { record with row := { record.row with outcome := outcome, salesTransactionId := some factId } }

section Comparisons
variable {tables : AuditTables} {sourceSystem : String} {record : StagedRecord} {fact : SalesTransaction}

/-- A fact with the row's key and values satisfies every condition. -/
theorem exists_of_matches {facts : List SalesTransaction} (owns : tables.Owns sourceSystem record.attemptId)
    (complete : Complete record.row) (member : fact ∈ facts)
    (key : fact.key = (sourceSystem, record.row.sourceRecordId)) (agrees : factMatches record.row fact = true)
    (outcome : SalesImportStagedRow.Outcome) :
    matchingFactExists tables facts (record.linkedTo outcome fact.id) = true := by
  obtain ⟨attempt, listed, intake, known, own, queued, same, source⟩ := owns
  obtain ⟨factSource, factId⟩ := Prod.mk.inj key
  simp only [factMatches, Bool.and_eq_true, decide_eq_true_eq] at agrees
  obtain ⟨⟨⟨⟨⟨⟨⟨date, product⟩, territory⟩, hospital⟩, representative⟩, quantity⟩, revenue⟩, currency⟩ := agrees
  simp only [matchingFactExists, List.any_eq_true, decide_eq_true_eq]
  refine ⟨fact, member, attempt, listed, attempt.jobId, queued, intake, known, ?_⟩
  rw [conjAll_true]
  simp [linkConditions, StagedRecord.linkedTo, complete.calendar, own, same, source, factSource, factId, date, ← product,
    ← territory, hospital, representative, quantity, revenue, currency]

/-- The fact found by its id has the row's values. -/
theorem matches_of_exists {table : FactTable} (member : fact ∈ table.facts) (outcome : SalesImportStagedRow.Outcome)
    (found : matchingFactExists tables table.facts (record.linkedTo outcome fact.id) = true) :
    factMatches record.row fact = true := by
  simp only [matchingFactExists, List.any_eq_true, decide_eq_true_eq, conjAll_true] at found
  obtain ⟨other, listed, attempt, _, job, _, intake, _, conditions⟩ := found
  simp only [linkConditions, StagedRecord.linkedTo, List.forall_mem_cons, some_equals_true, neg_true, distinct_false,
    Option.some.injEq] at conditions
  obtain ⟨_, _, _, id, date, _, product, territory, hospital, representative, quantity, revenue, currency, _⟩ := conditions
  obtain rfl : fact = other := List.inj_on_of_nodup_map table.ids_nodup member listed id
  simp [factMatches, date, product, territory, hospital, representative, quantity, revenue, currency]

end Comparisons

/-! ## Finalized rows -/

section Linking
variable {master : MasterData} {snapshot : FactTable} {sourceSystem : String} {createdById : Nat}
  {createdAt : Instant} {rows : List SalesImportStagedRow} {state next : LinkState}

/-- Nothing was collected, so nothing was there to collect. -/
theorem addAll_silent {collector : Collector.IssueCollector} (drained : collector.pendingIdentities = [])
    {issues : List SalesImportIssue} (silent : (collector.addAll issues).total = 0) : issues = [] := by
  cases issues with
  | nil => rfl
  | cons issue rest =>
    have fresh : Collector.identity issue ∉ collector.pendingIdentities := by simp [drained]
    have first := Collector.IssueCollector.add_total fresh
    have later := Collector.IssueCollector.total_le_addAll (collector.add issue) rest
    rw [Collector.IssueCollector.addAll_cons] at silent
    omega

/-- What a chunk has done when it does not stop. -/
theorem linkOrInsertChunk_ok (drained : state.collector.pendingIdentities = [])
    (done : linkOrInsertChunk sourceSystem createdById createdAt rows state = .ok next) :
    let existing := existingFacts state.visible sourceSystem rows
    ∃ values table, (∀ row ∈ rows, conflicts existing row = false) ∧
      (rows.filter (fun row => (existing.get row.sourceRecordId).isNone)).mapM (newFact sourceSystem) = some values ∧
      state.table.insertAll createdById createdAt values = .ok table ∧
      next = linkedState state existing state.collector rows table := by
  intro existing
  unfold linkOrInsertChunk at done
  dsimp only at done
  split_ifs at done with collected
  have none := addAll_silent drained (not_not.mp collected)
  rw [List.map_eq_nil_iff] at none
  rw [none] at done
  split at done
  · cases done
  · rename_i values built
    split at done
    · cases done
    · rename_i table inserted
      refine ⟨values, table, ?_, built, inserted, (Except.ok.inj done).symm⟩
      intro row member
      have kept := List.filter_eq_nil_iff.mp none row member
      simpa using kept

theorem existingFacts_some {facts : List SalesTransaction} {id : String} {fact : SalesTransaction}
    (found : (existingFacts facts sourceSystem rows).get id = some fact) :
    fact ∈ facts ∧ fact.key = (sourceSystem, id) := by
  rw [existingFacts, Dict.get_ofPairs] at found
  obtain ⟨pair, last, rfl⟩ := Option.map_eq_some_iff.mp found
  have member := List.mem_of_getLast? last
  obtain ⟨listed, same⟩ := List.mem_filter.mp member
  obtain ⟨fact, inside, rfl⟩ := List.mem_map.mp listed
  obtain ⟨known, chosen⟩ := List.mem_filter.mp inside
  simp only [Bool.and_eq_true, decide_eq_true_eq] at chosen same
  exact ⟨known, Prod.ext chosen.1 same⟩

/-- The fact a row ends up with carries its key and its values. -/
def Finalized (sourceSystem : String) (facts : List SalesTransaction) (row linked : SalesImportStagedRow) : Prop :=
  ∃ fact ∈ facts, fact.key = (sourceSystem, row.sourceRecordId) ∧ factMatches row fact = true ∧
    ∃ outcome, outcome ≠ .staged ∧ linked = { row with outcome := outcome, salesTransactionId := some fact.id }

/-- The facts built for the rows whose key is missing, by the key they got. -/
theorem built_fact {missing : List SalesImportStagedRow} {values : List SalesValues} {table : FactTable}
    {added : List SalesTransaction} (built : values.map some = missing.map (newFact sourceSystem))
    (facts : table.facts = state.table.facts ++ added) (stored : added.map SalesTransaction.values = values)
    {row : SalesImportStagedRow} (member : row ∈ missing) :
    ∃ fact ∈ added, newFact sourceSystem row = some fact.values ∧
      findBy SalesTransaction.sourceRecordId row.sourceRecordId added = some fact := by
  have listed : newFact sourceSystem row ∈ values.map some := built ▸ List.mem_map_of_mem member
  rw [← stored, List.map_map] at listed
  obtain ⟨fact, inside, own⟩ := List.mem_map.mp listed
  have key : fact.key = (sourceSystem, row.sourceRecordId) := newFact_key own.symm
  have id : fact.sourceRecordId = row.sourceRecordId := congrArg Prod.snd key
  refine ⟨fact, inside, own.symm, ?_⟩
  cases located : findBy SalesTransaction.sourceRecordId row.sourceRecordId added with
  | none => exact absurd (id ▸ List.mem_map_of_mem inside) (findBy_none located)
  | some other =>
    obtain ⟨otherInside, otherId⟩ := findBy_some located
    have otherListed : some other.values ∈ missing.map (newFact sourceSystem) := by
      rw [← built, ← stored, List.map_map]
      exact List.mem_map_of_mem otherInside
    obtain ⟨origin, _, otherBuilt⟩ := List.mem_map.mp otherListed
    have otherKey : other.key = (sourceSystem, origin.sourceRecordId) := newFact_key otherBuilt
    have source : other.sourceSystem = sourceSystem := congrArg Prod.fst otherKey
    have same : other.key = fact.key := by
      rw [key]
      exact Prod.ext source otherId
    have unique := table.keys_nodup
    rw [facts, List.map_append] at unique
    exact congrArg some (List.inj_on_of_nodup_map (List.nodup_append.mp unique).2.1 otherInside inside same)

theorem linkRow_finalized {values : List SalesValues} {table : FactTable}
    (resolved : ∀ row ∈ rows, ResolvedBy master snapshot sourceSystem row)
    (agree : ∀ row ∈ rows, conflicts (existingFacts state.visible sourceSystem rows) row = false)
    (built : (rows.filter (fun row =>
      ((existingFacts state.visible sourceSystem rows).get row.sourceRecordId).isNone)).mapM (newFact sourceSystem) =
        some values)
    (inserted : state.table.insertAll createdById createdAt values = .ok table)
    {row : SalesImportStagedRow} (member : row ∈ rows) :
    Finalized sourceSystem (state.visible ++ table.facts.drop state.table.facts.length) row
      (linkRow (existingFacts state.visible sourceSystem rows) (table.facts.drop state.table.facts.length) row) := by
  unfold linkRow
  cases found : (existingFacts state.visible sourceSystem rows).get row.sourceRecordId with
  | some fact =>
    obtain ⟨known, key⟩ := existingFacts_some found
    have same := agree row member
    rw [conflicts, found] at same
    exact ⟨fact, List.mem_append_left _ known, key, by simpa using same, .reused, by decide, rfl⟩
  | none =>
    obtain ⟨added, facts, stored, _, _⟩ := FactTable.insertAll_ok inserted
    rw [facts, List.drop_left]
    have missing : row ∈ rows.filter (fun row =>
        ((existingFacts state.visible sourceSystem rows).get row.sourceRecordId).isNone) :=
      List.mem_filter.mpr ⟨member, by rw [found]; rfl⟩
    have complete : ∀ other ∈ rows.filter (fun row =>
        ((existingFacts state.visible sourceSystem rows).get row.sourceRecordId).isNone),
        (newFact sourceSystem other).isSome := by
      intro other listed
      obtain ⟨origin, clean, rfl⟩ := (resolved other (List.mem_filter.mp listed).1).origin
      obtain ⟨own, created, _⟩ := newFact_resolve sourceSystem clean
      rw [created]
      rfl
    obtain ⟨others, all, same⟩ := mapM_newFact _ complete
    obtain rfl := Option.some.inj (all.symm.trans built)
    obtain ⟨fact, inside, own, located⟩ := built_fact same facts stored missing
    have key : fact.key = (sourceSystem, row.sourceRecordId) := newFact_key own
    obtain ⟨origin, clean, rfl⟩ := (resolved row member).origin
    rw [located]
    exact ⟨fact, List.mem_append_right _ inside, key, (factMatches_iff clean key).mpr own, .published, by decide, rfl⟩

end Linking

/-- The update that finalizes the record passes the trigger, which sees the facts, and the check. -/
structure Audited (tables : AuditTables) (facts : List SalesTransaction) (record : StagedRecord)
    (linked : SalesImportStagedRow) : Prop where
  finalized : linked.outcome ≠ .staged ∧ linked.salesTransactionId ≠ none
  trigger : protectStagedRowAudit tables facts record (.update { record with row := copyLink linked record.row }) = .ok ()
  check : resultConsistent (copyLink linked record.row) = some true

section Audit
variable {tables : AuditTables} {sourceSystem : String} {master : MasterData} {snapshot : FactTable}

theorem Finalized.audited {facts : List SalesTransaction} {record : StagedRecord} {linked : SalesImportStagedRow}
    (owns : tables.Owns sourceSystem record.attemptId) (running : parentOutcome tables record.attemptId = some .running)
    (staged : record.row.outcome = .staged) (complete : Complete record.row)
    (finalized : Finalized sourceSystem facts record.row linked) : Audited tables facts record linked := by
  obtain ⟨fact, member, key, agrees, outcome, ended, rfl⟩ := finalized
  have found := exists_of_matches owns complete member key agrees outcome
  refine ⟨⟨ended, Option.some_ne_none _⟩, ?_, ?_⟩
  · change protectStagedRowAudit tables facts record (.update (record.linkedTo outcome fact.id)) = .ok ()
    have values : (record.linkedTo outcome fact.id).sourceValues = record.sourceValues := rfl
    simp [protectStagedRowAudit, staged, running, values, found, distinct]
  · rw [resultConsistent_true]
    have calendar : record.row.calendarDateId ≠ none := complete.calendar ▸ Option.some_ne_none _
    exact Or.inr ⟨ended, Option.some_ne_none _, calendar, complete.product, complete.territory, complete.hospital,
      complete.representative⟩

/-- Every row of a chunk that does not stop passes its guards. -/
theorem chunk_audited {createdById : Nat} {createdAt : Instant} {records : List StagedRecord} {state next : LinkState}
    (owned : ∀ record ∈ records, tables.Owns sourceSystem record.attemptId ∧
      parentOutcome tables record.attemptId = some .running)
    (resolved : ∀ record ∈ records, ResolvedBy master snapshot sourceSystem record.row)
    (staged : ∀ record ∈ records, record.row.outcome = .staged)
    (drained : state.collector.pendingIdentities = [])
    (done : linkOrInsertChunk sourceSystem createdById createdAt (records.map StagedRecord.row) state = .ok next) :
    ∃ linked, next.linked = state.linked ++ linked ∧ List.Forall₂ (Audited tables next.visible) records linked := by
  obtain ⟨values, table, agree, built, inserted, rfl⟩ := linkOrInsertChunk_ok drained done
  have rows : ∀ row ∈ records.map StagedRecord.row, ResolvedBy master snapshot sourceSystem row := by
    intro row listed
    obtain ⟨record, member, rfl⟩ := List.mem_map.mp listed
    exact resolved record member
  refine ⟨_, rfl, ?_⟩
  rw [List.map_map, List.forall₂_map_right_iff, List.forall₂_same]
  intro record member
  have finalized := linkRow_finalized rows agree built inserted (List.mem_map_of_mem member)
  exact finalized.audited (owned record member).1 (owned record member).2 (staged record member)
    (resolved record member).complete

end Audit

/-! ## A publication -/

/-- The attempts of every job, as the trigger reads them. -/
def attemptRows (store : Store) : List AttemptRow :=
  store.importTable.imports.flatMap (fun intake => intake.processingJob.toList.flatMap (fun job =>
    job.attempts.map (fun attempt => ⟨attempt.id, intake.id, attempt.outcome⟩)))

def auditTables (store : Store) (unique : ((attemptRows store).map AttemptRow.id).Nodup) : AuditTables where
  attempts := attemptRows store
  jobs := (store.importTable.imports.filter (fun intake => intake.processingJob.isSome)).map SalesImport.id
  intakes := store.importTable.imports.map (fun intake => ⟨intake.id, intake.sourceSystem⟩)
  attempts_unique := unique

section Publications
variable {store : Store} {jobId leaseToken : Uuid} {now : Instant} {job : SalesImportJob}
  {attempt : SalesImportAttempt} {intake : SalesImport}

/-- The attempt of a live claim is running, and belongs to the claimed import. -/
theorem live_owned (unique : ((attemptRows store).map AttemptRow.id).Nodup)
    (live : Queue.LiveClaim store jobId leaseToken now job attempt) (found : Queue.findImport store jobId = some intake) :
    (auditTables store unique).Owns intake.sourceSystem attempt.id ∧
      parentOutcome (auditTables store unique) attempt.id = some .running := by
  obtain ⟨known, _⟩ := findBy_some found
  have owned : intake.processingJob = some job := by
    have located := live.found
    rwa [Queue.findJob, found, Option.bind_some] at located
  have listed : (⟨attempt.id, intake.id, attempt.outcome⟩ : AttemptRow) ∈ attemptRows store := by
    refine List.mem_flatMap.mpr ⟨intake, known, List.mem_flatMap.mpr ⟨job, ?_, List.mem_map_of_mem live.member⟩⟩
    rw [owned]
    exact List.mem_singleton_self job
  constructor
  · refine ⟨_, listed, ⟨intake.id, intake.sourceSystem⟩, List.mem_map_of_mem known, rfl, ?_, rfl, rfl⟩
    exact List.mem_map_of_mem (List.mem_filter.mpr ⟨known, by rw [owned]; rfl⟩)
  · have located : findBy AttemptRow.id attempt.id (attemptRows store) =
        some ⟨attempt.id, intake.id, attempt.outcome⟩ := findBy_of_mem unique listed
    change (findBy AttemptRow.id attempt.id (attemptRows store)).map AttemptRow.outcome = _
    rw [located, Option.map_some, live.running]

theorem linkBatches_drained {sourceSystem : String} {createdById : Nat} {createdAt : Instant}
    (batches : List (List SalesImportStagedRow)) {state final : LinkState}
    (drained : state.collector.pendingIdentities = [])
    (done : linkBatches sourceSystem createdById createdAt batches state = .ok final) :
    final.collector.pendingIdentities = [] := by
  induction batches generalizing state with
  | nil =>
    obtain rfl := Except.ok.inj done
    exact drained
  | cons rows rest ih =>
    rw [linkBatches] at done
    cases first : linkOrInsertChunk sourceSystem createdById createdAt rows state with
    | error stop =>
      rw [first] at done
      cases done
    | ok next =>
      rw [first] at done
      have kept : next.collector = state.collector := by
        obtain ⟨_, _, _, _, _, rfl⟩ := linkOrInsertChunk_ok drained first
        rfl
      exact ih (kept ▸ drained) done

/-- In every chunk of a publication, over any snapshot, the finalized rows pass their guards. -/
theorem publication_audited (settings : Settings) (snapshot : Snapshot) (times : PublicationTimes)
    (unique : ((attemptRows store).map AttemptRow.id).Nodup)
    (live : Queue.LiveClaim store jobId leaseToken now job attempt) (found : Queue.findImport store jobId = some intake)
    (numbers : (attempt.stagedRows.map SalesImportStagedRow.rowNumber).Nodup)
    (staged : ∀ row ∈ attempt.stagedRows, row.outcome = .staged) {checked : ValidationState}
    (validated : validateBatches snapshot.master snapshot.factTable.facts intake.sourceSystem
      { collector := { maximum := settings.maxIssues } } (batched settings.dbBatchSize (inRowOrder attempt.stagedRows)) =
        .ok checked)
    (silent : checked.collector.total = 0) {before after : List (List SalesImportStagedRow)} {records : List StagedRecord}
    (chunks : batched settings.dbBatchSize (inRowOrder (validatedAttempt attempt checked).stagedRows) =
      before ++ records.map StagedRecord.row :: after)
    (own : ∀ record ∈ records, record.attemptId = attempt.id) {middle next : LinkState}
    (earlier : linkBatches intake.sourceSystem intake.uploadedById times.createdAt before
      { visible := snapshot.factTable.facts, table := store.factTable, collector := checked.collector } = .ok middle)
    (done : linkOrInsertChunk intake.sourceSystem intake.uploadedById times.createdAt (records.map StagedRecord.row)
      middle = .ok next) :
    ∃ linked, next.linked = middle.linked ++ linked ∧
      List.Forall₂ (Audited (auditTables store unique) next.visible) records linked := by
  obtain ⟨final, run, known⟩ := @validationPass_checked settings snapshot intake attempt numbers
  obtain rfl : final = checked := Except.ok.inj (run.symm.trans validated)
  have passes : AllSound snapshot.shown intake attempt.stagedRows := (total_zero_iff known).mp silent
  have saved : (validatedAttempt attempt final).stagedRows = attempt.stagedRows.map (resolve snapshot.master) :=
    @resolved_sound snapshot.shown _ _ numbers _ _ known passes
  have origins : ∀ record ∈ records, ∃ origin ∈ attempt.stagedRows, record.row = resolve snapshot.master origin := by
    intro record member
    have listed : record.row ∈ (batched settings.dbBatchSize
        (inRowOrder (validatedAttempt attempt final).stagedRows)).flatten := by
      rw [chunks]
      exact List.mem_flatten.mpr ⟨_, List.mem_append_right _ List.mem_cons_self, List.mem_map_of_mem member⟩
    rw [(batched_partition settings.dbBatchSize _).flatten, saved] at listed
    obtain ⟨origin, inside, same⟩ := List.mem_map.mp ((inRowOrder_perm _).mem_iff.mp listed)
    exact ⟨origin, inside, same.symm⟩
  have owned : ∀ record ∈ records, (auditTables store unique).Owns intake.sourceSystem record.attemptId ∧
      parentOutcome (auditTables store unique) record.attemptId = some .running := by
    intro record member
    rw [own record member]
    exact live_owned unique live found
  have resolved : ∀ record ∈ records, ResolvedBy snapshot.master snapshot.factTable intake.sourceSystem record.row := by
    intro record member
    obtain ⟨origin, inside, same⟩ := origins record member
    rw [same]
    exact resolvedBy_resolve (passes origin inside)
  have unlinked : ∀ record ∈ records, record.row.outcome = .staged := by
    intro record member
    obtain ⟨origin, inside, same⟩ := origins record member
    rw [same]
    exact staged origin inside
  exact chunk_audited owned resolved unlinked (linkBatches_drained before known.forgotten earlier) done

end Publications

/-! ## Agreement -/

/-- The publication and the database agree on what a row may be linked to: the two comparisons
give the same answer, and no row that is finalized is refused. -/
theorem linking_audited (master : MasterData) (snapshot : FactTable) (sourceSystem : String) (tables : AuditTables)
    (attemptId : Uuid) (owns : tables.Owns sourceSystem attemptId) :
    (∀ record : StagedRecord, record.attemptId = attemptId → ResolvedBy master snapshot sourceSystem record.row →
      ∀ (table : FactTable) (fact : SalesTransaction), fact ∈ table.facts →
        fact.key = (sourceSystem, record.row.sourceRecordId) → ∀ outcome,
          (factMatches record.row fact = true ↔
            matchingFactExists tables table.facts (record.linkedTo outcome fact.id) = true)) ∧
    ∀ (createdById : Nat) (createdAt : Instant) (records : List StagedRecord) (state next : LinkState),
      (∀ record ∈ records, record.attemptId = attemptId ∧ ResolvedBy master snapshot sourceSystem record.row ∧
        record.row.outcome = .staged) →
      parentOutcome tables attemptId = some .running → state.collector.pendingIdentities = [] →
      linkOrInsertChunk sourceSystem createdById createdAt (records.map StagedRecord.row) state = .ok next →
        ∃ linked, next.linked = state.linked ++ linked ∧
          List.Forall₂ (Audited tables next.visible) records linked := by
  constructor
  · rintro record rfl resolved table fact member key outcome
    constructor
    · exact fun agrees => exists_of_matches owns resolved.complete member key agrees outcome
    · exact fun found => matches_of_exists member outcome found
  · intro createdById createdAt records state next own running drained done
    apply chunk_audited _ (fun record member => (own record member).2.1) (fun record member => (own record member).2.2)
      drained done
    intro record member
    obtain ⟨rfl, _⟩ := own record member
    exact ⟨owns, running⟩

namespace Sample

def tables : AuditTables where
  attempts := [⟨7, 3, .running⟩]
  jobs := [3]
  intakes := [⟨3, "ERP"⟩]
  attempts_unique := List.nodup_singleton 7

def row : SalesImportStagedRow := resolve Validation.Sample.master (Validation.Sample.row 2 "A-1" "PROD")

def record : StagedRecord := ⟨1, 7, 0, row⟩

def values : SalesValues := ⟨Validation.Sample.day, 1, 1, some 1, none, ⟨2000⟩, ⟨100000⟩, "INR", "ERP", "A-1"⟩

def table : FactTable := FactTable.empty.push values 1 0 List.not_mem_nil

def fact : SalesTransaction := values.stored 1 1 0

def state : LinkState := { visible := [], table := FactTable.empty, collector := { maximum := 10 } }

end Sample

/-- One row of a hospital and no representative, for which the chunk builds the fact. -/
theorem linking_audited_sample :
    (factMatches Sample.row Sample.fact = true ↔
      matchingFactExists Sample.tables Sample.table.facts (Sample.record.linkedTo .reused 1) = true) ∧
    ∃ next linked, linkOrInsertChunk "ERP" 1 0 [Sample.row] Sample.state = .ok next ∧ next.linked = linked ∧
      List.Forall₂ (Audited Sample.tables next.visible) [Sample.record] linked := by
  have owns : Sample.tables.Owns "ERP" 7 :=
    ⟨_, List.mem_singleton_self _, _, List.mem_singleton_self _, rfl, List.mem_singleton_self 3, rfl, rfl⟩
  have passes : sound Validation.Sample.master FactTable.empty.facts "ERP" (Validation.Sample.row 2 "A-1" "PROD") =
      true := by
    decide +kernel
  have resolved : ResolvedBy Validation.Sample.master FactTable.empty "ERP" Sample.record.row := resolvedBy_resolve passes
  obtain ⟨agree, chunk⟩ := linking_audited Validation.Sample.master FactTable.empty "ERP" Sample.tables 7 owns
  refine ⟨agree Sample.record rfl resolved Sample.table Sample.fact (List.mem_singleton_self _) rfl .reused, ?_⟩
  have goes : (linkOrInsertChunk "ERP" 1 0 [Sample.row] Sample.state).isOk = true := by decide +kernel
  cases done : linkOrInsertChunk "ERP" 1 0 [Sample.row] Sample.state with
  | error stop =>
    rw [done] at goes
    cases goes
  | ok next =>
    obtain ⟨linked, whole, audited⟩ := chunk 1 0 [Sample.record] Sample.state next
      (by simpa using ⟨rfl, resolved, rfl⟩) rfl rfl done
    exact ⟨next, linked, rfl, whole, audited⟩

end PharmaIntel.StagedRowAudit
