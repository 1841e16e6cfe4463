import Mathlib
import PharmaIntel.RowStream
import PharmaIntel.Collector

/-! Staging one file: the results of the row contract become staged rows and issues,
handed to the database in parse batches with running counters. -/

namespace PharmaIntel.Staging
open PharmaIntel.Base PharmaIntel.PyText PharmaIntel.Contracts PharmaIntel.Models PharmaIntel.Collector

structure Progress where
  totalRows : Nat := 0
  validRows : Nat := 0
  invalidRows : Nat := 0
  issueCount : Nat := 0
  deriving DecidableEq, Repr

def Progress.counts (progress : Progress) (insertedRows reusedRows : Nat) : SalesImportJobCounts :=
  ⟨progress.totalRows, progress.validRows, progress.invalidRows, progress.issueCount, insertedRows,
    reusedRows⟩

/-- Storing a decimal in a column with `places` decimals; the server rounds what does
not fit, halves away from zero. -/
def toNumeric (places : Nat) (d : Decimal) : Numeric places :=
  let shift := d.exponent + places
  let magnitude :=
    if 0 ≤ shift then d.coefficient * 10 ^ shift.toNat
    else (2 * d.coefficient + 10 ^ shift.natAbs) / (2 * 10 ^ shift.natAbs)
  ⟨if d.sign then -(magnitude : Int) else magnitude⟩

def stagedRow (rowNumber : Nat) (row : SalesRowV1) : SalesImportStagedRow where
  rowNumber := rowNumber
  sourceRecordId := row.sourceRecordId
  transactionDate := row.transactionDate
  productCode := row.productCode
  territoryCode := row.territoryCode
  hospitalCode := row.hospitalCode.getD ""
  salesRepresentativeCode := row.salesRepresentativeCode.getD ""
  quantity := toNumeric 3 row.quantity
  revenueAmount := toNumeric 4 row.revenueAmount
  currencyCode := row.currencyCode

def contractIssue (i : SalesRowIssue) : SalesImportIssue :=
  ⟨i.rowNumber, i.column, i.code.value, i.message, .contract⟩

/-- The arguments of one `_record_parse_batch` call. -/
structure ParseBatch where
  stagedRows : List SalesImportStagedRow
  issues : List SalesImportIssue
  progress : Progress
  deriving DecidableEq

/-- The local variables of the staging loop. -/
structure Loop where
  progress : Progress := {}
  collector : IssueCollector
  pendingRows : List SalesImportStagedRow := []

/-- One result of the generator. -/
def Loop.take (s : Loop) (result : SalesRowValidationResult) : Loop :=
  match result.isValid, result.row with
  | true, some row =>
      { s with
        progress := { s.progress with
          totalRows := s.progress.totalRows + 1
          validRows := s.progress.validRows + 1 }
        pendingRows := s.pendingRows ++ [stagedRow result.rowNumber row] }
  | _, _ =>
      { s with
        progress := { s.progress with
          totalRows := s.progress.totalRows + 1
          invalidRows := s.progress.invalidRows + 1
          issueCount := (s.collector.addAll (result.issues.map contractIssue)).total }
        collector := s.collector.addAll (result.issues.map contractIssue) }

/-- The batch handed out when the row count reaches a multiple of the batch size. -/
def Loop.batch (s : Loop) : ParseBatch := ⟨s.pendingRows, s.collector.drain.1, s.progress⟩

def Loop.flushed (s : Loop) : Loop := { s with collector := s.collector.drain.2, pendingRows := [] }

def stageResults (chunkSize : Nat) (s : Loop) : List SalesRowValidationResult → List ParseBatch × Loop
  | [] => ([], s)
  | result :: rest =>
      if (s.take result).progress.totalRows % chunkSize = 0 then
        let later := stageResults chunkSize (s.take result).flushed rest
        ((s.take result).batch :: later.1, later.2)
      else stageResults chunkSize (s.take result) rest

/-- The issue that refuses the file as a whole. -/
def fileIssues : RowsEnd → List SalesImportIssue
  | .contractError error => [⟨none, "__file__", error.code.value, error.message, .contract⟩]
  | .unicodeDecodeError =>
      [⟨none, "__file__", "FILE_ENCODING_INVALID", "The CSV must contain valid UTF-8 text.", .contract⟩]
  | .finished => []
  | .valueError _ => []

/-- The last batch, with the summary of truncated details. -/
def Loop.finish (s : Loop) (ending : RowsEnd) : ParseBatch :=
  let collector := s.collector.addAll (fileIssues ending)
  ⟨s.pendingRows, collector.persisted, { s.progress with issueCount := collector.total }⟩

/-- Everything `_stage_csv` hands to `_record_parse_batch`, and what it returns when
every call succeeds: the progress and whether the file is rejected. -/
def stageCsv (settings : Settings) (ucd : UnicodeDatabase) (stream : Csv.TextStream) :
    List ParseBatch × Except PyError (Progress × Bool) :=
  let (results, ending) := iterSalesRowsV1Csv ucd stream settings.maxRows
  let (batches, s) := stageResults settings.dbBatchSize
    { collector := { maximum := settings.maxIssues } } results
  match ending with
  | .valueError message => (batches, .error (.valueError message))
  | ending =>
      (batches ++ [s.finish ending],
        .ok ((s.finish ending).progress, !(fileIssues ending).isEmpty || 0 < s.progress.invalidRows))

/-! ## What the loop has done after some results -/

def contractIssues (results : List SalesRowValidationResult) : List SalesImportIssue :=
  results.flatMap (fun result => result.issues.map contractIssue)

def acceptedRows (results : List SalesRowValidationResult) : List SalesImportStagedRow :=
  results.filterMap (fun result => result.row.map (stagedRow result.rowNumber))

def progressOf (results : List SalesRowValidationResult) : Progress :=
  ⟨results.length, results.countP SalesRowValidationResult.isValid,
    results.countP (fun result => !result.isValid), (contractIssues results).length⟩

@[simp] theorem contractIssues_append (first second : List SalesRowValidationResult) :
    contractIssues (first ++ second) = contractIssues first ++ contractIssues second :=
  List.flatMap_append

@[simp] theorem acceptedRows_append (first second : List SalesRowValidationResult) :
    acceptedRows (first ++ second) = acceptedRows first ++ acceptedRows second :=
  List.filterMap_append

theorem progressOf_balanced (results : List SalesRowValidationResult) :
    (progressOf results).totalRows = (progressOf results).validRows + (progressOf results).invalidRows := by
  have split := List.length_eq_countP_add_countP SalesRowValidationResult.isValid (l := results)
  simpa [progressOf] using split

theorem judged_invalid {ucd : UnicodeDatabase} {width : Nat} {result : SalesRowValidationResult}
    (judged : Judged ucd width result) (invalid : result.isValid = false) : result.issues ≠ [] := by
  cases judged with
  | accepted accepted => simp [SalesRowValidationResult.isValid] at invalid
  | refused nonempty from_row => exact nonempty
  | miscounted expected found => simp [columnCountResult]

theorem progressOf_covered {ucd : UnicodeDatabase} {width : Nat}
    (results : List SalesRowValidationResult) (judged : ∀ result ∈ results, Judged ucd width result) :
    (progressOf results).invalidRows ≤ (progressOf results).issueCount := by
  simp only [progressOf]
  induction results with
  | nil => simp
  | cons result rest ih =>
    have later := ih (fun other member => judged other (List.mem_cons_of_mem result member))
    have here := judged_invalid (judged result List.mem_cons_self)
    rw [List.countP_cons, contractIssues, List.flatMap_cons, List.length_append, List.length_map,
      ← contractIssues]
    by_cases valid : result.isValid = true
    · simp only [valid]
      simp only [Bool.not_true, Bool.false_eq_true, if_false]
      omega
    · have issues := List.length_pos_of_ne_nil (here (by simpa using valid))
      simp only [valid]
      simp only [Bool.not_false, if_true]
      omega

/-- After the results `past`, with `batches` handed out. -/
structure StagedSoFar (maximum : Nat) (past : List SalesRowValidationResult)
    (batches : List ParseBatch) (s : Loop) : Prop where
  rows : batches.flatMap ParseBatch.stagedRows ++ s.pendingRows = acceptedRows past
  tracks : IssueCollector.Tracks s.collector (contractIssues past) (batches.flatMap ParseBatch.issues)
  maximum : s.collector.maximum = maximum
  progress : s.progress = progressOf past
  pending : ∀ key ∈ s.collector.pendingIdentities,
    key.1 ∈ past.map (fun result => some result.rowNumber)
  reports : ∀ batch ∈ batches, ∃ front, front <+: past ∧ batch.progress = progressOf front

theorem staged_initial (maximum : Nat) : StagedSoFar maximum [] [] { collector := { maximum } } where
  rows := rfl
  tracks := IssueCollector.tracks_initial maximum
  maximum := rfl
  progress := rfl
  pending := by simp
  reports := by simp

/-- Where the identities of a result's issues come from. -/
theorem judged_identities {ucd : UnicodeDatabase} {width : Nat} {result : SalesRowValidationResult}
    (judged : Judged ucd width result) :
    ((result.issues.map contractIssue).map identity).Nodup ∧
      ∀ issue ∈ result.issues.map contractIssue, issue.rowNumber = some result.rowNumber := by
  cases judged with
  | accepted accepted => simp
  | @refused rowNumber issues nonempty from_row =>
    refine ⟨?_, ?_⟩
    · have distinct : (issues.map issueKey).Nodup :=
        List.Nodup.sublist from_row.keys (by decide)
      rw [List.map_map]
      rw [List.nodup_map_iff_inj_on distinct.of_map]
      rintro first here second there same
      simp only [Function.comp, identity, contractIssue, Prod.mk.injEq] at same
      have codes : first.code = second.code := by
        cases h : first.code <;> cases k : second.code <;> simp [h, k, SalesContractIssueCode.value] at same ⊢
      exact List.inj_on_of_nodup_map distinct here there (Prod.ext same.2.1 codes)
    · intro issue member
      obtain ⟨origin, here, rfl⟩ := List.mem_map.mp member
      exact from_row.rowNumber origin here
  | miscounted expected found => simp [columnCountResult, issue, contractIssue]

theorem take_staged {ucd : UnicodeDatabase} {width maximum : Nat}
    {past : List SalesRowValidationResult} {batches : List ParseBatch} {s : Loop}
    (staged : StagedSoFar maximum past batches s) {result : SalesRowValidationResult}
    (judged : Judged ucd width result)
    (apart : result.rowNumber ∉ past.map SalesRowValidationResult.rowNumber) :
    StagedSoFar maximum (past ++ [result]) batches (s.take result) := by
  have reports : ∀ batch ∈ batches, ∃ front, front <+: past ++ [result] ∧ batch.progress = progressOf front := by
    intro batch member
    obtain ⟨front, lead, same⟩ := staged.reports batch member
    exact ⟨front, lead.trans (List.prefix_append past [result]), same⟩
  have pending : ∀ key ∈ s.collector.pendingIdentities,
      key.1 ∈ (past ++ [result]).map (fun result => some result.rowNumber) := by
    intro key member
    rw [List.map_append]
    exact List.mem_append_left _ (staged.pending key member)
  cases valid : result.isValid with
  | true =>
    have parts := valid
    simp only [SalesRowValidationResult.isValid, Bool.and_eq_true, List.isEmpty_iff] at parts
    obtain ⟨row, found⟩ := Option.isSome_iff_exists.mp parts.1
    have issues : contractIssues (past ++ [result]) = contractIssues past := by
      rw [contractIssues_append]
      simp [contractIssues, parts.2]
    simp only [Loop.take, valid, found]
    refine ⟨?_, ?_, staged.maximum, ?_, pending, reports⟩
    · rw [acceptedRows_append, ← staged.rows]
      simp [acceptedRows, found]
    · rw [issues]
      exact staged.tracks
    · rw [staged.progress]
      simp [progressOf, issues, valid]
  | false =>
    obtain ⟨distinct, ofRow⟩ := judged_identities judged
    have fresh : IssueCollector.Fresh s.collector (result.issues.map contractIssue) := by
      refine ⟨distinct, ?_⟩
      intro issue member known
      have earlier := staged.pending _ known
      rw [identity, ofRow issue member] at earlier
      simp only [List.mem_map, Option.some.injEq] at earlier apart
      exact apart earlier
    have issues : contractIssues (past ++ [result]) =
        contractIssues past ++ result.issues.map contractIssue := by
      rw [contractIssues_append]
      simp [contractIssues]
    have row : result.row = none := by
      cases judged with
      | accepted accepted => simp [SalesRowValidationResult.isValid] at valid
      | refused nonempty from_row => rfl
      | miscounted expected found => rfl
    simp only [Loop.take, valid, row]
    refine ⟨?_, ?_, ?_, ?_, ?_, reports⟩
    · rw [acceptedRows_append, ← staged.rows]
      simp [acceptedRows, row]
    · rw [issues]
      exact staged.tracks.addAll_fresh fresh
    · rw [IssueCollector.addAll_maximum]
      exact staged.maximum
    · rw [staged.progress, IssueCollector.addAll_total fresh, staged.tracks.total]
      simp [progressOf, issues, valid]
    · intro key member
      rcases (IssueCollector.mem_addAll_pending fresh key).mp member with earlier | added
      · exact pending key earlier
      · obtain ⟨issue, here, rfl⟩ := List.mem_map.mp added
        rw [identity, ofRow issue here]
        simp

theorem flush_staged {maximum : Nat} {past : List SalesRowValidationResult}
    {batches : List ParseBatch} {s : Loop} (staged : StagedSoFar maximum past batches s) :
    StagedSoFar maximum past (batches ++ [s.batch]) s.flushed where
  rows := by simpa [Loop.batch, Loop.flushed] using staged.rows
  tracks := by simpa [Loop.batch, Loop.flushed, IssueCollector.drain] using staged.tracks.drain
  maximum := staged.maximum
  progress := staged.progress
  pending := by simp [Loop.flushed, IssueCollector.drain]
  reports := by
    intro batch member
    rcases List.mem_append.mp member with earlier | last
    · exact staged.reports batch earlier
    · rw [List.mem_singleton.mp last]
      exact ⟨past, List.prefix_refl past, staged.progress⟩

/-- The loop keeps pace with the results, whatever the batch size. -/
theorem stageResults_staged {ucd : UnicodeDatabase} {width maximum : Nat} (chunkSize : Nat)
    (results past : List SalesRowValidationResult) {batches : List ParseBatch} {s : Loop}
    (staged : StagedSoFar maximum past batches s)
    (judged : ∀ result ∈ results, Judged ucd width result)
    (increasing : ((past ++ results).map SalesRowValidationResult.rowNumber).Nodup) :
    StagedSoFar maximum (past ++ results) (batches ++ (stageResults chunkSize s results).1)
      (stageResults chunkSize s results).2 := by
  induction results generalizing past batches s with
  | nil => simpa [stageResults] using staged
  | cons result rest ih =>
    have apart : result.rowNumber ∉ past.map SalesRowValidationResult.rowNumber := by
      rw [List.map_append, List.nodup_append] at increasing
      intro known
      exact increasing.2.2 _ known _ (by simp) rfl
    have taken := take_staged staged (judged result List.mem_cons_self) apart
    have judged_rest : ∀ other ∈ rest, Judged ucd width other :=
      fun other member => judged other (List.mem_cons_of_mem result member)
    have increasing_rest :
        (((past ++ [result]) ++ rest).map SalesRowValidationResult.rowNumber).Nodup := by
      simpa using increasing
    rw [stageResults]
    by_cases full : (s.take result).progress.totalRows % chunkSize = 0
    · rw [if_pos full]
      have later := ih (past ++ [result]) (flush_staged taken) judged_rest increasing_rest
      simpa using later
    · rw [if_neg full]
      have later := ih (past ++ [result]) taken judged_rest increasing_rest
      simpa using later

/-! ## The whole file -/

theorem yieldRows_end (ucd : UnicodeDatabase) (headers : List String) (ending : Csv.Ending)
    (v : SalesRowsV1Validator) (records : List Csv.Record) (message : String) :
    (yieldRows ucd headers ending v records).2 ≠ .valueError message := by
  induction records generalizing v with
  | nil =>
    rw [yieldRows]
    cases ending with
    | endOfFile =>
      simp only [rowsEnd]
      split_ifs <;> simp
    | malformed lineNum => simp [rowsEnd, malformed]
    | undecodable => simp [rowsEnd]
  | cons record rest ih =>
    rw [yieldRows]
    split_ifs
    · exact ih v
    · cases recordResult ucd headers v record with
      | error e => simp
      | ok pair => exact ih pair.2

/-- A positive row limit never makes the validator refuse to start. -/
theorem iterSalesRowsV1Csv_end (ucd : UnicodeDatabase) (stream : Csv.TextStream) {maxRows : Nat}
    (positive : 1 ≤ maxRows) (message : String) :
    (iterSalesRowsV1Csv ucd stream maxRows).2 ≠ .valueError message := by
  unfold iterSalesRowsV1Csv
  split
  · simp
  · simp [malformed]
  · simp
  · rename_i header rest ending read
    cases validateSalesHeaders header.cells with
    | error e => simp
    | ok headers =>
      dsimp only
      rw [if_neg (by omega)]
      exact yieldRows_end ucd headers ending _ rest message

section File
variable (settings : Settings) (ucd : UnicodeDatabase) (stream : Csv.TextStream)

def results : List SalesRowValidationResult := (iterSalesRowsV1Csv ucd stream settings.maxRows).1
def ending : RowsEnd := (iterSalesRowsV1Csv ucd stream settings.maxRows).2

/-- Every issue of the file, in the order in which it is counted. -/
def countedIssues : List SalesImportIssue :=
  contractIssues (results settings ucd stream) ++ fileIssues (ending settings ucd stream)

/-- The loop after the last result. -/
def lastLoop : List ParseBatch × Loop :=
  stageResults settings.dbBatchSize { collector := { maximum := settings.maxIssues } }
    (results settings ucd stream)

theorem results_facts : ResultFacts ucd stream (results settings ucd stream) :=
  iterSalesRowsV1Csv_facts ucd stream settings.maxRows

theorem stageCsv_eq :
    stageCsv settings ucd stream =
      let batches := (lastLoop settings ucd stream).1
      let last := (lastLoop settings ucd stream).2.finish (ending settings ucd stream)
      (batches ++ [last], .ok (last.progress, !(fileIssues (ending settings ucd stream)).isEmpty ||
        0 < (lastLoop settings ucd stream).2.progress.invalidRows)) := by
  have proper := iterSalesRowsV1Csv_end ucd stream settings.maxRows_positive
  unfold stageCsv lastLoop results ending
  cases file : iterSalesRowsV1Csv ucd stream settings.maxRows with
  | mk results ending =>
    rw [file] at proper
    cases ending with
    | finished => rfl
    | contractError error => rfl
    | unicodeDecodeError => rfl
    | valueError message => exact absurd rfl (proper message)

theorem lastLoop_staged :
    StagedSoFar settings.maxIssues (results settings ucd stream) (lastLoop settings ucd stream).1
      (lastLoop settings ucd stream).2 := by
  have facts := results_facts settings ucd stream
  have distinct : ((results settings ucd stream).map SalesRowValidationResult.rowNumber).Nodup :=
    facts.increasing.imp (fun less => less.ne)
  have staged := stageResults_staged settings.dbBatchSize (results settings ucd stream) []
    (staged_initial settings.maxIssues) facts.judged (by simpa using distinct)
  simpa [lastLoop] using staged

/-- The loop's collector once the file issue has been added. -/
def lastCollector : IssueCollector :=
  (lastLoop settings ucd stream).2.collector.addAll (fileIssues (ending settings ucd stream))

theorem fileIssues_fresh :
    IssueCollector.Fresh (lastLoop settings ucd stream).2.collector
      (fileIssues (ending settings ucd stream)) := by
  have pending := (lastLoop_staged settings ucd stream).pending
  have unnumbered : ∀ issue ∈ fileIssues (ending settings ucd stream), issue.rowNumber = none := by
    cases ending settings ucd stream <;> simp [fileIssues]
  refine ⟨?_, ?_⟩
  · cases ending settings ucd stream <;> simp [fileIssues]
  · intro issue member known
    have numbered := pending _ known
    rw [identity, unnumbered issue member] at numbered
    simp at numbered

theorem lastCollector_tracks :
    IssueCollector.Tracks (lastCollector settings ucd stream) (countedIssues settings ucd stream)
      ((lastLoop settings ucd stream).1.flatMap ParseBatch.issues) :=
  (lastLoop_staged settings ucd stream).tracks.addAll_fresh (fileIssues_fresh settings ucd stream)

theorem lastCollector_maximum : (lastCollector settings ucd stream).maximum = settings.maxIssues := by
  rw [lastCollector, IssueCollector.addAll_maximum]
  exact (lastLoop_staged settings ucd stream).maximum

def batches : List ParseBatch := (stageCsv settings ucd stream).1

theorem batches_eq :
    batches settings ucd stream = (lastLoop settings ucd stream).1 ++
      [(lastLoop settings ucd stream).2.finish (ending settings ucd stream)] := by
  rw [batches, stageCsv_eq]

/-- The staged rows handed out are the accepted results, in order and once each. -/
theorem batches_rows :
    (batches settings ucd stream).flatMap ParseBatch.stagedRows =
      acceptedRows (results settings ucd stream) := by
  rw [batches_eq, List.flatMap_append, List.flatMap_singleton]
  exact (lastLoop_staged settings ucd stream).rows

theorem batches_issues :
    (batches settings ucd stream).flatMap ParseBatch.issues =
      (lastLoop settings ucd stream).1.flatMap ParseBatch.issues ++
        (lastCollector settings ucd stream).persisted := by
  rw [batches_eq, List.flatMap_append, List.flatMap_singleton]
  rfl

/-- The last report counts every result and every issue. -/
theorem finish_progress :
    ((lastLoop settings ucd stream).2.finish (ending settings ucd stream)).progress =
      { progressOf (results settings ucd stream) with
        issueCount := (countedIssues settings ucd stream).length } := by
  have total : (lastCollector settings ucd stream).total =
      (countedIssues settings ucd stream).length := (lastCollector_tracks settings ucd stream).total
  have progress := (lastLoop_staged settings ucd stream).progress
  rw [Loop.finish, ← lastCollector, total, progress]

/-- Every report adds up and names at least one issue for each invalid row. -/
theorem batches_progress :
    ∀ batch ∈ batches settings ucd stream,
      batch.progress.totalRows = batch.progress.validRows + batch.progress.invalidRows ∧
        batch.progress.invalidRows ≤ batch.progress.issueCount := by
  have facts := results_facts settings ucd stream
  intro batch member
  rw [batches_eq] at member
  rcases List.mem_append.mp member with earlier | last
  · obtain ⟨front, lead, same⟩ := (lastLoop_staged settings ucd stream).reports batch earlier
    rw [same]
    exact ⟨progressOf_balanced front,
      progressOf_covered front (fun result inside => facts.judged result (lead.subset inside))⟩
  · rw [List.mem_singleton.mp last, finish_progress]
    have covered := progressOf_covered _ facts.judged
    refine ⟨progressOf_balanced _, ?_⟩
    simp only [countedIssues, List.length_append, progressOf] at covered ⊢
    omega

/-- The file is rejected exactly when something has been counted. -/
theorem rejected_iff :
    (!(fileIssues (ending settings ucd stream)).isEmpty ||
        decide (0 < (lastLoop settings ucd stream).2.progress.invalidRows)) = true ↔
      countedIssues settings ucd stream ≠ [] := by
  have facts := results_facts settings ucd stream
  rw [(lastLoop_staged settings ucd stream).progress, countedIssues]
  have covered := progressOf_covered _ facts.judged
  have none : (progressOf (results settings ucd stream)).invalidRows = 0 →
      contractIssues (results settings ucd stream) = [] := by
    intro zero
    simp only [progressOf, List.countP_eq_zero] at zero
    rw [contractIssues, List.flatMap_eq_nil_iff]
    intro result member
    have valid := zero result member
    simp only [Bool.not_eq_true', Bool.not_eq_false, SalesRowValidationResult.isValid, Bool.and_eq_true,
      List.isEmpty_iff] at valid
    rw [valid.2, List.map_nil]
  have issues : (progressOf (results settings ucd stream)).issueCount =
      (contractIssues (results settings ucd stream)).length := rfl
  by_cases empty : fileIssues (ending settings ucd stream) = []
  · rw [empty]
    rw [List.isEmpty_nil, Bool.not_true, Bool.false_or, List.append_nil, decide_eq_true_eq]
    refine ⟨?_, ?_⟩
    · intro positive clean
      rw [clean, List.length_nil] at issues
      omega
    · intro counted
      by_contra zero
      exact counted (none (by omega))
  · simp [empty]

end File

end PharmaIntel.Staging
