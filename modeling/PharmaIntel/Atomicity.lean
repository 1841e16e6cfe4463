import Mathlib
import PharmaIntel.Linking
import PharmaIntel.QueueRules

/-! A publication that commits is all or nothing: every row is linked and the absent
ones are inserted, or some row fails and the facts and the links stay as they were. -/

namespace PharmaIntel.Publication
open PharmaIntel.Base PharmaIntel.Models PharmaIntel.Collector PharmaIntel.Constraints
  PharmaIntel.Validation PharmaIntel.Queue

/-! ## Sound rows can be linked -/

theorem sound_iff {master : MasterData} {facts : List SalesTransaction} {sourceSystem : String}
    {row : SalesImportStagedRow} :
    sound master facts sourceSystem row = true ↔
      rowMasterIssues master row = [] ∧ rowConflicts master facts sourceSystem row = false := by
  unfold sound rowIssues
  by_cases clean : rowMasterIssues master row = []
  · by_cases differs : rowConflicts master facts sourceSystem row = true
    · simp [clean, differs]
    · simp [clean, differs]
  · simp [clean]

theorem references_found {master : MasterData} {row : SalesImportStagedRow}
    (clean : rowMasterIssues master row = []) :
    (references master row).calendar = some row.transactionDate ∧
      (references master row).product.isSome ∧ (references master row).territory.isSome := by
  simp only [rowMasterIssues, referenceIssues, List.append_eq_nil_iff] at clean
  obtain ⟨⟨⟨⟨⟨calendar, product⟩, territory⟩, _⟩, _⟩, _⟩ := clean
  refine ⟨?_, ?_, ?_⟩
  · by_contra missing
    have gone : (references master row).calendar = none := by
      simp only [references] at missing ⊢
      split_ifs at missing ⊢ with known
      · exact absurd rfl missing
      · rfl
    simp [gone] at calendar
  · rw [Option.isSome_iff_ne_none]
    intro gone
    simp [gone] at product
  · rw [Option.isSome_iff_ne_none]
    intro gone
    simp [gone, territoryIssues] at territory

theorem newFact_resolve {master : MasterData} {row : SalesImportStagedRow} (sourceSystem : String)
    (clean : rowMasterIssues master row = []) :
    ∃ values, newFact sourceSystem (resolve master row) = some values ∧
      values.calendarDateId = row.transactionDate := by
  obtain ⟨calendar, product, territory⟩ := references_found clean
  obtain ⟨product, foundProduct⟩ := Option.isSome_iff_exists.mp product
  obtain ⟨territory, foundTerritory⟩ := Option.isSome_iff_exists.mp territory
  refine ⟨⟨row.transactionDate, product.pk, territory.pk, (resolve master row).hospitalId,
    (resolve master row).salesRepresentativeId, row.quantity, row.revenueAmount, row.currencyCode,
    sourceSystem, row.sourceRecordId⟩, ?_, rfl⟩
  simp [newFact, resolve, resolvedRow, calendar, foundProduct, foundTerritory]

theorem sound_ready {master : MasterData} {facts : List SalesTransaction} {sourceSystem : String}
    (unique : (facts.map SalesTransaction.key).Nodup) {row : SalesImportStagedRow}
    (passes : sound master facts sourceSystem row = true) :
    Ready sourceSystem facts (resolve master row) := by
  obtain ⟨clean, agrees⟩ := sound_iff.mp passes
  refine ⟨?_, ?_⟩
  · obtain ⟨values, built, _⟩ := newFact_resolve sourceSystem clean
    rw [built]
    rfl
  · intro fact member key
    have found : findBy SalesTransaction.key (sourceSystem, row.sourceRecordId) facts = some fact := by
      rw [← findBy_of_mem unique member, key]
      rfl
    by_contra differs
    have conflict := (rowConflicts_iff master facts sourceSystem row).mpr
      ⟨fact, found, by simpa using differs⟩
    rw [conflict] at agrees
    exact absurd agrees (by decide)

/-! ## The validation of the rows in file order -/

section Run
variable (settings : Settings) (store : Store) (intake : SalesImport) (rows : List SalesImportStagedRow)

/-- Every row passes every check against the tables of the store. -/
def AllSound : Prop :=
  ∀ row ∈ rows, sound store.master store.factTable.facts intake.sourceSystem row = true

variable {rows}

theorem validateBatches_sorted (distinct : (rows.map SalesImportStagedRow.rowNumber).Nodup) :
    ∃ checked, validateBatches store.master store.factTable.facts intake.sourceSystem
        { collector := { maximum := settings.maxIssues } }
        (batched settings.dbBatchSize (inRowOrder rows)) = .ok checked ∧
      Validated store.master store.factTable.facts intake.sourceSystem settings.maxIssues
        (inRowOrder rows) checked := by
  have partition := batched_partition settings.dbBatchSize (inRowOrder rows)
  have numbers : ((batched settings.dbBatchSize (inRowOrder rows)).flatten.map
      SalesImportStagedRow.rowNumber).Nodup := by
    rw [partition.flatten]
    exact ((inRowOrder_perm rows).map SalesImportStagedRow.rowNumber).nodup_iff.mpr distinct
  have run := validateBatches_validated store.factTable.keys_nodup settings.maxIssues _ []
    { collector := { maximum := settings.maxIssues } } partition.nonempty numbers
    (validated_initial store.master store.factTable.facts intake.sourceSystem settings.maxIssues)
  rwa [List.nil_append, partition.flatten] at run

variable {store intake}

theorem saveRows_resolved (distinct : (rows.map SalesImportStagedRow.rowNumber).Nodup)
    {checked : ValidationState} {maximum : Nat}
    (validated : Validated store.master store.factTable.facts intake.sourceSystem maximum
      (inRowOrder rows) checked) :
    saveRows checked.resolved copyReferences rows = rows.map (fun row =>
      if sound store.master store.factTable.facts intake.sourceSystem row then
        resolve store.master row else row) := by
  rw [validated.resolved]
  exact saveRows_filter (inRowOrder_perm rows) (fun _ => rfl) distinct

theorem total_zero_iff {checked : ValidationState} {maximum : Nat}
    (validated : Validated store.master store.factTable.facts intake.sourceSystem maximum
      (inRowOrder rows) checked) : checked.collector.total = 0 ↔ AllSound store intake rows := by
  rw [validated.tracks.total, List.length_eq_zero_iff, List.flatMap_eq_nil_iff]
  constructor
  · intro silent row member
    exact List.isEmpty_iff.mpr (silent row ((inRowOrder_perm rows).mem_iff.mpr member))
  · intro passes row member
    exact List.isEmpty_iff.mp (passes row ((inRowOrder_perm rows).mem_iff.mp member))

theorem resolved_sound (distinct : (rows.map SalesImportStagedRow.rowNumber).Nodup)
    {checked : ValidationState} {maximum : Nat}
    (validated : Validated store.master store.factTable.facts intake.sourceSystem maximum
      (inRowOrder rows) checked) (passes : AllSound store intake rows) :
    saveRows checked.resolved copyReferences rows = rows.map (resolve store.master) := by
  rw [saveRows_resolved distinct validated]
  apply List.map_congr_left
  intro row member
  rw [if_pos (passes row member)]

/-- What the second pass is handed: the rows in file order, resolved and ready to be linked. -/
theorem sound_sorted (ids : (rows.map SalesImportStagedRow.sourceRecordId).Nodup)
    (passes : AllSound store intake rows) :
    inRowOrder (rows.map (resolve store.master)) = (inRowOrder rows).map (resolve store.master) ∧
      (((inRowOrder rows).map (resolve store.master)).map SalesImportStagedRow.sourceRecordId).Nodup ∧
      ∀ row ∈ (inRowOrder rows).map (resolve store.master),
        Ready intake.sourceSystem store.factTable.facts row := by
  have perm := inRowOrder_perm rows
  refine ⟨inRowOrder_map (resolve store.master) (fun _ => rfl) _, ?_, ?_⟩
  · rw [List.map_map]
    exact (perm.map SalesImportStagedRow.sourceRecordId).nodup_iff.mpr ids
  · intro row listed
    obtain ⟨origin, inside, rfl⟩ := List.mem_map.mp listed
    exact sound_ready store.factTable.keys_nodup (passes origin (perm.mem_iff.mp inside))

/-- What the first pass has counted does not depend on the order of the rows. -/
theorem validated_counts {checked : ValidationState} {maximum : Nat}
    (validated : Validated store.master store.factTable.facts intake.sourceSystem maximum
      (inRowOrder rows) checked) :
    checked.invalidRows = rows.countP
        (fun row => !sound store.master store.factTable.facts intake.sourceSystem row) ∧
      checked.collector.total = (rows.flatMap
        (rowIssues store.master store.factTable.facts intake.sourceSystem)).length := by
  have perm := inRowOrder_perm rows
  constructor
  · rw [validated.invalidRows]
    exact perm.countP_eq _
  · rw [validated.tracks.total]
    exact (perm.flatMap_right _).length_eq

end Run

/-! ## The two ends -/

/-- The rest of the store is as it was. -/
structure Elsewhere (store next : Store) (jobId : Uuid) : Prop where
  master : next.master = store.master
  imports : ∀ other, other ≠ jobId → findImport next other = findImport store other

/-- Every row is linked, and the facts are the old ones and one for each absent key. -/
structure PublishedRun (store next : Store) (jobId : Uuid) (intake : SalesImport)
    (attempt : SalesImportAttempt) (times : PublicationTimes) (finalJob : SalesImportJob)
    (finalAttempt : SalesImportAttempt) (added : List SalesTransaction) : Prop where
  jobSaved : findJob next jobId = some finalJob
  attemptSaved : finalAttempt ∈ finalJob.attempts ∧ finalAttempt.id = attempt.id
  status : finalJob.status = .published ∧ finalAttempt.outcome = .published
  facts : next.factTable.facts = store.factTable.facts ++ added
  values : added.map (fun fact => some fact.values) =
    ((inRowOrder attempt.stagedRows).filter (absent intake.sourceSystem store.factTable.facts)).map
      (fun row => newFact intake.sourceSystem (resolve store.master row))
  stamped : ∀ fact ∈ added, fact.createdById = intake.uploadedById ∧ fact.createdAt = times.createdAt
  rows : List.Forall₂ (fun row finalRow => LinksTo intake.sourceSystem store.factTable.facts added
    (resolve store.master row) finalRow) attempt.stagedRows finalAttempt.stagedRows
  jobCounts : finalJob.counts = publicationCounts attempt.stagedRows.length added.length
    (attempt.stagedRows.countP
      (fun row => !absent intake.sourceSystem store.factTable.facts row))
  attemptCounts : finalAttempt.counts = finalJob.counts
  balance : finalJob.counts.insertedRows + finalJob.counts.reusedRows = finalJob.counts.validRows ∧
    finalJob.counts.validRows = finalJob.counts.totalRows
  elsewhere : Elsewhere store next jobId

/-- No fact and no link is new, and the counters name the failing rows. -/
structure RejectedRun (store next : Store) (jobId : Uuid) (intake : SalesImport)
    (attempt : SalesImportAttempt) (finalJob : SalesImportJob) (finalAttempt : SalesImportAttempt) :
    Prop where
  jobSaved : findJob next jobId = some finalJob
  attemptSaved : finalAttempt ∈ finalJob.attempts ∧ finalAttempt.id = attempt.id
  status : finalJob.status = .rejected ∧ finalAttempt.outcome = .rejected
  facts : next.factTable = store.factTable
  rows : finalAttempt.stagedRows = attempt.stagedRows.map (fun row =>
    if sound store.master store.factTable.facts intake.sourceSystem row then
      resolve store.master row else row)
  unlinked : ∀ row ∈ finalAttempt.stagedRows, row.outcome = .staged ∧ row.salesTransactionId = none
  jobCounts : finalJob.counts = rejectionCounts attempt.stagedRows.length
    (attempt.stagedRows.countP
      (fun row => !sound store.master store.factTable.facts intake.sourceSystem row))
    (attempt.stagedRows.flatMap
      (rowIssues store.master store.factTable.facts intake.sourceSystem)).length
  attemptCounts : finalAttempt.counts = finalJob.counts
  failing : 0 < finalJob.counts.invalidRows
  elsewhere : Elsewhere store next jobId

theorem finishLockedJob_ok {jobId : Uuid} {job : SalesImportJob} {attempt : SalesImportAttempt}
    {status : SalesImportJob.Status} {outcome : SalesImportAttempt.Outcome}
    {counts : SalesImportJobCounts} {errorCode errorMessage : String} {finishedAt : Instant}
    {store : Store} (valid : CountsValid counts (status = .published) (status = .rejected)) :
    finishLockedJob jobId job attempt status outcome counts errorCode errorMessage finishedAt store =
      .ok (⟨jobId, status, counts⟩, saveJob store jobId (saveAttempt
        (finishedJob job status counts errorCode errorMessage finishedAt)
        (finishedAttempt attempt status outcome counts errorCode errorMessage finishedAt))) := by
  rw [finishLockedJob, (validateFor_ok counts status).mpr valid]

theorem finishLockedJob_inv {jobId : Uuid} {job : SalesImportJob} {attempt : SalesImportAttempt}
    {status : SalesImportJob.Status} {outcome : SalesImportAttempt.Outcome}
    {counts : SalesImportJobCounts} {errorCode errorMessage : String} {finishedAt : Instant}
    {store next : Store} {result : SalesImportProcessingResult}
    (done : finishLockedJob jobId job attempt status outcome counts errorCode errorMessage finishedAt
      store = .ok (result, next)) :
    validateFor counts status = .ok () ∧ result = ⟨jobId, status, counts⟩ ∧
      next = saveJob store jobId (saveAttempt
        (finishedJob job status counts errorCode errorMessage finishedAt)
        (finishedAttempt attempt status outcome counts errorCode errorMessage finishedAt)) := by
  unfold finishLockedJob at done
  cases valid : validateFor counts status with
  | error e => simp [valid] at done
  | ok passed =>
    simp only [valid, Except.ok.injEq, Prod.mk.injEq] at done
    exact ⟨rfl, done.1.symm, done.2.symm⟩

theorem elsewhere_saveJob (store : Store) (jobId : Uuid) (job : SalesImportJob) (table : FactTable) :
    Elsewhere store (saveJob { store with factTable := table } jobId job) jobId :=
  ⟨rfl, fun _ apart => findImport_saveJob_other _ job apart⟩

section Ends
variable (settings : Settings) (times : PublicationTimes) {store : Store} {jobId : Uuid}
  {intake : SalesImport} {job : SalesImportJob} {attempt : SalesImportAttempt}

theorem publicationCounts_valid {totalRows insertedRows reusedRows : Nat}
    (applied : insertedRows + reusedRows = totalRows) :
    CountsValid (publicationCounts totalRows insertedRows reusedRows)
      (SalesImportJob.Status.published = .published) (SalesImportJob.Status.published = .rejected) where
  counts_valid := ⟨rfl, le_rfl⟩
  publish_counts_valid := Or.inl ⟨rfl, rfl, rfl, rfl, applied.symm⟩
  rejection_has_issue := by simp

theorem rejectionCounts_valid {totalRows invalidRows issueCount : Nat} (bounded : invalidRows ≤ totalRows)
    (covered : invalidRows ≤ issueCount) (some : 0 < issueCount) :
    CountsValid (rejectionCounts totalRows invalidRows issueCount)
      (SalesImportJob.Status.rejected = .published) (SalesImportJob.Status.rejected = .rejected) where
  counts_valid := by
    refine ⟨?_, covered⟩
    simp only [rejectionCounts]
    omega
  publish_counts_valid := Or.inr ⟨by decide, rfl, rfl⟩
  rejection_has_issue := fun _ => some

/-- At least one issue for every row that fails. -/
theorem countP_le_issues (master : MasterData) (facts : List SalesTransaction) (sourceSystem : String)
    (rows : List SalesImportStagedRow) :
    rows.countP (fun row => !sound master facts sourceSystem row) ≤
      (rows.flatMap (rowIssues master facts sourceSystem)).length := by
  induction rows with
  | nil => simp
  | cons row rest ih =>
    rw [List.countP_cons, List.flatMap_cons, List.length_append]
    by_cases passes : sound master facts sourceSystem row = true
    · simp only [passes, Bool.not_true, Bool.false_eq_true, if_false]
      omega
    · have issues : 0 < (rowIssues master facts sourceSystem row).length := by
        rw [List.length_pos_iff, ne_eq, ← List.isEmpty_iff]
        exact passes
      simp only [passes, Bool.not_false, if_true]
      omega

/-- Every failing row has a counted issue, so the counters of a rejection balance. -/
theorem validated_rejection {rows : List SalesImportStagedRow} {checked : ValidationState} {maximum : Nat}
    (validated : Validated store.master store.factTable.facts intake.sourceSystem maximum
      (inRowOrder rows) checked) (loud : checked.collector.total ≠ 0) :
    CountsValid (rejectionCounts rows.length checked.invalidRows checked.collector.total)
      (SalesImportJob.Status.rejected = .published) (SalesImportJob.Status.rejected = .rejected) := by
  obtain ⟨invalid, issues⟩ := validated_counts validated
  apply rejectionCounts_valid
  · rw [invalid]
    exact List.countP_le_length
  · rw [invalid, issues]
    exact countP_le_issues _ _ _ _
  · exact Nat.pos_of_ne_zero loud

/-- The second pass over a sound attempt links every row. -/
theorem linkRows_sound {checked : ValidationState} {maximum : Nat}
    (numbers : (attempt.stagedRows.map SalesImportStagedRow.rowNumber).Nodup)
    (ids : (attempt.stagedRows.map SalesImportStagedRow.sourceRecordId).Nodup)
    (passes : AllSound store intake attempt.stagedRows)
    (validated : Validated store.master store.factTable.facts intake.sourceSystem maximum
      (inRowOrder attempt.stagedRows) checked) :
    ∃ added final, linkRows settings (snapshotOf store) intake (validatedAttempt attempt checked)
        checked.collector times.createdAt store = .ok final ∧
      Linked intake.sourceSystem store.factTable.facts intake.uploadedById times.createdAt
        ((inRowOrder attempt.stagedRows).map (resolve store.master)) added final := by
  have staged : (validatedAttempt attempt checked).stagedRows = attempt.stagedRows.map (resolve store.master) :=
    resolved_sound numbers validated passes
  obtain ⟨sorted, sortedIds, ready⟩ := sound_sorted ids passes
  have partition := batched_partition settings.dbBatchSize
    ((inRowOrder attempt.stagedRows).map (resolve store.master))
  have start : Linked intake.sourceSystem store.factTable.facts intake.uploadedById times.createdAt [] []
      { visible := store.factTable.facts, table := store.factTable, collector := checked.collector } :=
    ⟨by simp, by simp, by simp, by simp, List.Forall₂.nil, rfl, rfl⟩
  obtain ⟨added, final, run, linked⟩ := linkBatches_linked _ start
    (by rwa [List.nil_append, partition.flatten]) (by rwa [partition.flatten])
    ((total_zero_iff validated).mpr passes)
  rw [List.nil_append, List.nil_append, partition.flatten] at linked
  refine ⟨added, final, ?_, linked⟩
  rw [linkRows, staged, sorted]
  exact run

/-- The counters of the second pass, over the rows in any order. -/
theorem linked_counts {rows : List SalesImportStagedRow} {createdById : Nat} {createdAt : Instant}
    {added : List SalesTransaction} {final : LinkState}
    (linked : Linked intake.sourceSystem store.factTable.facts createdById createdAt
      ((inRowOrder rows).map (resolve store.master)) added final) :
    final.insertedRows = added.length ∧
      final.reusedRows = rows.countP (fun row => !absent intake.sourceSystem store.factTable.facts row) ∧
      final.insertedRows + final.reusedRows = rows.length := by
  have perm := inRowOrder_perm rows
  have reused : final.reusedRows = rows.countP
      (fun row => !absent intake.sourceSystem store.factTable.facts row) := by
    rw [linked.reused, List.countP_map]
    exact perm.countP_eq _
  have addedCount : added.length = rows.countP (absent intake.sourceSystem store.factTable.facts) := by
    have lengths := congrArg List.length linked.values
    rw [List.length_map, List.length_map, ← List.countP_eq_length_filter, List.countP_map] at lengths
    rw [lengths]
    exact perm.countP_eq _
  refine ⟨linked.inserted, reused, ?_⟩
  rw [linked.inserted, reused, addedCount, List.length_eq_countP_add_countP
    (absent intake.sourceSystem store.factTable.facts)]
  simp

theorem publishLocked_published (found : findImport store jobId = some intake)
    (member : attempt ∈ job.attempts)
    (numbers : (attempt.stagedRows.map SalesImportStagedRow.rowNumber).Nodup)
    (ids : (attempt.stagedRows.map SalesImportStagedRow.sourceRecordId).Nodup)
    (passes : AllSound store intake attempt.stagedRows) :
    ∃ result next finalJob finalAttempt added,
      publishLocked settings (snapshotOf store) jobId intake job attempt times store =
        .ok (result, next) ∧
      result = ⟨jobId, finalJob.status, finalJob.counts⟩ ∧
      PublishedRun store next jobId intake attempt times finalJob finalAttempt added := by
  obtain ⟨checked, checkedRun, validated⟩ := validateBatches_sorted settings store intake numbers
  have silent := (total_zero_iff validated).mpr passes
  have saved := resolved_sound numbers validated passes
  obtain ⟨added, final, second, linked⟩ := linkRows_sound settings times numbers ids passes validated
  obtain ⟨inserted, reused, applied⟩ := linked_counts linked
  have links := saveRows_linked ((inRowOrder_perm attempt.stagedRows).map (resolve store.master))
    (by rwa [List.map_map]) linked.rows
  have staged : (validatedAttempt attempt checked).stagedRows =
      attempt.stagedRows.map (resolve store.master) := saved
  have run : publishLocked settings (snapshotOf store) jobId intake job attempt times store =
      finishLockedJob jobId job
        { validatedAttempt attempt checked with
          phase := .publish
          stagedRows := saveRows final.linked copyLink (attempt.stagedRows.map (resolve store.master)) }
        .published .published
        (publicationCounts attempt.stagedRows.length final.insertedRows final.reusedRows)
        "" "" times.finishedAt { store with factTable := final.table } := by
    unfold publishLocked
    simp only [snapshotOf] at second ⊢
    rw [checkedRun]
    dsimp only
    rw [if_neg (by simp [silent]), publishValidated, second, staged, List.length_map]
  obtain ⟨lastAttempt, last⟩ : ∃ last, last = { validatedAttempt attempt checked with
      phase := .publish
      stagedRows := saveRows final.linked copyLink (attempt.stagedRows.map (resolve store.master)) } :=
    ⟨_, rfl⟩
  obtain ⟨counts, counted⟩ : ∃ counts, counts =
      publicationCounts attempt.stagedRows.length final.insertedRows final.reusedRows := ⟨_, rfl⟩
  rw [finishLockedJob_ok (publicationCounts_valid applied), ← last, ← counted] at run
  have lastId : lastAttempt.id = attempt.id := by rw [last]; rfl
  have lastRows : lastAttempt.stagedRows =
      saveRows final.linked copyLink (attempt.stagedRows.map (resolve store.master)) := by rw [last]
  refine ⟨_, _, saveAttempt (finishedJob job .published counts "" "" times.finishedAt)
      (finishedAttempt lastAttempt .published .published counts "" "" times.finishedAt),
    finishedAttempt lastAttempt .published .published counts "" "" times.finishedAt, added, run, rfl, ?_⟩
  refine
    { jobSaved := findJob_saveJob_same found _
      attemptSaved := ⟨mem_saveAttempt member lastId, lastId⟩
      status := ⟨rfl, rfl⟩
      facts := linked.table
      values := ?_
      stamped := linked.stamped
      rows := ?_
      jobCounts := ?_
      attemptCounts := rfl
      balance := ?_
      elsewhere := elsewhere_saveJob store jobId _ final.table }
  · rw [linked.values, List.filter_map, List.map_map]
    rfl
  · have finalRows : (finishedAttempt lastAttempt .published .published counts "" ""
        times.finishedAt).stagedRows = lastAttempt.stagedRows := rfl
    rw [finalRows, lastRows]
    exact List.forall₂_map_left_iff.mp links
  · have finalCounts : (saveAttempt (finishedJob job .published counts "" "" times.finishedAt)
        (finishedAttempt lastAttempt .published .published counts "" "" times.finishedAt)).counts =
          counts := rfl
    rw [finalCounts, counted, inserted, reused]
  · have finalCounts : (saveAttempt (finishedJob job .published counts "" "" times.finishedAt)
        (finishedAttempt lastAttempt .published .published counts "" "" times.finishedAt)).counts =
          counts := rfl
    rw [finalCounts, counted]
    exact ⟨applied, rfl⟩

theorem publishLocked_rejected (found : findImport store jobId = some intake)
    (member : attempt ∈ job.attempts)
    (numbers : (attempt.stagedRows.map SalesImportStagedRow.rowNumber).Nodup)
    (staged : ∀ row ∈ attempt.stagedRows, row.outcome = .staged ∧ row.salesTransactionId = none)
    (fails : ¬AllSound store intake attempt.stagedRows) :
    ∃ result next finalJob finalAttempt,
      publishLocked settings (snapshotOf store) jobId intake job attempt times store =
        .ok (result, next) ∧
      result = ⟨jobId, finalJob.status, finalJob.counts⟩ ∧
      RejectedRun store next jobId intake attempt finalJob finalAttempt := by
  obtain ⟨checked, checkedRun, validated⟩ := validateBatches_sorted settings store intake numbers
  have loud : checked.collector.total ≠ 0 := fun zero => fails ((total_zero_iff validated).mp zero)
  obtain ⟨invalid, issues⟩ := validated_counts validated
  have failing : 0 < checked.invalidRows := by
    rw [invalid, List.countP_pos_iff]
    by_contra none
    apply fails
    intro row member
    by_contra unsound
    exact none ⟨row, member, by simpa using unsound⟩
  obtain ⟨lastAttempt, last⟩ : ∃ last, last = { validatedAttempt attempt checked with
      issues := (validatedAttempt attempt checked).issues ++ checked.collector.persisted } := ⟨_, rfl⟩
  obtain ⟨counts, counted⟩ : ∃ counts, counts =
      rejectionCounts attempt.stagedRows.length checked.invalidRows checked.collector.total := ⟨_, rfl⟩
  have run : publishLocked settings (snapshotOf store) jobId intake job attempt times store =
      finishLockedJob jobId job lastAttempt .rejected .rejected counts "VALIDATION_REJECTED"
        "Database-backed validation rejected the sales file." times.finishedAt store := by
    unfold publishLocked
    simp only [snapshotOf]
    rw [checkedRun]
    dsimp only
    rw [if_pos loud, last, counted]
  have valid := validated_rejection validated loud
  rw [← counted] at valid
  rw [finishLockedJob_ok valid] at run
  have lastId : lastAttempt.id = attempt.id := by rw [last]; rfl
  have lastRows : lastAttempt.stagedRows = attempt.stagedRows.map (fun row =>
      if sound store.master store.factTable.facts intake.sourceSystem row then
        resolve store.master row else row) := by
    rw [last]
    exact saveRows_resolved numbers validated
  refine ⟨_, _, saveAttempt (finishedJob job .rejected counts "VALIDATION_REJECTED"
      "Database-backed validation rejected the sales file." times.finishedAt)
      (finishedAttempt lastAttempt .rejected .rejected counts "VALIDATION_REJECTED"
        "Database-backed validation rejected the sales file." times.finishedAt),
    finishedAttempt lastAttempt .rejected .rejected counts "VALIDATION_REJECTED"
      "Database-backed validation rejected the sales file." times.finishedAt, run, rfl, ?_⟩
  refine
    { jobSaved := findJob_saveJob_same found _
      attemptSaved := ⟨mem_saveAttempt member lastId, lastId⟩
      status := ⟨rfl, rfl⟩
      facts := rfl
      rows := lastRows
      unlinked := ?_
      jobCounts := ?_
      attemptCounts := rfl
      failing := ?_
      elsewhere := elsewhere_saveJob store jobId _ store.factTable }
  · intro row listed
    have origin : row ∈ attempt.stagedRows.map (fun row =>
        if sound store.master store.factTable.facts intake.sourceSystem row then
          resolve store.master row else row) := lastRows ▸ listed
    obtain ⟨before, inside, rfl⟩ := List.mem_map.mp origin
    split_ifs
    · exact staged before inside
    · exact staged before inside
  · rw [← invalid, ← issues]
    exact counted
  · have finalInvalid : counts.invalidRows = checked.invalidRows := by rw [counted]; rfl
    exact finalInvalid ▸ failing

end Ends

/-! ## All or nothing -/

theorem publishOnce_live {settings : Settings} {snapshot : Snapshot} {store : Store}
    {claim : SalesImportClaim} {times : PublicationTimes} {job : SalesImportJob}
    {attempt : SalesImportAttempt} {intake : SalesImport}
    (live : lockedLiveClaim claim.jobId claim.leaseToken times.startedAt store = .ok (job, attempt))
    (own : claimMatches attempt claim = true) (found : findImport store claim.jobId = some intake) :
    publishOnce settings snapshot claim times store =
      publishLocked settings snapshot claim.jobId intake job attempt times store := by
  rw [publishOnce, fenced, live]
  dsimp only
  rw [if_pos own, found]

/-- A run for a live claim commits, and it ends published exactly when every staged row
passes every check; otherwise it ends rejected. -/
theorem publishOnce_allOrNothing (settings : Settings) (store : Store) (claim : SalesImportClaim)
    (times : PublicationTimes) (job : SalesImportJob) (attempt : SalesImportAttempt)
    (intake : SalesImport)
    (live : lockedLiveClaim claim.jobId claim.leaseToken times.startedAt store = .ok (job, attempt))
    (own : claimMatches attempt claim = true) (found : findImport store claim.jobId = some intake)
    (numbers : (attempt.stagedRows.map SalesImportStagedRow.rowNumber).Nodup)
    (ids : (attempt.stagedRows.map SalesImportStagedRow.sourceRecordId).Nodup)
    (staged : ∀ row ∈ attempt.stagedRows, row.outcome = .staged ∧ row.salesTransactionId = none) :
    ∃ result next finalJob finalAttempt,
      publishOnce settings (snapshotOf store) claim times store = .ok (result, next) ∧
      result = ⟨claim.jobId, finalJob.status, finalJob.counts⟩ ∧
      ((AllSound store intake attempt.stagedRows ∧ ∃ added,
          PublishedRun store next claim.jobId intake attempt times finalJob finalAttempt added) ∨
        (¬AllSound store intake attempt.stagedRows ∧
          RejectedRun store next claim.jobId intake attempt finalJob finalAttempt)) := by
  have run := @publishOnce_live settings (snapshotOf store) store claim times job attempt intake live own found
  have member := (lockedLiveClaim_ok live).member
  by_cases passes : AllSound store intake attempt.stagedRows
  · obtain ⟨result, next, finalJob, finalAttempt, added, done, same, published⟩ :=
      publishLocked_published settings times found member numbers ids passes
    exact ⟨result, next, finalJob, finalAttempt, run.trans done, same, Or.inl ⟨passes, added, published⟩⟩
  · obtain ⟨result, next, finalJob, finalAttempt, done, same, rejected⟩ :=
      publishLocked_rejected settings times found member numbers staged passes
    exact ⟨result, next, finalJob, finalAttempt, run.trans done, same, Or.inr ⟨passes, rejected⟩⟩

namespace Sample

/-- Two new records, and between them one that is stored already. -/
def soundRows : List SalesImportStagedRow :=
  [Validation.Sample.row 2 "A-1" "PROD", Validation.Sample.row 3 "A-2" "PROD", Validation.Sample.row 4 "A-3" "PROD"]

/-- The last row names a product that does not exist. -/
def unsoundRows : List SalesImportStagedRow :=
  [Validation.Sample.row 2 "A-1" "PROD", Validation.Sample.row 3 "A-2" "PROD", Validation.Sample.row 4 "A-3" "NONE"]

/-- The fact that the second row of the samples says. -/
def knownTable : FactTable :=
  FactTable.empty.push { Validation.Sample.otherFact "A-2" with revenueAmount := ⟨100000⟩ } 1 0
    (by simp [FactTable.empty])

def storeWith (rows : List SalesImportStagedRow) : Store := store knownTable rows

end Sample

/-- Three rows in batches of two: published with two new facts, or rejected with none. -/
theorem publishOnce_allOrNothing_sample :
    (∃ result next, publishOnce Sample.smallBatches (snapshotOf (Sample.storeWith Sample.soundRows)) Sample.claim
        Sample.times (Sample.storeWith Sample.soundRows) = .ok (result, next) ∧
      result.status = .published ∧ next.factTable.facts.length = 3) ∧
    ∃ result next, publishOnce Sample.smallBatches (snapshotOf (Sample.storeWith Sample.unsoundRows)) Sample.claim
        Sample.times (Sample.storeWith Sample.unsoundRows) = .ok (result, next) ∧
      result.status = .rejected ∧ next.factTable.facts.length = 1 := by
  refine ⟨?_, ?_⟩
  · obtain ⟨result, next, finalJob, finalAttempt, done, rfl, ends⟩ := publishOnce_allOrNothing Sample.smallBatches
      (Sample.storeWith Sample.soundRows) Sample.claim Sample.times (Sample.job Sample.soundRows)
      (Sample.attempt Sample.soundRows) (Sample.intake Sample.soundRows) rfl rfl rfl (by decide) (by decide)
      (by decide)
    refine ⟨_, next, done, ?_⟩
    rcases ends with ⟨_, added, published⟩ | ⟨fails, _⟩
    · have counted := congrArg List.length published.values
      rw [List.length_map, List.length_map] at counted
      refine ⟨published.status.1, ?_⟩
      rw [published.facts, List.length_append, counted]
      decide +kernel
    · refine absurd ?_ fails
      unfold AllSound
      decide +kernel
  · obtain ⟨result, next, finalJob, finalAttempt, done, rfl, ends⟩ := publishOnce_allOrNothing Sample.smallBatches
      (Sample.storeWith Sample.unsoundRows) Sample.claim Sample.times (Sample.job Sample.unsoundRows)
      (Sample.attempt Sample.unsoundRows) (Sample.intake Sample.unsoundRows) rfl rfl rfl (by decide) (by decide)
      (by decide)
    refine ⟨_, next, done, ?_⟩
    rcases ends with ⟨passes, _⟩ | ⟨_, rejected⟩
    · refine absurd passes ?_
      unfold AllSound
      decide +kernel
    · refine ⟨rejected.status.1, ?_⟩
      rw [rejected.facts]
      decide +kernel

end PharmaIntel.Publication
