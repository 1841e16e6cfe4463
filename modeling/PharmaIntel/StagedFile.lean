import Mathlib
import PharmaIntel.ParserOutcome
import PharmaIntel.Staging
import PharmaIntel.QueueRules
import PharmaIntel.Publication

/-! Staging at the database: what the attempt holds after each committed parse batch, and
what it holds in the end whatever the batch size. -/

namespace PharmaIntel.Staging
open PharmaIntel.Base PharmaIntel.PyText PharmaIntel.Contracts PharmaIntel.Models PharmaIntel.Collector
  PharmaIntel.Queue

/-! ## The batches handed out so far -/

/-- One batch has been handed out for every `chunkSize` of the results `past`. -/
structure HandedOut (chunkSize : Nat) (past : List SalesRowValidationResult)
    (batches : List ParseBatch) : Prop where
  count : batches.length = past.length / chunkSize
  rows : ∀ k ≤ batches.length,
    (batches.take k).flatMap ParseBatch.stagedRows = acceptedRows (past.take (k * chunkSize))
  reports : ∀ k batch, batches[k]? = some batch →
    batch.progress = progressOf (past.take ((k + 1) * chunkSize))

theorem handedOut_initial (chunkSize : Nat) : HandedOut chunkSize [] [] where
  count := by simp
  rows := by simp [acceptedRows]
  reports := by simp

section Loop
variable {chunkSize : Nat} {past : List SalesRowValidationResult} {batches : List ParseBatch}

theorem HandedOut.within (handed : HandedOut chunkSize past batches) {k : Nat}
    (few : k ≤ batches.length) : k * chunkSize ≤ past.length := by
  rw [handed.count] at few
  exact (Nat.mul_le_mul_right chunkSize few).trans (Nat.div_mul_le_self _ _)

/-- A result that fills no chunk. -/
theorem HandedOut.take (handed : HandedOut chunkSize past batches) (result : SalesRowValidationResult)
    (partial_chunk : (past.length + 1) % chunkSize ≠ 0) :
    HandedOut chunkSize (past ++ [result]) batches where
  count := by
    rw [handed.count, List.length_append, List.length_singleton]
    exact (Nat.succ_div_of_not_dvd fun divides => partial_chunk (Nat.mod_eq_zero_of_dvd divides)).symm
  rows := by
    intro k few
    rw [handed.rows k few, List.take_append_of_le_length (handed.within few)]
  reports := by
    intro k batch listed
    obtain ⟨inside, _⟩ := List.getElem?_eq_some_iff.mp listed
    rw [handed.reports k batch listed, List.take_append_of_le_length (handed.within inside)]

/-- A result that fills a chunk, and the batch handed out with it. -/
theorem HandedOut.flush (handed : HandedOut chunkSize past batches) {result : SalesRowValidationResult}
    {batch : ParseBatch} (full : (past.length + 1) % chunkSize = 0)
    (rows : batches.flatMap ParseBatch.stagedRows ++ batch.stagedRows = acceptedRows (past ++ [result]))
    (progress : batch.progress = progressOf (past ++ [result])) :
    HandedOut chunkSize (past ++ [result]) (batches ++ [batch]) := by
  have divides := Nat.dvd_of_mod_eq_zero full
  have count : past.length / chunkSize + 1 = (past.length + 1) / chunkSize :=
    (Nat.succ_div_of_dvd divides).symm
  have whole : (batches.length + 1) * chunkSize = (past ++ [result]).length := by
    rw [handed.count, count, List.length_append, List.length_singleton, Nat.div_mul_cancel divides]
  refine ⟨?_, ?_, ?_⟩
  · rw [List.length_append, List.length_append, handed.count]
    exact count
  · intro k few
    rw [List.length_append, List.length_singleton] at few
    rcases Nat.lt_or_ge batches.length k with last | earlier
    · have exactly : k = batches.length + 1 := by omega
      rw [exactly, whole, List.take_length, List.take_of_length_le (by simp), List.flatMap_append,
        List.flatMap_singleton, rows]
    · rw [List.take_append_of_le_length earlier, handed.rows k earlier,
        List.take_append_of_le_length (handed.within earlier)]
  · intro k found listed
    rcases Nat.lt_or_ge k batches.length with earlier | last
    · rw [List.getElem?_append_left earlier] at listed
      rw [handed.reports k found listed, List.take_append_of_le_length (handed.within earlier)]
    · rw [List.getElem?_append_right last, List.getElem?_singleton] at listed
      split_ifs at listed with zero
      cases listed
      have exactly : k = batches.length := by omega
      rw [exactly, whole, List.take_length, progress]

end Loop

/-- Each result is taken, and a batch follows when it fills a chunk. -/
theorem stageResults_handed {ucd : UnicodeDatabase} {width maximum : Nat} (chunkSize : Nat)
    (results past : List SalesRowValidationResult) {batches : List ParseBatch} {s : Loop}
    (staged : StagedSoFar maximum past batches s) (handed : HandedOut chunkSize past batches)
    (judged : ∀ result ∈ results, Judged ucd width result)
    (increasing : ((past ++ results).map SalesRowValidationResult.rowNumber).Nodup) :
    HandedOut chunkSize (past ++ results) (batches ++ (stageResults chunkSize s results).1) := by
  induction results generalizing past batches s with
  | nil => simpa [stageResults] using handed
  | cons result rest ih =>
    have apart : result.rowNumber ∉ past.map SalesRowValidationResult.rowNumber := by
      rw [List.map_append, List.nodup_append] at increasing
      intro known
      exact increasing.2.2 _ known _ (by simp) rfl
    have taken := take_staged staged (judged result List.mem_cons_self) apart
    have judged_rest : ∀ other ∈ rest, Judged ucd width other :=
      fun other member => judged other (List.mem_cons_of_mem result member)
    have increasing_rest :
        (((past ++ [result]) ++ rest).map SalesRowValidationResult.rowNumber).Nodup := by
      simpa using increasing
    have counted : (s.take result).progress.totalRows = past.length + 1 := by
      rw [taken.progress, progressOf, List.length_append]
      rfl
    rw [stageResults]
    by_cases full : (s.take result).progress.totalRows % chunkSize = 0
    · rw [if_pos full]
      rw [counted] at full
      have flushed := @HandedOut.flush _ _ _ handed _ (s.take result).batch full taken.rows taken.progress
      have later := ih (past ++ [result]) (flush_staged taken) flushed judged_rest increasing_rest
      simpa using later
    · rw [if_neg full]
      rw [counted] at full
      have later := ih (past ++ [result]) taken (handed.take result full) judged_rest increasing_rest
      simpa using later

section File
variable (settings : Settings) (ucd : UnicodeDatabase) (stream : Csv.TextStream)

theorem lastLoop_handed :
    HandedOut settings.dbBatchSize (results settings ucd stream) (lastLoop settings ucd stream).1 := by
  have facts := results_facts settings ucd stream
  have distinct : ((results settings ucd stream).map SalesRowValidationResult.rowNumber).Nodup :=
    facts.increasing.imp (fun less => less.ne)
  have handed := stageResults_handed settings.dbBatchSize (results settings ucd stream) []
    (staged_initial settings.maxIssues) (handedOut_initial settings.dbBatchSize) facts.judged
    (by simpa using distinct)
  simpa [lastLoop] using handed

/-- The results that have been consumed when `count` of the batches are committed, of which
the last one takes whatever is left. -/
def consumed (count : Nat) : List SalesRowValidationResult :=
  if count = (batches settings ucd stream).length then results settings ucd stream
  else (results settings ucd stream).take (count * settings.dbBatchSize)

theorem consumed_leading (count : Nat) :
    consumed settings ucd stream count <+: results settings ucd stream := by
  unfold consumed
  split_ifs
  · exact List.prefix_refl _
  · exact List.take_prefix _ _

/-- The counters of the last report among the first `count`. -/
def reported (count : Nat) : Progress :=
  { progressOf (consumed settings ucd stream count) with
    issueCount :=
      if count = (batches settings ucd stream).length then (countedIssues settings ucd stream).length
      else (contractIssues (consumed settings ucd stream count)).length }

theorem batches_length :
    (batches settings ucd stream).length = (lastLoop settings ucd stream).1.length + 1 := by
  rw [batches_eq, List.length_append, List.length_singleton]

/-- The first batches hand out exactly the rows that are consumed, and the last of them
reports their counters. -/
theorem batches_take (count : Nat) (bounded : count ≤ (batches settings ucd stream).length) :
    ((batches settings ucd stream).take count).flatMap ParseBatch.stagedRows =
        acceptedRows (consumed settings ucd stream count) ∧
      ∀ batch, ((batches settings ucd stream).take count).getLast? = some batch →
        batch.progress = reported settings ucd stream count := by
  have handed := lastLoop_handed settings ucd stream
  have size := batches_length settings ucd stream
  rcases Nat.lt_or_ge count (batches settings ucd stream).length with earlier | whole
  · have few : count ≤ (lastLoop settings ucd stream).1.length := by omega
    have front : (batches settings ucd stream).take count = (lastLoop settings ucd stream).1.take count := by
      rw [batches_eq, List.take_append_of_le_length few]
    have used : consumed settings ucd stream count =
        (results settings ucd stream).take (count * settings.dbBatchSize) := if_neg (by omega)
    rw [front, used]
    refine ⟨handed.rows count few, ?_⟩
    intro batch last
    rw [List.getLast?_eq_getElem?, List.length_take, min_eq_left few] at last
    cases count with
    | zero => simp at last
    | succ count =>
      rw [Nat.add_sub_cancel, List.getElem?_take_of_lt (Nat.lt_succ_self count)] at last
      rw [handed.reports count batch last, reported, if_neg (by omega), used]
      rfl
  · have exactly : count = (batches settings ucd stream).length := by omega
    have used : consumed settings ucd stream count = results settings ucd stream := if_pos exactly
    rw [exactly, List.take_length, batches_rows, ← exactly, used]
    refine ⟨rfl, ?_⟩
    intro batch last
    rw [batches_eq, List.getLast?_concat, Option.some.injEq] at last
    rw [← last, finish_progress, reported, if_pos exactly, used]

end File

/-! ## At the database -/

/-- The parse batches commit one after another. Between two of them other transactions may
change everything but the job that the claim holds. -/
inductive Commits (claim : SalesImportClaim) : Store → List ParseBatch → Store → Prop where
  | none (store : Store) : Commits claim store [] store
  | commit {store between next final : Store} {batch : ParseBatch} {rest : List ParseBatch} {now : Instant}
      (others : findJob between claim.jobId = findJob store claim.jobId)
      (committed : recordParseBatch claim batch now between = .ok ((), next))
      (later : Commits claim next rest final) : Commits claim store (batch :: rest) final

/-- The claimed attempt holds these staged rows. -/
structure Stands (claim : SalesImportClaim) (store : Store) (rows : List SalesImportStagedRow)
    (job : SalesImportJob) (attempt : SalesImportAttempt) : Prop where
  found : findJob store claim.jobId = some job
  ids : (job.attempts.map SalesImportAttempt.id).Nodup
  member : attempt ∈ job.attempts
  id : attempt.id = claim.attemptId
  rows : attempt.stagedRows = rows

/-- The four counters that staging keeps. -/
def Reports (counts : SalesImportJobCounts) (progress : Progress) : Prop :=
  counts.totalRows = progress.totalRows ∧ counts.validRows = progress.validRows ∧
    counts.invalidRows = progress.invalidRows ∧ counts.issueCount = progress.issueCount

theorem recordParseBatch_stands {claim : SalesImportClaim} {store next : Store}
    {rows : List SalesImportStagedRow} {job : SalesImportJob} {attempt : SalesImportAttempt}
    {batch : ParseBatch} {now : Instant} (stands : Stands claim store rows job attempt)
    (committed : recordParseBatch claim batch now store = .ok ((), next)) :
    ∃ nextJob nextAttempt, Stands claim next (rows ++ batch.stagedRows) nextJob nextAttempt ∧
      Reports nextJob.counts batch.progress ∧ Reports nextAttempt.counts batch.progress := by
  obtain ⟨locked, running, live, saved⟩ := fenced_ok committed
  split_ifs at saved with own
  injection saved with saved
  injection saved with _ saved
  have sameJob : locked = job := by
    have found := live.found
    rw [stands.found] at found
    exact (Option.some.inj found).symm
  subst sameJob
  have sameId : running.id = attempt.id := by
    rw [stands.id]
    exact of_decide_eq_true own
  have sameAttempt : running = attempt :=
    List.inj_on_of_nodup_map stands.ids live.member stands.member sameId
  subst sameAttempt
  obtain ⟨intake, found, _⟩ := findJob_import live.found
  subst saved
  refine ⟨_, _, ⟨findJob_saveJob_same found _, ?_, mem_saveAttempt live.member rfl, stands.id, ?_⟩,
    ⟨rfl, rfl, rfl, rfl⟩, rfl, rfl, rfl, rfl⟩
  · rw [saveAttempt_ids]
    exact stands.ids
  · dsimp only
    rw [stands.rows]

/-- The rows add up, and the counters are those of the last report. -/
theorem commits_stands {claim : SalesImportClaim} {store final : Store} {front : List ParseBatch}
    (commits : Commits claim store front final) {rows : List SalesImportStagedRow} {job : SalesImportJob}
    {attempt : SalesImportAttempt} (stands : Stands claim store rows job attempt) :
    ∃ finalJob finalAttempt,
      Stands claim final (rows ++ front.flatMap ParseBatch.stagedRows) finalJob finalAttempt ∧
      ∀ batch, front.getLast? = some batch →
        Reports finalJob.counts batch.progress ∧ Reports finalAttempt.counts batch.progress := by
  induction commits generalizing rows job attempt with
  | none store => exact ⟨job, attempt, by simpa using stands, by simp⟩
  | @commit store between next final batch rest now others committed later ih =>
    obtain ⟨nextJob, nextAttempt, nextStands, jobReports, attemptReports⟩ :=
      recordParseBatch_stands ⟨others.trans stands.found, stands.ids, stands.member, stands.id,
        stands.rows⟩ committed
    obtain ⟨finalJob, finalAttempt, finalStands, reports⟩ := ih nextStands
    refine ⟨finalJob, finalAttempt, by simpa using finalStands, ?_⟩
    intro last listed
    cases rest with
    | nil =>
      cases later
      rw [List.getLast?_singleton, Option.some.injEq] at listed
      subst listed
      have sameJob : finalJob = nextJob :=
        Option.some.inj (finalStands.found.symm.trans nextStands.found)
      subst sameJob
      have sameAttempt : finalAttempt = nextAttempt :=
        List.inj_on_of_nodup_map finalStands.ids finalStands.member nextStands.member
          (finalStands.id.trans nextStands.id.symm)
      subst sameAttempt
      exact ⟨jobReports, attemptReports⟩
    | cons second others =>
      rw [List.getLast?_cons_cons] at listed
      exact reports last listed

/-! ## What the counters say -/

section File
variable (settings : Settings) (ucd : UnicodeDatabase) (stream : Csv.TextStream)

theorem acceptedRows_length {ucd : UnicodeDatabase} {width : Nat}
    (results : List SalesRowValidationResult) (judged : ∀ result ∈ results, Judged ucd width result) :
    (acceptedRows results).length = results.countP SalesRowValidationResult.isValid := by
  induction results with
  | nil => rfl
  | cons result rest ih =>
    have later := ih (fun other member => judged other (List.mem_cons_of_mem result member))
    rw [List.countP_cons, ← later]
    cases judged result List.mem_cons_self with
    | accepted accepted => simp [acceptedRows, SalesRowValidationResult.isValid]
    | refused nonempty from_row => simp [acceptedRows, SalesRowValidationResult.isValid]
    | miscounted expected found =>
      simp [acceptedRows, SalesRowValidationResult.isValid, columnCountResult]

/-- The counters agree with the results consumed and with the rows staged for them. -/
structure Counted (counts : SalesImportJobCounts) (used : List SalesRowValidationResult)
    (rows : List SalesImportStagedRow) : Prop where
  total : counts.totalRows = used.length
  valid : counts.validRows = rows.length
  invalid : counts.invalidRows = used.countP (fun result => !result.isValid)
  balance : counts.totalRows = counts.validRows + counts.invalidRows
  covered : counts.invalidRows ≤ counts.issueCount

theorem reported_counted (count : Nat) {counts : SalesImportJobCounts}
    (reports : Reports counts (reported settings ucd stream count)) :
    Counted counts (consumed settings ucd stream count)
      (acceptedRows (consumed settings ucd stream count)) := by
  have facts := results_facts settings ucd stream
  have judged : ∀ result ∈ consumed settings ucd stream count,
      Judged ucd (Csv.capacity stream.lines) result :=
    fun result member => facts.judged result ((consumed_leading settings ucd stream count).subset member)
  obtain ⟨total, valid, invalid, issueCount⟩ := reports
  have balanced := progressOf_balanced (consumed settings ucd stream count)
  have covered := progressOf_covered _ judged
  refine ⟨total, ?_, invalid, ?_, ?_⟩
  · rw [acceptedRows_length _ judged]
    exact valid
  · rw [total, valid, invalid]
    exact balanced
  · rw [invalid, issueCount]
    refine covered.trans ?_
    rw [reported]
    dsimp only
    split_ifs with whole
    · rw [countedIssues, List.length_append, consumed, if_pos whole]
      exact Nat.le_add_right _ _
    · exact le_rfl

theorem fileIssues_length (last : RowsEnd) (proper : ∀ message, last ≠ .valueError message) :
    (fileIssues last).length = if last = .finished then 0 else 1 := by
  cases last with
  | finished => rfl
  | contractError error => rfl
  | unicodeDecodeError => rfl
  | valueError message => exact absurd rfl (proper message)

theorem reported_whole :
    reported settings ucd stream (batches settings ucd stream).length =
      { progressOf (results settings ucd stream) with
        issueCount := (countedIssues settings ucd stream).length } := by
  rw [reported, if_pos rfl, consumed, if_pos rfl]

/-- What `_stage_csv` returns: the last report, and whether anything has been counted. -/
theorem stageCsv_returns :
    ∃ rejected, (stageCsv settings ucd stream).2 =
        .ok (reported settings ucd stream (batches settings ucd stream).length, rejected) ∧
      (rejected = true ↔ 0 < (countedIssues settings ucd stream).length) := by
  have run := stageCsv_eq settings ucd stream
  dsimp only at run
  rw [finish_progress] at run
  refine ⟨!(fileIssues (ending settings ucd stream)).isEmpty ||
    decide (0 < (lastLoop settings ucd stream).2.progress.invalidRows), ?_, ?_⟩
  · rw [run, reported_whole]
  · rw [rejected_iff, List.length_pos_iff]

/-- A file that is not rejected has at least one row, and every row is staged. -/
theorem accepted_file (clean : countedIssues settings ucd stream = []) :
    1 ≤ (results settings ucd stream).length ∧
      (acceptedRows (results settings ucd stream)).length = (results settings ucd stream).length := by
  have facts := results_facts settings ucd stream
  have balanced := progressOf_balanced (results settings ucd stream)
  have covered := progressOf_covered _ facts.judged
  obtain ⟨rowsClean, fileClean⟩ := List.append_eq_nil_iff.mp clean
  have finished : ending settings ucd stream = .finished := by
    by_contra other
    have size := fileIssues_length _ (iterSalesRowsV1Csv_end ucd stream settings.maxRows_positive)
    change (fileIssues (ending settings ucd stream)).length =
      if ending settings ucd stream = .finished then 0 else 1 at size
    rw [fileClean, if_neg other] at size
    cases size
  have outcome := outcome_of_read ucd settings.maxRows_positive (Prod.mk.eta (p := Csv.records stream)).symm
  obtain ⟨_, proper, some, within⟩ := outcome.finished.mp finished
  have yielded := outcome.yielded proper
  change (results settings ucd stream).length = _ at yielded
  refine ⟨by omega, ?_⟩
  rw [acceptedRows_length _ facts.judged]
  simp only [progressOf, rowsClean, List.length_nil] at balanced covered
  omega

/-- What any prefix of the batches leaves, whatever the batch size. -/
theorem commits_reported {claim : SalesImportClaim} {store next : Store} {job : SalesImportJob}
    {attempt : SalesImportAttempt} {count : Nat} (some : 1 ≤ count)
    (bounded : count ≤ (batches settings ucd stream).length) (stands : Stands claim store [] job attempt)
    (commits : Commits claim store ((batches settings ucd stream).take count) next) :
    ∃ lastJob lastAttempt,
      Stands claim next (acceptedRows (consumed settings ucd stream count)) lastJob lastAttempt ∧
      Reports lastJob.counts (reported settings ucd stream count) ∧
      Reports lastAttempt.counts (reported settings ucd stream count) := by
  obtain ⟨rows, reports⟩ := batches_take settings ucd stream count bounded
  obtain ⟨lastJob, lastAttempt, held, counted⟩ := commits_stands commits stands
  rw [List.nil_append, rows] at held
  have nonempty : (batches settings ucd stream).take count ≠ [] := by
    intro none
    have size := congrArg List.length none
    rw [List.length_take, List.length_nil] at size
    omega
  have last := List.getLast?_eq_some_getLast nonempty
  have progress := reports _ last
  obtain ⟨jobReports, attemptReports⟩ := counted _ last
  exact ⟨lastJob, lastAttempt, held, progress ▸ jobReports, progress ▸ attemptReports⟩

/-- What all batches leave. -/
theorem commits_whole {claim : SalesImportClaim} {store next : Store} {job : SalesImportJob}
    {attempt : SalesImportAttempt} (some : 1 ≤ (batches settings ucd stream).length)
    (stands : Stands claim store [] job attempt) (commits : Commits claim store (batches settings ucd stream) next) :
    ∃ lastJob lastAttempt,
      Stands claim next (acceptedRows (results settings ucd stream)) lastJob lastAttempt ∧
      Reports lastJob.counts { progressOf (results settings ucd stream) with
        issueCount := (countedIssues settings ucd stream).length } ∧
      Reports lastAttempt.counts { progressOf (results settings ucd stream) with
        issueCount := (countedIssues settings ucd stream).length } := by
  have all : Commits claim store ((batches settings ucd stream).take (batches settings ucd stream).length) next := by
    rwa [List.take_length]
  have left := commits_reported settings ucd stream some le_rfl stands all
  rwa [reported_whole, consumed, if_pos rfl] at left

/-- Files are read alike under the same limit on their rows, whatever the batch size. -/
theorem results_congr {other : Settings} (same : other.maxRows = settings.maxRows) :
    results other ucd stream = results settings ucd stream ∧
      countedIssues other ucd stream = countedIssues settings ucd stream := by
  have sameFile : iterSalesRowsV1Csv ucd stream other.maxRows =
      iterSalesRowsV1Csv ucd stream settings.maxRows := by rw [same]
  have sameResults : results other ucd stream = results settings ucd stream :=
    congrArg Prod.fst sameFile
  refine ⟨sameResults, ?_⟩
  rw [countedIssues, countedIssues, sameResults]
  exact congrArg (fun file => contractIssues (results settings ucd stream) ++ fileIssues file)
    (congrArg Prod.snd sameFile)

theorem countedIssues_length :
    (countedIssues settings ucd stream).length =
      (contractIssues (results settings ucd stream)).length +
        (if ending settings ucd stream = .finished then 0 else 1) := by
  rw [countedIssues, List.length_append, fileIssues_length]
  exact iterSalesRowsV1Csv_end ucd stream settings.maxRows_positive

end File

namespace Sample

/-- Three valid rows, one of quantity zero and a short one. -/
def stagedFile : Csv.TextStream where
  lines := [Contracts.Sample.header, Contracts.Sample.line "A-1" "2.000" "1000.00",
    Contracts.Sample.line "A-2" "0" "0", Contracts.Sample.line "A-3" "1.500" "750.00", "A-4\n",
    Contracts.Sample.line "A-5" "-1" "-20.00"]

theorem stagedFile_batches :
    (batches Publication.Sample.smallBatches asciiDatabase stagedFile).length = 3 := by decide +kernel

theorem stagedFile_accepted :
    (acceptedRows (results Publication.Sample.smallBatches asciiDatabase stagedFile)).map
      SalesImportStagedRow.sourceRecordId = ["A-1", "A-3", "A-5"] := by decide +kernel

/-- The sample claim commits any three batches. -/
theorem commits_three (first second third : ParseBatch) :
    ∃ next, Commits Publication.Sample.claim (Publication.Sample.store FactTable.empty [])
      [first, second, third] next :=
  ⟨_, @Commits.commit _ _ _ _ _ _ _ 10 rfl rfl (@Commits.commit _ _ _ _ _ _ _ 11 rfl rfl
    (@Commits.commit _ _ _ _ _ _ _ 12 rfl rfl (.none _)))⟩

end Sample

end PharmaIntel.Staging
