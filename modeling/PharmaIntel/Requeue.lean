import Mathlib
import PharmaIntel.Attempts
import PharmaIntel.Coherence
import PharmaIntel.Overlap

/-! Requeueing a rejected job. Whether a conflict with an immutable fact is refused is read
off the job's error code and its stored issues, so it depends on which issues are stored. -/

namespace PharmaIntel.Publication
open PharmaIntel.Base PharmaIntel.Models PharmaIntel.Collector PharmaIntel.Validation
  PharmaIntel.Queue

/-! ## The first conflict among the counted issues -/

/-- Items of a kind `q` yield one marked element, the others none. Then a marked element is
among the first `limit` exactly when fewer elements come before the first such item. -/
theorem marked_in_take_iff {α β : Type} {f : α → List β} {q : α → Bool} {marked : β → Prop}
    (single : ∀ a, q a = true → ∃ b, f a = [b] ∧ marked b)
    (clear : ∀ a, q a = false → ∀ b ∈ f a, ¬marked b) (items : List α)
    (some : ∃ a ∈ items, q a = true) (limit : Nat) :
    (∃ b ∈ (items.flatMap f).take limit, marked b) ↔
      ((items.takeWhile (fun a => !q a)).flatMap f).length < limit := by
  induction items generalizing limit with
  | nil =>
    obtain ⟨_, none, _⟩ := some
    cases none
  | cons a rest ih =>
    rw [List.flatMap_cons]
    cases kind : q a with
    | true =>
      obtain ⟨b, only, mark⟩ := single a kind
      rw [only, List.takeWhile_cons_of_neg (by simp [kind]), List.flatMap_nil, List.length_nil]
      constructor
      · rintro ⟨_, taken, _⟩
        exact Nat.pos_of_ne_zero (fun none => by simp [none] at taken)
      · intro positive
        refine ⟨b, ?_, mark⟩
        obtain ⟨n, rfl⟩ := Nat.exists_eq_succ_of_ne_zero positive.ne'
        exact List.mem_cons_self
    | false =>
      have later : ∃ other ∈ rest, q other = true := by
        obtain ⟨other, member, other_kind⟩ := some
        rcases List.mem_cons.mp member with rfl | inside
        · rw [kind] at other_kind
          cases other_kind
        · exact ⟨other, inside, other_kind⟩
      rw [List.takeWhile_cons_of_pos (by simp [kind]), List.flatMap_cons, List.length_append,
        List.take_append]
      have shifted := ih later (limit - (f a).length)
      constructor
      · rintro ⟨b, taken, mark⟩
        rcases List.mem_append.mp taken with here | there
        · exact absurd mark (clear a kind b (List.mem_of_mem_take here))
        · have few := shifted.mp ⟨b, there, mark⟩
          omega
      · intro few
        obtain ⟨b, taken, mark⟩ := shifted.mpr (by omega)
        exact ⟨b, List.mem_append_right _ taken, mark⟩

section Rows
variable (snapshot : Snapshot) (sourceSystem : String)

/-- The row passes every other check and differs from the fact that has its key. -/
def conflicting (row : SalesImportStagedRow) : Bool :=
  (rowMasterIssues snapshot.master row).isEmpty &&
    rowConflicts snapshot.master snapshot.factTable.facts sourceSystem row

/-- The issues of the rows before the first conflicting one. -/
def issuesBefore (rows : List SalesImportStagedRow) : List SalesImportIssue :=
  ((inRowOrder rows).takeWhile (fun row => !conflicting snapshot sourceSystem row)).flatMap
    (rowIssues snapshot.master snapshot.factTable.facts sourceSystem)

/-- The issue of the first conflict is among the details that are kept. -/
def ConflictListed (settings : Settings) (rows : List SalesImportStagedRow) : Prop :=
  (issuesBefore snapshot sourceSystem rows).length < IssueCollector.detailLimit settings.maxIssues

variable {snapshot sourceSystem} {row : SalesImportStagedRow}

theorem rowIssues_conflicting (conflict : conflicting snapshot sourceSystem row = true) :
    rowIssues snapshot.master snapshot.factTable.facts sourceSystem row = [conflictIssue row] := by
  rw [conflicting, Bool.and_eq_true, List.isEmpty_iff] at conflict
  rw [rowIssues, if_neg (not_not.mpr conflict.1), if_pos conflict.2]

theorem rowIssues_clear (clear : conflicting snapshot sourceSystem row = false) :
    ∀ issue ∈ rowIssues snapshot.master snapshot.factTable.facts sourceSystem row,
      issue.code ≠ sourceRecordConflict := by
  intro issue reported
  rcases (mem_rowIssues _ _ _ _).mp reported with master | ⟨none, differs, _⟩
  · exact master_codes _ _ master
  · rw [conflicting, none, differs] at clear
    cases clear

theorem conflictListed_iff {settings : Settings} {rows : List SalesImportStagedRow}
    (some : ∃ row ∈ rows, conflicting snapshot sourceSystem row = true) :
    ConflictListed snapshot sourceSystem settings rows ↔
      ∃ issue ∈ ((inRowOrder rows).flatMap
          (rowIssues snapshot.master snapshot.factTable.facts sourceSystem)).take
            (IssueCollector.detailLimit settings.maxIssues), issue.code = sourceRecordConflict := by
  obtain ⟨row, member, conflict⟩ := some
  symm
  apply marked_in_take_iff
  · intro row conflict
    exact ⟨conflictIssue row, rowIssues_conflicting conflict, rfl⟩
  · intro row clear
    exact rowIssues_clear clear
  · exact ⟨row, (inRowOrder_perm rows).mem_iff.mpr member, conflict⟩

end Rows

/-! ## The rejection -/

section Rejection
variable {settings : Settings} {snapshot : Snapshot} {store next : Store} {claim : SalesImportClaim}
  {times : PublicationTimes} {intake : SalesImport} {job : SalesImportJob} {attempt : SalesImportAttempt}

/-- Of the issues the rejection stores, one is a conflict when the first conflict is kept. -/
theorem stored_conflict_iff {checked : ValidationState}
    (validated : PassChecked settings snapshot intake attempt checked)
    (some : ∃ row ∈ attempt.stagedRows, conflicting snapshot intake.sourceSystem row = true) :
    (∃ issue ∈ checked.stored ++ checked.collector.persisted, issue.code = sourceRecordConflict) ↔
      ConflictListed snapshot intake.sourceSystem settings attempt.stagedRows := by
  have positive : 1 ≤ checked.collector.maximum := validated.maximum ▸ settings.maxIssues_positive
  obtain ⟨stored, last⟩ := validated.tracks.persisted_drained validated.released positive
  rw [conflictListed_iff some, ← validated.maximum, ← stored]
  constructor
  · rintro ⟨issue, listed, conflict⟩
    refine ⟨issue, ?_, conflict⟩
    rcases List.mem_append.mp listed with drained | summary
    · exact drained
    · rw [last] at summary
      split_ifs at summary
      · rw [List.mem_singleton.mp summary] at conflict
        exact absurd conflict (by simp [IssueCollector.summary, sourceRecordConflict])
      · cases summary
  · rintro ⟨issue, drained, conflict⟩
    exact ⟨issue, List.mem_append_left _ drained, conflict⟩

/-- A counted conflict makes the total positive, so the first pass rejects the file. -/
theorem publishOnce_conflict {result : SalesImportProcessingResult}
    (live : lockedLiveClaim claim.jobId claim.leaseToken times.startedAt store = .ok (job, attempt))
    (found : findImport store claim.jobId = some intake)
    (numbers : (attempt.stagedRows.map SalesImportStagedRow.rowNumber).Nodup)
    (some : ∃ row ∈ attempt.stagedRows, conflicting snapshot intake.sourceSystem row = true)
    (done : publishOnce settings snapshot claim times store = .ok (result, next)) :
    ∃ checked changed counts message, PassChecked settings snapshot intake attempt checked ∧
      changed.id = attempt.id ∧
      changed.issues = attempt.issues ++ (checked.stored ++ checked.collector.persisted) ∧
      result = ⟨claim.jobId, .rejected, counts⟩ ∧
      next = saveJob store claim.jobId (saveAttempt
        (finishedJob job .rejected counts "VALIDATION_REJECTED" message times.finishedAt) changed) := by
  obtain ⟨checked, pass, validated⟩ := @validationPass_checked settings snapshot intake _ numbers
  have loud : checked.collector.total ≠ 0 := by
    obtain ⟨row, member, conflict⟩ := some
    have reported : conflictIssue row ∈ (inRowOrder attempt.stagedRows).flatMap
        (rowIssues snapshot.master snapshot.factTable.facts intake.sourceSystem) := by
      refine List.mem_flatMap.mpr ⟨row, (inRowOrder_perm _).mem_iff.mpr member, ?_⟩
      rw [rowIssues_conflicting conflict]
      exact List.mem_singleton_self _
    rw [validated.tracks.total]
    exact (List.length_pos_of_mem reported).ne'
  unfold validationPass at pass
  rw [publishOnce, fenced, live] at done
  dsimp only at done
  split_ifs at done with own
  rw [found] at done
  dsimp only at done
  rw [publishLocked, pass] at done
  dsimp only at done
  rw [if_pos loud] at done
  obtain ⟨_, same, saved⟩ := finishLockedJob_inv done
  refine ⟨checked, _, _, _, validated, ?_, ?_, same, saved⟩
  · rfl
  · exact List.append_assoc _ _ _

end Rejection

end PharmaIntel.Publication

namespace PharmaIntel.System
open PharmaIntel.Base PharmaIntel.Models PharmaIntel.Collector PharmaIntel.Queue PharmaIntel.Publication

/-! ## Stored conflicts -/

theorem hasConflictIssue_iff {job : SalesImportJob} :
    hasConflictIssue job = true ↔
      ∃ attempt ∈ job.attempts, ∃ issue ∈ attempt.issues, issue.code = sourceRecordConflict := by
  simp [hasConflictIssue]

/-- Saving an attempt with more issues adds just these to the job's. -/
theorem hasConflictIssue_saved {job : SalesImportJob} {attempt saved : SalesImportAttempt}
    {more : List SalesImportIssue} (ids : (job.attempts.map SalesImportAttempt.id).Nodup)
    (member : attempt ∈ job.attempts) (same : saved.id = attempt.id)
    (issues : saved.issues = attempt.issues ++ more) :
    hasConflictIssue (saveAttempt job saved) = true ↔
      (∃ issue ∈ more, issue.code = sourceRecordConflict) ∨ hasConflictIssue job = true := by
  rw [hasConflictIssue_iff, hasConflictIssue_iff]
  constructor
  · rintro ⟨other, inside, issue, listed, conflict⟩
    rcases mem_saved inside with ⟨old, _⟩ | ⟨rfl, _⟩
    · exact Or.inr ⟨other, old, issue, listed, conflict⟩
    · rw [issues] at listed
      rcases List.mem_append.mp listed with before | added
      · exact Or.inr ⟨attempt, member, issue, before, conflict⟩
      · exact Or.inl ⟨issue, added, conflict⟩
  · rintro (⟨issue, added, conflict⟩ | ⟨other, inside, issue, listed, conflict⟩)
    · exact ⟨saved, mem_saveAttempt member same, issue, issues ▸ List.mem_append_right _ added, conflict⟩
    · by_cases replaced : other.id = saved.id
      · have identical : other = attempt := List.inj_on_of_nodup_map ids inside member (replaced.trans same)
        rw [identical] at listed
        exact ⟨saved, mem_saveAttempt member same, issue, issues ▸ List.mem_append_left _ listed, conflict⟩
      · exact ⟨other, List.mem_map.mpr ⟨other, inside, if_neg replaced⟩, issue, listed, conflict⟩

/-- A rejected job that a requeue refuses for a conflict. -/
def Blocked (job : SalesImportJob) : Prop :=
  job.status = .rejected ∧ (job.lastErrorCode = sourceRecordConflict ∨ hasConflictIssue job = true)

/-- Nothing changes a blocked job. -/
theorem jobStep_blocked {scope : Scope} {intake : SalesImport} {job next : SalesImportJob}
    (step : JobStep scope intake job next) (blocked : Blocked job) : next = job := by
  rcases jobStep_ended step (Or.inr blocked.1) with same | allowed
  · exact same
  · exact absurd blocked (requeueRefusal_none allowed).2.2.2

theorem requeueRefusal_blocked {job : SalesImportJob} (blocked : Blocked job) (intake : SalesImport) :
    ∃ message, requeueRefusal intake job = some message := by
  cases refusal : requeueRefusal intake job with
  | none => exact absurd blocked (requeueRefusal_none refusal).2.2.2
  | some message => exact ⟨message, rfl⟩

/-! ## Later requeues -/

section Runs
variable (settings : Settings) (ucd : PyText.UnicodeDatabase)

/-- Whatever comes between, a requeue is refused and leaves the job as it was. -/
def NeverRequeued (jobId : Uuid) (store : Store) : Prop :=
  ∀ events additionalAttempts env, 1 ≤ additionalAttempts →
    (∃ message, execute settings ucd env (.requeueJob jobId additionalAttempts)
        (run (step settings ucd) store events) = .error (.queueStateError message)) ∧
      findJob (step settings ucd (run (step settings ucd) store events)
        (.requeueJob jobId additionalAttempts, env)) jobId = findJob store jobId

variable {settings ucd} {store : Store} {jobId : Uuid} {intake : SalesImport} {job : SalesImportJob}

theorem requeueJob_blocked (found : findJob store jobId = some job) (blocked : Blocked job)
    {additionalAttempts : Nat} (positive : 1 ≤ additionalAttempts) (queuedAt : Instant) :
    ∃ message, requeueJob jobId additionalAttempts queuedAt store = .error (.queueStateError message) := by
  obtain ⟨intake, located, held⟩ := findJob_import found
  obtain ⟨message, refused⟩ := requeueRefusal_blocked blocked intake
  refine ⟨message, ?_⟩
  rw [requeueJob, if_neg (Nat.not_lt.mpr positive), located]
  dsimp only
  rw [held]
  dsimp only
  rw [refused]

/-- A blocked job stays as it is in every run. -/
theorem run_blocked (found : findJob store jobId = some job) (blocked : Blocked job)
    (events : List Event) : findJob (run (step settings ucd) store events) jobId = some job := by
  obtain ⟨final, reached, same⟩ := @run_job Scope.all settings ucd (fun other => other = job)
    (fun intake other next step same => by
      subst same
      exact jobStep_blocked step blocked) events (fun event _ => within_all event) _ _ _ found rfl
  rw [reached, same]

theorem neverRequeued_of_blocked (found : findJob store jobId = some job) (blocked : Blocked job) :
    NeverRequeued settings ucd jobId store := by
  intro events additionalAttempts env positive
  have reached := @run_blocked settings ucd _ _ _ found blocked events
  refine ⟨requeueJob_blocked reached blocked positive env.now, ?_⟩
  rw [found]
  have later := @run_blocked settings ucd _ _ _ found blocked
    (events ++ [(.requeueJob jobId additionalAttempts, env)])
  rwa [run_append] at later

/-- A rejected job of a readable file that is not blocked can be requeued at once. -/
theorem requeueRefusal_open (readable : Readable intake) (rejected : job.status = .rejected)
    (unblocked : ¬Blocked job) : requeueRefusal intake job = none := by
  have passes : ¬(job.status = .rejected ∧
      (job.lastErrorCode = sourceRecordConflict ∨ hasConflictIssue job = true)) := unblocked
  unfold requeueRefusal
  rw [if_neg (by simp [rejected]), if_neg (by simp [readable.received]), if_neg (by simp [readable.csv]),
    if_neg passes]

theorem requeued_of_open (located : findImport store jobId = some intake)
    (held : intake.processingJob = some job) (allowed : requeueRefusal intake job = none) :
    ¬NeverRequeued settings ucd jobId store := by
  intro never
  obtain ⟨⟨message, refused⟩, _⟩ := never [] 1 (Sample.environment 0 0 0) le_rfl
  change requeueJob jobId 1 0 store = _ at refused
  rw [requeueJob, if_neg (by decide), located] at refused
  dsimp only at refused
  rw [held] at refused
  dsimp only at refused
  rw [allowed] at refused
  dsimp only at refused
  split_ifs at refused
  cases refused

theorem neverRequeued_iff (located : findImport store jobId = some intake)
    (held : intake.processingJob = some job) (readable : Readable intake)
    (rejected : job.status = .rejected) : NeverRequeued settings ucd jobId store ↔ Blocked job := by
  constructor
  · intro never
    by_contra unblocked
    exact requeued_of_open located held (requeueRefusal_open readable rejected unblocked) never
  · intro blocked
    refine neverRequeued_of_blocked ?_ blocked
    rw [findJob, located]
    exact held

/-! ## A rejection that counted a conflict -/

/-- In any run, a publication that counts a conflict rejects its job, and the job can never be
requeued exactly when the first conflict is among the stored details, or an issue stored
before the publication is a conflict. -/
theorem conflict_final_iff (settings : Settings) (ucd : PyText.UnicodeDatabase) (start : Store)
    (coherent : Coherent start) (histories : ∀ pk job, findJob start pk = some job → History job)
    (before : List Event) (env : Environment) (claim : SalesImportClaim) (intake : SalesImport)
    (job : SalesImportJob) (attempt : SalesImportAttempt) (next : Store)
    (result : SalesImportProcessingResult)
    (live : lockedLiveClaim claim.jobId claim.leaseToken env.now
      (run (step settings ucd) start before) = .ok (job, attempt))
    (found : findImport (run (step settings ucd) start before) claim.jobId = some intake)
    (numbers : (attempt.stagedRows.map SalesImportStagedRow.rowNumber).Nodup)
    (counted : ∃ row ∈ attempt.stagedRows, conflicting env.snapshot intake.sourceSystem row = true)
    (done : execute settings ucd env (.publishOnce claim) (run (step settings ucd) start before) =
      .ok (result, next)) :
    result.status = .rejected ∧
      (NeverRequeued settings ucd claim.jobId next ↔
        ConflictListed env.snapshot intake.sourceSystem settings attempt.stagedRows ∨
          hasConflictIssue job = true) := by
  obtain ⟨checked, changed, counts, message, validated, same, issues, ends, saved⟩ :=
    publishOnce_conflict live found numbers counted done
  have lease := lockedLiveClaim_ok live
  have held : intake.processingJob = some job := by
    have known := lease.found
    rwa [findJob, found] at known
  have reachable := run_coherent settings ucd start coherent before
  have history : History job :=
    @run_jobs Scope.all settings ucd (fun _ => History) (fun _ _ => newJob_history)
      (fun _ _ _ _ => jobStep_history) start histories before (fun event _ => within_all event) _ _ lease.found
  have readable : Readable intake := by
    obtain ⟨member, _⟩ := ImportTable.find_some found
    obtain ⟨other, known, agrees⟩ := reachable intake member
    obtain rfl : other = job := Option.some.inj (known.symm.trans held)
    exact agrees.readable (by simp [lease.processing, needsFile])
  have located : findImport next claim.jobId = some (withJob (saveAttempt
      (finishedJob job .rejected counts "VALIDATION_REJECTED" message env.finishedAt) changed) intake) := by
    rw [saved, findImport_saveJob_same, found]
    rfl
  have stored := @hasConflictIssue_saved
    (finishedJob job .rejected counts "VALIDATION_REJECTED" message env.finishedAt) _ _ _ history.ids
    lease.member same issues
  refine ⟨by rw [ends], ?_⟩
  rw [neverRequeued_iff located rfl ⟨readable.received, readable.csv, readable.version⟩ rfl, Blocked, stored,
    stored_conflict_iff validated counted]
  have coded : "VALIDATION_REJECTED" ≠ sourceRecordConflict := by decide
  constructor
  · rintro ⟨_, code | listed⟩
    · exact absurd code coded
    · exact listed
  · intro listed
    exact ⟨rfl, Or.inr listed⟩

end Runs

namespace Sample

/-- The clock and the snapshot of a publication. -/
def publishing (table : FactTable) : Environment :=
  { environment 10 0 0 with snapshot := ⟨table, Validation.Sample.master⟩ }

theorem store_coherent (table : FactTable) (rows : List SalesImportStagedRow) :
    Coherent (Publication.Sample.store table rows) := by
  intro intake member
  rw [List.mem_singleton.mp member]
  have stored : (Publication.Sample.intake rows).storageVersionId = "v1" := rfl
  exact ⟨_, rfl, Readable.coherent ⟨rfl, rfl, by simp [stored]⟩ (by simp [Publication.Sample.job])⟩

theorem store_histories (table : FactTable) (rows : List SalesImportStagedRow) (pk : Uuid)
    (job : SalesImportJob) (found : findJob (Publication.Sample.store table rows) pk = some job) :
    History job := by
  obtain ⟨intake, located, held⟩ := findJob_import found
  obtain ⟨member, _⟩ := ImportTable.find_some located
  rw [List.mem_singleton.mp member] at held
  injection held with same
  rw [← same]
  constructor <;> simp [Publication.Sample.job, Publication.Sample.attempt]

/-- A row without a product, and after it one that differs from a stored fact. -/
def lateRows : List SalesImportStagedRow :=
  [Validation.Sample.row 2 "B-1" "NONE", Validation.Sample.row 3 "A-1" "PROD"]

/-- Two issues are stored at most, one of them the summary. -/
def tightSettings : Settings :=
  { Publication.Sample.settings with maxIssues := 2, maxIssues_positive := Nat.le_succ 1 }

end Sample

/-- The only row differs from a stored fact. -/
theorem conflict_final_iff_sample : ∃ next result,
    execute Publication.Sample.settings PyText.asciiDatabase
        (Sample.publishing (Validation.Sample.table "A-1")) (.publishOnce Publication.Sample.claim)
        (Publication.Sample.store (Validation.Sample.table "A-1")
          [Validation.Sample.row 2 "A-1" "PROD"]) = .ok (result, next) ∧
      (NeverRequeued Publication.Sample.settings PyText.asciiDatabase 3 next ↔
        ConflictListed ⟨Validation.Sample.table "A-1", Validation.Sample.master⟩ "ERP"
            Publication.Sample.settings [Validation.Sample.row 2 "A-1" "PROD"] ∨
          hasConflictIssue (Publication.Sample.job [Validation.Sample.row 2 "A-1" "PROD"]) = true) := by
  have accepted : (execute Publication.Sample.settings PyText.asciiDatabase
      (Sample.publishing (Validation.Sample.table "A-1")) (.publishOnce Publication.Sample.claim)
      (Publication.Sample.store (Validation.Sample.table "A-1")
        [Validation.Sample.row 2 "A-1" "PROD"])).isOk = true := by decide +kernel
  cases done : execute Publication.Sample.settings PyText.asciiDatabase
      (Sample.publishing (Validation.Sample.table "A-1")) (.publishOnce Publication.Sample.claim)
      (Publication.Sample.store (Validation.Sample.table "A-1") [Validation.Sample.row 2 "A-1" "PROD"]) with
  | error e =>
    rw [done] at accepted
    cases accepted
  | ok outcome =>
    refine ⟨outcome.2, outcome.1, rfl, ?_⟩
    exact (conflict_final_iff Publication.Sample.settings PyText.asciiDatabase _
      (Sample.store_coherent _ _) (Sample.store_histories _ _) []
      (Sample.publishing (Validation.Sample.table "A-1")) Publication.Sample.claim
      (Publication.Sample.intake [Validation.Sample.row 2 "A-1" "PROD"])
      (Publication.Sample.job [Validation.Sample.row 2 "A-1" "PROD"])
      (Publication.Sample.attempt [Validation.Sample.row 2 "A-1" "PROD"]) outcome.2 outcome.1 rfl rfl
      (by decide) ⟨_, List.mem_singleton_self _, by decide +kernel⟩ done).2

/-- A missing product takes the one detail that is kept, and the conflict behind it is requeued. -/
theorem lateConflict_requeued :
    ¬∀ (settings : Settings) (ucd : PyText.UnicodeDatabase) (store : Store) (env : Environment)
      (claim : SalesImportClaim) (intake : SalesImport) (job : SalesImportJob)
      (attempt : SalesImportAttempt) (next : Store) (result : SalesImportProcessingResult),
      Coherent store →
      lockedLiveClaim claim.jobId claim.leaseToken env.now store = .ok (job, attempt) →
      findImport store claim.jobId = some intake →
      (∃ row ∈ attempt.stagedRows, conflicting env.snapshot intake.sourceSystem row = true) →
      execute settings ucd env (.publishOnce claim) store = .ok (result, next) →
      NeverRequeued settings ucd claim.jobId next := by
  intro all
  have requeued : ((execute Sample.tightSettings PyText.asciiDatabase
      (Sample.publishing (Validation.Sample.table "A-1")) (.publishOnce Publication.Sample.claim)
      (Publication.Sample.store (Validation.Sample.table "A-1") Sample.lateRows)).bind
        (fun outcome => requeueJob 3 1 20 outcome.2)).isOk = true := by decide +kernel
  cases done : execute Sample.tightSettings PyText.asciiDatabase
      (Sample.publishing (Validation.Sample.table "A-1")) (.publishOnce Publication.Sample.claim)
      (Publication.Sample.store (Validation.Sample.table "A-1") Sample.lateRows) with
  | error e =>
    rw [done] at requeued
    cases requeued
  | ok outcome =>
    have never := all Sample.tightSettings PyText.asciiDatabase _
      (Sample.publishing (Validation.Sample.table "A-1")) Publication.Sample.claim
      (Publication.Sample.intake Sample.lateRows) (Publication.Sample.job Sample.lateRows)
      (Publication.Sample.attempt Sample.lateRows) outcome.2 outcome.1 (Sample.store_coherent _ _) rfl rfl
      ⟨_, List.mem_cons_of_mem _ (List.mem_singleton_self _), by decide +kernel⟩ done
    obtain ⟨⟨message, refused⟩, _⟩ := never [] 1 (Sample.environment 20 0 0) le_rfl
    rw [done] at requeued
    change requeueJob 3 1 20 outcome.2 = _ at refused
    change (requeueJob 3 1 20 outcome.2).isOk = true at requeued
    rw [refused] at requeued
    cases requeued

end PharmaIntel.System
