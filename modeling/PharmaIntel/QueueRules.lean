import Mathlib
import PharmaIntel.Queue
import PharmaIntel.Constraints

/-! What each queue operation reads and writes, said once: the live claim, saving, and
the counters a finished job may have. -/

namespace PharmaIntel.Queue
open PharmaIntel.Base PharmaIntel.Models PharmaIntel.Constraints

/-! ## Saving -/

@[simp] theorem findImport_saveJob_same (store : Store) (jobId : Uuid) (job : SalesImportJob) :
    findImport (saveJob store jobId job) jobId = (findImport store jobId).map (withJob job) :=
  ImportTable.find_update_same _ _ _ (withJob_stable job)

theorem findImport_saveJob_other (store : Store) {jobId other : Uuid} (job : SalesImportJob)
    (apart : other ≠ jobId) : findImport (saveJob store jobId job) other = findImport store other :=
  ImportTable.find_update_other _ _ (withJob_stable job) apart

theorem findJob_import {store : Store} {jobId : Uuid} {job : SalesImportJob}
    (found : findJob store jobId = some job) :
    ∃ intake, findImport store jobId = some intake ∧ intake.processingJob = some job :=
  Option.bind_eq_some_iff.mp found

theorem findJob_saveJob_same {store : Store} {jobId : Uuid} {intake : SalesImport}
    (found : findImport store jobId = some intake) (job : SalesImportJob) :
    findJob (saveJob store jobId job) jobId = some job := by
  rw [findJob, findImport_saveJob_same, found]
  rfl

theorem findJob_saveJob_other (store : Store) {jobId other : Uuid} (job : SalesImportJob)
    (apart : other ≠ jobId) : findJob (saveJob store jobId job) other = findJob store other := by
  rw [findJob, findImport_saveJob_other store job apart, findJob]

@[simp] theorem saveJob_factTable (store : Store) (jobId : Uuid) (job : SalesImportJob) :
    (saveJob store jobId job).factTable = store.factTable := rfl

@[simp] theorem saveJob_master (store : Store) (jobId : Uuid) (job : SalesImportJob) :
    (saveJob store jobId job).master = store.master := rfl

theorem mem_saveAttempt {job : SalesImportJob} {attempt saved : SalesImportAttempt}
    (member : attempt ∈ job.attempts) (same : saved.id = attempt.id) :
    saved ∈ (saveAttempt job saved).attempts := by
  refine List.mem_map.mpr ⟨attempt, member, ?_⟩
  rw [if_pos same.symm]

theorem saveAttempt_ids (job : SalesImportJob) (saved : SalesImportAttempt) :
    (saveAttempt job saved).attempts.map SalesImportAttempt.id = job.attempts.map SalesImportAttempt.id := by
  change (updateBy _ _ _ _).map _ = _
  rw [updateBy, List.map_map]
  apply List.map_congr_left
  intro attempt _
  rw [Function.comp_apply]
  split_ifs with here
  · exact here.symm
  · rfl

/-! ## The live claim -/

/-- The token holds the job's unexpired lease, and this running attempt carries it. -/
structure HoldsLease (job : SalesImportJob) (leaseToken : Uuid) (now : Instant)
    (attempt : SalesImportAttempt) : Prop where
  processing : job.status = .processing
  token : job.leaseToken = some leaseToken
  live : ∃ expiry, job.leaseExpiresAt = some expiry ∧ now < expiry
  member : attempt ∈ job.attempts
  attemptToken : attempt.leaseToken = leaseToken
  running : attempt.outcome = .running

structure LiveClaim (store : Store) (jobId leaseToken : Uuid) (now : Instant) (job : SalesImportJob)
    (attempt : SalesImportAttempt) : Prop extends HoldsLease job leaseToken now attempt where
  found : findJob store jobId = some job

theorem lockedLiveClaim_ok {store : Store} {jobId leaseToken : Uuid} {now : Instant}
    {job : SalesImportJob} {attempt : SalesImportAttempt}
    (locked : lockedLiveClaim jobId leaseToken now store = .ok (job, attempt)) :
    LiveClaim store jobId leaseToken now job attempt := by
  unfold lockedLiveClaim at locked
  split at locked
  · simp at locked
  · rename_i other filtered
    obtain ⟨found, conditions⟩ := Option.filter_eq_some_iff.mp filtered
    simp only [Bool.and_eq_true, decide_eq_true_eq, Option.any_eq_true] at conditions
    split at locked
    · simp at locked
    · rename_i running located
      injection locked with same
      injection same with sameJob sameAttempt
      subst sameJob sameAttempt
      have matching := List.find?_some located
      simp only [Bool.and_eq_true, decide_eq_true_eq] at matching
      exact ⟨⟨conditions.1.1, conditions.1.2, conditions.2, List.mem_of_find?_eq_some located,
        matching.1, matching.2⟩, found⟩

theorem fenced_ok {α : Type} {store next : Store} {jobId leaseToken : Uuid} {now : Instant} {value : α}
    {body : SalesImportJob → SalesImportAttempt → Outcome α}
    (done : fenced jobId leaseToken now store body = .ok (value, next)) :
    ∃ job attempt, LiveClaim store jobId leaseToken now job attempt ∧
      body job attempt = .ok (value, next) := by
  unfold fenced at done
  split at done
  · simp at done
  · rename_i job attempt locked
    exact ⟨job, attempt, lockedLiveClaim_ok locked, done⟩

theorem validateDuration_ok {value : Duration} (positive : 0 < value) (name : String) :
    validateDuration value name = .ok value := by
  rw [validateDuration, if_neg (not_le.mpr positive)]

theorem heartbeatJob_ok {store next : Store} {jobId leaseToken : Uuid} {leaseDuration : Duration}
    {now value : Instant} (done : heartbeatJob jobId leaseToken leaseDuration now store = .ok (value, next)) :
    ∃ job attempt, LiveClaim store jobId leaseToken now job attempt ∧
      next = saveJob store jobId (saveAttempt
        { job with heartbeatAt := some now, leaseExpiresAt := some (now + leaseDuration) }
        { attempt with heartbeatAt := now }) := by
  by_cases positive : 0 < leaseDuration
  · rw [heartbeatJob, validateDuration_ok positive] at done
    obtain ⟨job, attempt, live, saved⟩ := fenced_ok done
    exact ⟨job, attempt, live, (Prod.mk.inj (Except.ok.inj saved)).2.symm⟩
  · rw [heartbeatJob, validateDuration, if_pos (not_lt.mp positive)] at done
    cases done

/-! ## Counters -/

/-- `validate_for` accepts exactly the counters the table checks accept. -/
theorem validateFor_ok (counts : SalesImportJobCounts) (status : SalesImportJob.Status) :
    validateFor counts status = .ok () ↔
      CountsValid counts (status = .published) (status = .rejected) := by
  unfold validateFor
  constructor
  · intro accepted
    split_ifs at accepted with total issues dirty applied early none
    refine ⟨⟨by omega, by omega⟩, ?_, ?_⟩
    · by_cases published : status = .published
      · left
        refine ⟨published, ?_⟩
        simp only [published, true_and, not_or, not_not] at dirty applied
        omega
      · right
        refine ⟨published, ?_⟩
        simp only [ne_eq, published, not_false_eq_true, true_and, not_or, not_not] at early
        exact early
    · intro rejected
      by_contra zero
      exact none ⟨rejected, by omega⟩
  · intro valid
    have counts_valid := valid.counts_valid
    rw [if_neg (by omega), if_neg (by omega)]
    rcases valid.publish_counts_valid with ⟨published, invalid, issues, total, applied⟩ | ⟨other, inserted, reused⟩
    · rw [if_neg (by omega), if_neg (by omega), if_neg (by simp [published]),
        if_neg (by simp [published])]
    · rw [if_neg (by simp [other]), if_neg (by simp [other]), if_neg (by omega), if_neg]
      rintro ⟨rejected, zero⟩
      have positive := valid.rejection_has_issue rejected
      omega

end PharmaIntel.Queue
