import Mathlib
import PharmaIntel.Transitions

/-! The invariant of a job and its attempts. Every step of a job keeps it, so it holds in
every state of every run of transactions, whoever issues them and whatever times they read. -/

namespace PharmaIntel.System
open PharmaIntel.Base PharmaIntel.Models PharmaIntel.Constraints PharmaIntel.Queue PharmaIntel.Intake
  PharmaIntel.Publication

/-- The attempts that hold or have lost a lease: all are closed, except for the last one
while the job is processing. -/
inductive Leases (job : SalesImportJob) : Prop where
  | idle (status : job.status ≠ .processing)
      (closed : ∀ attempt ∈ job.attempts, attempt.outcome ≠ .running) : Leases job
  | leased (past : List SalesImportAttempt) (last : SalesImportAttempt) (status : job.status = .processing)
      (whole : job.attempts = past ++ [last]) (closed : ∀ attempt ∈ past, attempt.outcome ≠ .running)
      (running : last.outcome = .running) (token : job.leaseToken = some last.leaseToken)
      (number : last.attemptNumber = job.attemptCount) : Leases job

structure JobInvariant (job : SalesImportJob) : Prop where
  valid : JobValid job
  attempts : ∀ attempt ∈ job.attempts, AttemptValid attempt
  numbers : job.attempts.map SalesImportAttempt.attemptNumber = List.range' 1 job.attemptCount
  ids : (job.attempts.map SalesImportAttempt.id).Nodup
  leases : Leases job

/-! ## Counters and checks -/

theorem CountsValid.unpublished {counts : SalesImportJobCounts} {p r p' r' : Prop}
    (valid : CountsValid counts p r) (before : ¬p) (after : ¬p') (unrejected : ¬r') :
    CountsValid counts p' r' where
  counts_valid := valid.counts_valid
  publish_counts_valid := by
    rcases valid.publish_counts_valid with ⟨published, _⟩ | ⟨_, applied⟩
    · exact absurd published before
    · exact Or.inr ⟨after, applied⟩
  rejection_has_issue := fun rejected => absurd rejected unrejected

theorem countsValid_zero {p r : Prop} (unpublished : ¬p) (unrejected : ¬r) :
    CountsValid ({} : SalesImportJobCounts) p r :=
  ⟨⟨rfl, le_rfl⟩, Or.inr ⟨unpublished, rfl, rfl⟩, fun rejected => absurd rejected unrejected⟩

theorem CountsValid.congr {counts : SalesImportJobCounts} {p r p' r' : Prop}
    (valid : CountsValid counts p r) (published : p ↔ p') (rejected : r' → r) : CountsValid counts p' r' where
  counts_valid := valid.counts_valid
  publish_counts_valid := by
    rw [← published]
    exact valid.publish_counts_valid
  rejection_has_issue := fun holds => valid.rejection_has_issue (rejected holds)

/-- The checks on a job do not read its attempts. -/
theorem JobValid.withAttempts {job : SalesImportJob} (valid : JobValid job)
    (attempts : List SalesImportAttempt) : JobValid { job with attempts := attempts } :=
  ⟨valid.attempts_valid, valid.maxAttempts_limit, valid.counts, valid.lease_consistent,
    valid.finished_consistent, valid.worker_limit, valid.worker_trimmed, valid.errorCode_limit,
    valid.errorMessage_limit⟩

theorem JobValid.unleased {job : SalesImportJob} (valid : JobValid job) (idle : job.status ≠ .processing) :
    job.leaseToken = none ∧ job.leasedBy = "" ∧ job.leaseExpiresAt = none ∧ job.heartbeatAt = none := by
  rcases valid.lease_consistent with ⟨processing, _⟩ | ⟨_, cleared⟩
  · exact absurd processing idle
  · exact cleared

theorem JobValid.started {job : SalesImportJob} (valid : JobValid job) (processing : job.status = .processing) :
    job.leaseToken ≠ none ∧ job.leaseExpiresAt ≠ none ∧ job.heartbeatAt ≠ none ∧
      job.firstStartedAt ≠ none ∧ job.finishedAt = none ∧ job.leasedBy ≠ "" := by
  rcases valid.lease_consistent with ⟨_, leased⟩ | ⟨idle, _⟩
  · exact leased
  · exact absurd processing idle

/-- A job that has lost its lease passes the checks with valid counters and an end time
exactly when it is over. -/
theorem JobValid.cleared {job : SalesImportJob} (valid : JobValid job) (status : SalesImportJob.Status)
    (availableAt : Instant) (maxAttempts : Nat) (finishedAt : Option Instant) (counts : SalesImportJobCounts)
    (errorCode errorMessage : String) (idle : status ≠ .processing)
    (larger : job.maxAttempts ≤ maxAttempts) (bounded : maxAttempts ≤ 32767)
    (counted : CountsValid counts (status = .published) (status = .rejected))
    (ended : status.isTerminal ↔ finishedAt ≠ none)
    (limits : errorCode.length ≤ 64 ∧ errorMessage.length ≤ 1000) :
    JobValid { clearJobLease job with
      status := status
      availableAt := availableAt
      maxAttempts := maxAttempts
      finishedAt := finishedAt
      counts := counts
      lastErrorCode := errorCode
      lastErrorMessage := errorMessage } where
  attempts_valid := by
    have attempts := valid.attempts_valid
    exact ⟨lt_of_lt_of_le attempts.1 larger, le_trans attempts.2 larger⟩
  maxAttempts_limit := bounded
  counts := counted
  lease_consistent := Or.inr ⟨idle, rfl, rfl, rfl, rfl⟩
  finished_consistent := ended
  worker_limit := Nat.zero_le _
  worker_trimmed := trim_empty.symm
  errorCode_limit := limits.1
  errorMessage_limit := limits.2

/-- A processing job with other counters, heartbeat and expiry. -/
theorem JobValid.renewed {job : SalesImportJob} (valid : JobValid job) (processing : job.status = .processing)
    (counts : SalesImportJobCounts) (heartbeatAt leaseExpiresAt : Option Instant)
    (counted : CountsValid counts False False) (beats : heartbeatAt ≠ none) (expires : leaseExpiresAt ≠ none) :
    JobValid { job with counts := counts, heartbeatAt := heartbeatAt, leaseExpiresAt := leaseExpiresAt } where
  attempts_valid := valid.attempts_valid
  maxAttempts_limit := valid.maxAttempts_limit
  counts := CountsValid.unpublished counted id (by simp [processing]) (by simp [processing])
  lease_consistent := by
    obtain ⟨token, _, _, started, finished, worker⟩ := JobValid.started valid processing
    exact Or.inl ⟨processing, token, expires, beats, started, finished, worker⟩
  finished_consistent := valid.finished_consistent
  worker_limit := valid.worker_limit
  worker_trimmed := valid.worker_trimmed
  errorCode_limit := valid.errorCode_limit
  errorMessage_limit := valid.errorMessage_limit

theorem JobValid.processingCounts {job : SalesImportJob} (valid : JobValid job)
    (processing : job.status = .processing) : CountsValid job.counts False False :=
  CountsValid.unpublished valid.counts (by simp [processing]) id id

/-! ## The running attempt -/

section Lease
variable {job : SalesImportJob} {leaseToken : Uuid} {now : Instant} {attempt : SalesImportAttempt}

/-- The attempt a worker finds under its lease is the last one. -/
theorem JobInvariant.last (holds : JobInvariant job) (lease : HoldsLease job leaseToken now attempt) :
    ∃ past, job.attempts = past ++ [attempt] ∧ (∀ other ∈ past, other.outcome ≠ .running) ∧
      job.leaseToken = some attempt.leaseToken ∧ attempt.attemptNumber = job.attemptCount := by
  cases holds.leases with
  | idle status closed => exact absurd lease.processing status
  | leased past last status whole closed running token number =>
    have member := lease.member
    rw [whole] at member
    rcases List.mem_append.mp member with before | here
    · exact absurd lease.running (closed attempt before)
    · obtain rfl := List.mem_singleton.mp here
      exact ⟨past, whole, closed, token, number⟩

theorem saveAttempt_last {saved : SalesImportAttempt} {past : List SalesImportAttempt}
    (ids : (job.attempts.map SalesImportAttempt.id).Nodup) (whole : job.attempts = past ++ [attempt])
    (same : saved.id = attempt.id) : (saveAttempt job saved).attempts = past ++ [saved] := by
  rw [whole, List.map_append, List.nodup_append] at ids
  have apart : ∀ other ∈ past, other.id ≠ saved.id := by
    intro other member equal
    exact ids.2.2 other.id (List.mem_map_of_mem member) attempt.id (by simp) (equal.trans same)
  change updateBy SalesImportAttempt.id saved.id (fun _ => saved) job.attempts = _
  rw [whole, updateBy, List.map_append, List.map_singleton, if_pos same.symm]
  congr 1
  conv_rhs => rw [← List.map_id past]
  apply List.map_congr_left
  intro other member
  rw [if_neg (apart other member), id]

/-- A worker's change of its job and of the last attempt. -/
theorem JobInvariant.save {changed : SalesImportJob} {saved : SalesImportAttempt}
    (holds : JobInvariant job) (lease : HoldsLease job leaseToken now attempt)
    (kept : changed.attempts = job.attempts ∧ changed.attemptCount = job.attemptCount)
    (same : saved.id = attempt.id ∧ saved.attemptNumber = attempt.attemptNumber)
    (jobValid : JobValid changed) (attemptValid : AttemptValid saved)
    (ends : changed.status = .processing ∧ changed.leaseToken = job.leaseToken ∧
        saved.outcome = .running ∧ saved.leaseToken = attempt.leaseToken ∨
      changed.status ≠ .processing ∧ saved.outcome ≠ .running) :
    JobInvariant (saveAttempt changed saved) := by
  obtain ⟨past, whole, closed, token, number⟩ := holds.last lease
  have ids := holds.ids
  have numbers := holds.numbers
  have valid := holds.attempts
  have after : (saveAttempt changed saved).attempts = past ++ [saved] :=
    saveAttempt_last (kept.1 ▸ ids) (kept.1.trans whole) same.1
  rw [whole] at ids numbers valid
  refine ⟨JobValid.withAttempts jobValid _, ?_, ?_, ?_, ?_⟩
  · intro other member
    rw [after] at member
    rcases List.mem_append.mp member with before | here
    · exact valid other (List.mem_append_left _ before)
    · rw [List.mem_singleton.mp here]
      exact attemptValid
  · change (saveAttempt changed saved).attempts.map _ = List.range' 1 changed.attemptCount
    rw [after, kept.2, ← numbers]
    simp [same.2]
  · rw [after]
    simpa [same.1] using ids
  · rcases ends with ⟨processing, sameToken, running, sameLease⟩ | ⟨idle, finished⟩
    · refine .leased past saved processing after closed running ?_ ?_
      · change changed.leaseToken = _
        rw [sameToken, token, sameLease]
      · change _ = changed.attemptCount
        rw [same.2, number, kept.2]
    · refine .idle idle ?_
      intro other member
      rw [after] at member
      rcases List.mem_append.mp member with before | here
      · exact closed other before
      · rw [List.mem_singleton.mp here]
        exact finished

end Lease

/-! ## Expiry -/

/-- A job whose attempts are all closed, otherwise unchanged. -/
structure Released (job released : SalesImportJob) : Prop where
  same : released = { job with attempts := released.attempts }
  attempts : ∀ attempt ∈ released.attempts, AttemptValid attempt
  numbers : released.attempts.map SalesImportAttempt.attemptNumber = List.range' 1 job.attemptCount
  ids : released.attempts.map SalesImportAttempt.id = job.attempts.map SalesImportAttempt.id
  closed : ∀ attempt ∈ released.attempts, attempt.outcome ≠ .running

theorem AttemptValid.expire {attempt : SalesImportAttempt} (valid : AttemptValid attempt)
    (running : attempt.outcome = .running) (now : Instant) : AttemptValid (expireAttempt attempt now) where
  number_positive := valid.number_positive
  worker_valid := valid.worker_valid
  worker_limit := valid.worker_limit
  finished_consistent := by simp [expireAttempt]
  counts := CountsValid.unpublished valid.counts (by simp [running]) (by simp [expireAttempt])
    (by simp [expireAttempt])
  errorCode_limit := (by decide : "LEASE_EXPIRED".length ≤ 64)
  errorMessage_limit := (by decide : "The worker did not renew its lease before expiry.".length ≤ 1000)

/-- A job without a lease as it is, or a processing one with its last attempt closed. -/
inductive LeaseEnds (now : Instant) (job : SalesImportJob) : SalesImportJob → Prop where
  | idle (status : job.status ≠ .processing)
      (closed : ∀ attempt ∈ job.attempts, attempt.outcome ≠ .running) : LeaseEnds now job job
  | expired (past : List SalesImportAttempt) (last : SalesImportAttempt) (status : job.status = .processing)
      (whole : job.attempts = past ++ [last]) (closed : ∀ attempt ∈ past, attempt.outcome ≠ .running)
      (running : last.outcome = .running) :
      LeaseEnds now job { job with attempts := past ++ [expireAttempt last now] }

/-- Under the invariant an expired lease can always be closed: no job is stranded. -/
theorem JobInvariant.leaseEnds {job : SalesImportJob} (holds : JobInvariant job) (now : Instant) :
    ∃ released, releaseExpired job now = .ok released ∧ LeaseEnds now job released := by
  cases holds.leases with
  | idle status closed => exact ⟨job, by rw [releaseExpired, if_neg status], .idle status closed⟩
  | leased past last status whole closed running token number =>
    have unmatched : ∀ other ∈ past, matchesLease job other = false := by
      intro other member
      simp [matchesLease, closed other member]
    have matched : matchesLease job last = true := by simp [matchesLease, token, running]
    have counted : job.attempts.countP (matchesLease job) = 1 := by
      rw [whole, List.countP_append, List.countP_singleton, if_pos matched, List.countP_eq_zero.mpr]
      intro other member
      simp [unmatched other member]
    have expired : job.attempts.map (fun attempt =>
        if matchesLease job attempt then expireAttempt attempt now else attempt) =
          past ++ [expireAttempt last now] := by
      rw [whole, List.map_append, List.map_singleton, if_pos matched]
      congr 1
      conv_rhs => rw [← List.map_id past]
      apply List.map_congr_left
      intro other member
      simp [unmatched other member]
    refine ⟨_, ?_, .expired past last status whole closed running⟩
    rw [releaseExpired, if_pos status, finishExpiredAttempt, if_neg (by simp [counted]), expired]

theorem LeaseEnds.released {now : Instant} {job released : SalesImportJob} (holds : JobInvariant job)
    (ends : LeaseEnds now job released) : Released job released := by
  cases ends with
  | idle status closed => exact ⟨rfl, holds.attempts, holds.numbers, rfl, closed⟩
  | expired past last status whole closed running =>
    have valid := holds.attempts
    have numbers := holds.numbers
    rw [whole] at valid numbers
    refine ⟨rfl, ?_, ?_, ?_, ?_⟩
    · intro other member
      rcases List.mem_append.mp member with before | here
      · exact valid other (List.mem_append_left _ before)
      · rw [List.mem_singleton.mp here]
        exact AttemptValid.expire (valid last (by simp)) running now
    · rw [← numbers]
      simp [expireAttempt]
    · rw [whole]
      simp [expireAttempt]
    · intro other member
      rcases List.mem_append.mp member with before | here
      · exact closed other before
      · rw [List.mem_singleton.mp here]
        simp [expireAttempt]

theorem JobInvariant.release {job : SalesImportJob} (holds : JobInvariant job) (now : Instant) :
    ∃ released, releaseExpired job now = .ok released ∧ Released job released := by
  obtain ⟨released, done, ends⟩ := holds.leaseEnds now
  exact ⟨released, done, ends.released holds⟩

theorem JobInvariant.released {job released : SalesImportJob} {now : Instant} (holds : JobInvariant job)
    (release : releaseExpired job now = .ok released) : Released job released := by
  obtain ⟨other, done, facts⟩ := holds.release now
  obtain rfl : other = released := Except.ok.inj (done.symm.trans release)
  exact facts

/-! ## New jobs -/

theorem desiredStatus_cases (intake : SalesImport) (now : Instant) :
    (desiredStatus intake now = (.waitingForFile, none) ∨ desiredStatus intake now = (.queued, none) ∨
      desiredStatus intake now = (.awaitingParser, none)) ∨ desiredStatus intake now = (.failed, some now) := by
  unfold desiredStatus
  cases intake.status with
  | receiving => exact Or.inl (Or.inl rfl)
  | received =>
    left
    by_cases csv : intake.fileFormat = .csv
    · exact Or.inr (Or.inl (by simp [csv]))
    · exact Or.inr (Or.inr (by simp [csv]))
  | failed => exact Or.inr rfl

theorem newJob_invariant {job : SalesImportJob} (isNew : IsNew job) : JobInvariant job := by
  obtain ⟨intake, maxAttempts, now, createdAt, jobless, bounds, rfl⟩ := isNew
  rw [enqueuedJob, jobless]
  dsimp only
  have idle : ∀ status finishedAt, status ≠ .processing → status ≠ .published → status ≠ .rejected →
      (SalesImportJob.Status.isTerminal status ↔ finishedAt ≠ none) → JobInvariant
        { status := status, availableAt := now, maxAttempts := maxAttempts, finishedAt := finishedAt,
          createdAt := createdAt } := by
    intro status finishedAt idle unpublished unrejected ended
    refine ⟨⟨⟨bounds.1, Nat.zero_le _⟩, bounds.2, countsValid_zero unpublished unrejected,
      Or.inr ⟨idle, rfl, rfl, rfl, rfl⟩, ended, Nat.zero_le _, trim_empty.symm, Nat.zero_le _,
      Nat.zero_le _⟩, by simp, rfl, List.nodup_nil, .idle idle (by simp)⟩
  rcases desiredStatus_cases intake now with (same | same | same) | same <;> rw [same] <;>
    exact idle _ _ (by simp) (by simp) (by simp) (by simp [SalesImportJob.Status.isTerminal])

/-! ## Every step -/

section Steps
variable {intake : SalesImport} {job : SalesImportJob}

theorem isDue_status {now : Instant} (due : isDue now job = true) :
    job.status = .queued ∨ job.status = .retryWait ∨ job.status = .processing := by
  simp only [isDue, Bool.or_eq_true, Bool.and_eq_true, decide_eq_true_eq] at due
  rcases due with ⟨queued | waiting, _⟩ | ⟨processing, _⟩
  · exact Or.inl queued
  · exact Or.inr (Or.inl waiting)
  · exact Or.inr (Or.inr processing)

/-- An idle job after a change of its own columns. -/
theorem JobInvariant.idle {changed : SalesImportJob} (holds : JobInvariant job)
    (idle : job.status ≠ .processing) (kept : changed.attempts = job.attempts)
    (count : changed.attemptCount = job.attemptCount) (valid : JobValid changed)
    (still : changed.status ≠ .processing) : JobInvariant changed := by
  refine ⟨valid, kept ▸ holds.attempts, ?_, kept ▸ holds.ids, ?_⟩
  · rw [kept, count, holds.numbers]
  · cases holds.leases with
    | idle _ closed => exact .idle still (kept ▸ closed)
    | leased _ _ status => exact absurd status idle

theorem clearJobLease_idle (valid : JobValid job) (idle : job.status ≠ .processing) :
    clearJobLease job = job := by
  obtain ⟨token, worker, expiry, heartbeat⟩ := JobValid.unleased valid idle
  cases job
  subst token worker expiry heartbeat
  rfl

theorem waited_invariant (holds : JobInvariant job) (desired : SalesImportJob.Status) (now : Instant) :
    JobInvariant (advanceWaitingJob job desired now) := by
  have unfinished : job.status = .waitingForFile → job.finishedAt = none := by
    intro waiting
    have ended := holds.valid.finished_consistent
    rw [waiting] at ended
    by_contra finished
    exact absurd (ended.mpr finished) (by decide)
  have codes := And.intro holds.valid.errorCode_limit holds.valid.errorMessage_limit
  unfold advanceWaitingJob
  split_ifs with advance fail
  · obtain ⟨waiting, desired⟩ := advance
    have idle : job.status ≠ .processing := by simp [waiting]
    have counted := @CountsValid.unpublished _ _ _ False False holds.valid.counts
      (by simp [waiting]) id id
    rcases desired with rfl | rfl
    · have valid := JobValid.cleared holds.valid .queued now job.maxAttempts job.finishedAt job.counts
        job.lastErrorCode job.lastErrorMessage (by decide) le_rfl holds.valid.maxAttempts_limit
        (CountsValid.unpublished counted id (by decide) (by decide))
        (by simp [unfinished waiting, SalesImportJob.Status.isTerminal]) codes
      rw [clearJobLease_idle holds.valid idle] at valid
      exact holds.idle idle rfl rfl valid (by simp)
    · have valid := JobValid.cleared holds.valid .awaitingParser now job.maxAttempts job.finishedAt job.counts
        job.lastErrorCode job.lastErrorMessage (by decide) le_rfl holds.valid.maxAttempts_limit
        (CountsValid.unpublished counted id (by decide) (by decide))
        (by simp [unfinished waiting, SalesImportJob.Status.isTerminal]) codes
      rw [clearJobLease_idle holds.valid idle] at valid
      exact holds.idle idle rfl rfl valid (by simp)
  · have idle : job.status ≠ .processing := by simp [fail.1]
    have valid := JobValid.cleared holds.valid .failed job.availableAt job.maxAttempts (some now) job.counts
      "INTAKE_STORAGE_FAILED" "The original file was not stored successfully." (by decide) le_rfl
      holds.valid.maxAttempts_limit (CountsValid.unpublished holds.valid.counts (by simp [fail.1])
        (by decide) (by decide)) (by simp [SalesImportJob.Status.isTerminal]) (by decide)
    rw [clearJobLease_idle holds.valid idle] at valid
    exact holds.idle idle rfl rfl valid (by simp)
  · exact holds

theorem requeueRefusal_none (allowed : requeueRefusal intake job = none) :
    (job.status = .failed ∨ job.status = .rejected) ∧ intake.status = .received ∧
      intake.fileFormat = .csv ∧
      ¬(job.status = .rejected ∧ (job.lastErrorCode = sourceRecordConflict ∨ hasConflictIssue job)) := by
  unfold requeueRefusal at allowed
  split_ifs at allowed with status received format conflict
  exact ⟨status, not_not.mp received, not_not.mp format, conflict⟩

theorem requeued_invariant (holds : JobInvariant job) {additionalAttempts : Nat} (queuedAt : Instant)
    (allowed : requeueRefusal intake job = none)
    (bounded : max job.maxAttempts job.attemptCount + additionalAttempts ≤ 32767) :
    JobInvariant (requeuedJob job additionalAttempts queuedAt) := by
  have idle : job.status ≠ .processing := by
    rcases (requeueRefusal_none allowed).1 with failed | rejected
    · simp [failed]
    · simp [rejected]
  refine holds.idle idle rfl rfl ?_ (by simp [requeuedJob])
  exact JobValid.cleared holds.valid .queued queuedAt _ none {} "" "" (by decide)
    (le_trans (le_max_left _ _) (Nat.le_add_right _ _)) bounded
    (countsValid_zero (by decide) (by decide)) (by decide) (by decide)

/-- An idle job is not published or rejected, so its counters name no applied rows. -/
theorem due_counts (holds : JobInvariant job) {now : Instant} (due : isDue now job = true) :
    CountsValid job.counts False False := by
  apply CountsValid.unpublished holds.valid.counts ?_ id id
  rcases isDue_status due with status | status | status <;> simp [status]

theorem exhausted_invariant (holds : JobInvariant job) {now : Instant} {released : SalesImportJob}
    (due : isDue now job = true) (release : releaseExpired job now = .ok released) :
    JobInvariant (markExhausted released now) := by
  have facts := holds.released release
  have same := facts.same
  refine ⟨?_, facts.attempts, ?_, ?_, .idle (by simp [markExhausted]) facts.closed⟩
  · rw [same]
    exact JobValid.withAttempts (JobValid.cleared holds.valid .failed job.availableAt job.maxAttempts (some now)
      job.counts "ATTEMPT_LIMIT_EXHAUSTED" "The sales import exhausted its worker attempts." (by decide)
      le_rfl holds.valid.maxAttempts_limit
      (CountsValid.unpublished (due_counts holds due) id (by decide) (by decide))
      (by simp [SalesImportJob.Status.isTerminal]) (by decide)) _
  · change released.attempts.map _ = List.range' 1 released.attemptCount
    rw [facts.numbers, same]
  · change (released.attempts.map _).Nodup
    rw [facts.ids]
    exact holds.ids

theorem claimed_invariant (holds : JobInvariant job) {now : Instant} {released : SalesImportJob}
    (workerId : WorkerId) (expiry : Instant) (draw : ClaimDraw) (left : hasAttemptsLeft job = true)
    (release : releaseExpired job now = .ok released)
    (fresh : draw.attemptId ∉ job.attempts.map SalesImportAttempt.id) :
    JobInvariant (claimedJob released workerId.text now expiry draw.leaseToken draw.attemptId) := by
  have facts := holds.released release
  have same := facts.same
  have count : released.attemptCount = job.attemptCount := by rw [same]
  have maximum : released.maxAttempts = job.maxAttempts := by rw [same]
  have left : job.attemptCount < job.maxAttempts := of_decide_eq_true left
  have trimmed := trim_of_stripped workerId.stripped
  refine ⟨?_, ?_, ?_, ?_, ?_⟩
  · refine ⟨?_, ?_, countsValid_zero (by simp [claimedJob]) (by simp [claimedJob]), ?_, ?_,
      workerId.limit, trimmed, Nat.zero_le _, Nat.zero_le _⟩
    · change 0 < released.maxAttempts ∧ released.attemptCount + 1 ≤ released.maxAttempts
      omega
    · change released.maxAttempts ≤ 32767
      exact maximum ▸ holds.valid.maxAttempts_limit
    · exact Or.inl ⟨rfl, by simp [claimedJob], by simp [claimedJob], by simp [claimedJob],
        by simp [claimedJob], rfl, workerId.nonempty⟩
    · simp [claimedJob, SalesImportJob.Status.isTerminal]
  · intro attempt member
    rcases List.mem_append.mp member with before | here
    · exact facts.attempts attempt before
    · rw [List.mem_singleton.mp here]
      exact ⟨Nat.succ_pos _, ⟨trimmed, workerId.nonempty⟩, workerId.limit, by simp,
        countsValid_zero (by simp) (by simp), Nat.zero_le _, Nat.zero_le _⟩
  · simp only [claimedJob, List.map_append, facts.numbers, List.map_cons, List.map_nil, count]
    rw [List.range'_1_concat, Nat.add_comm]
  · simp only [claimedJob, List.map_append, facts.ids, List.map_cons, List.map_nil]
    rw [List.nodup_append]
    refine ⟨holds.ids, by simp, ?_⟩
    intro id member other here equal
    rw [List.mem_singleton.mp here] at equal
    exact fresh (equal ▸ member)
  · exact .leased released.attempts _ rfl rfl facts.closed rfl rfl rfl

section Worker
variable {leaseToken : Uuid} {now : Instant} {attempt : SalesImportAttempt}

/-- A running attempt is valid with its own identity and any consistent counters. -/
theorem AttemptValid.running {changed : SalesImportAttempt} (valid : AttemptValid attempt)
    (same : changed.attemptNumber = attempt.attemptNumber ∧ changed.workerId = attempt.workerId ∧
      changed.finishedAt = attempt.finishedAt ∧ changed.errorCode = attempt.errorCode ∧
      changed.errorMessage = attempt.errorMessage)
    (outcome : changed.outcome = attempt.outcome) (running : attempt.outcome = .running)
    (counted : CountsValid changed.counts False False) : AttemptValid changed := by
  obtain ⟨number, worker, finished, code, message⟩ := same
  refine ⟨number ▸ valid.number_positive, worker ▸ valid.worker_valid, worker ▸ valid.worker_limit, ?_,
    CountsValid.unpublished counted id (by simp [outcome, running]) (by simp [outcome, running]),
    code ▸ valid.errorCode_limit, message ▸ valid.errorMessage_limit⟩
  rw [outcome, finished]
  exact valid.finished_consistent

theorem AttemptValid.runningCounts (valid : AttemptValid attempt) (running : attempt.outcome = .running) :
    CountsValid attempt.counts False False :=
  CountsValid.unpublished valid.counts (by simp [running]) id id

/-- A closed attempt with the counters and error of its end. -/
theorem AttemptValid.close {changed : SalesImportAttempt} (valid : AttemptValid attempt)
    (same : changed.attemptNumber = attempt.attemptNumber ∧ changed.workerId = attempt.workerId)
    (closed : changed.outcome ≠ .running) (finished : changed.finishedAt ≠ none)
    (counted : CountsValid changed.counts (changed.outcome = .published) (changed.outcome = .rejected))
    (limits : changed.errorCode.length ≤ 64 ∧ changed.errorMessage.length ≤ 1000) : AttemptValid changed := by
  obtain ⟨number, worker⟩ := same
  exact ⟨number ▸ valid.number_positive, worker ▸ valid.worker_valid, worker ▸ valid.worker_limit,
    ⟨fun running => absurd running closed, fun none => absurd none finished⟩, counted, limits.1, limits.2⟩

/-- Progress as the staging loop reports it. -/
def Balanced (batch : Staging.ParseBatch) : Prop :=
  batch.progress.totalRows = batch.progress.validRows + batch.progress.invalidRows ∧
    batch.progress.invalidRows ≤ batch.progress.issueCount

theorem withProgress_valid {counts : SalesImportJobCounts} {batch : Staging.ParseBatch}
    (counted : CountsValid counts False False) (balanced : Balanced batch) :
    CountsValid (withProgress counts batch.progress) False False := by
  refine ⟨balanced, ?_, False.elim⟩
  rcases counted.publish_counts_valid with ⟨impossible, _⟩ | ⟨_, applied⟩
  · exact impossible.elim
  · exact Or.inr ⟨id, applied⟩

theorem terminal_facts {status : SalesImportJob.Status} {outcome : SalesImportAttempt.Outcome}
    (terminal : terminalOutcome status = some outcome) :
    status.isTerminal = true ∧ status ≠ .processing ∧ outcome ≠ .running ∧
      (outcome = .published ↔ status = .published) ∧ (outcome = .rejected ↔ status = .rejected) := by
  cases status <;> simp [terminalOutcome] at terminal <;> subst terminal <;>
    simp [SalesImportJob.Status.isTerminal]

end Worker

variable {scope : Scope}

/-- Every step of a job keeps the invariant. -/
theorem jobStep_invariant {next : SalesImportJob} (balanced : ∀ batch, scope.batch batch → Balanced batch)
    (step : JobStep scope intake job next) (holds : JobInvariant job) : JobInvariant next := by
  have valid := holds.valid
  have limit := holds.valid.maxAttempts_limit
  cases step with
  | waited now => exact waited_invariant holds _ now
  | requeued additionalAttempts queuedAt positive within allowed bounded =>
    exact requeued_invariant holds queuedAt allowed bounded
  | exhausted now released due spent release => exact exhausted_invariant holds due release
  | claimed workerId now expiry draw released due left release within fresh =>
    exact claimed_invariant holds workerId expiry draw left release fresh
  | renewed leaseToken now expiry attempt lease =>
    have attemptValid := holds.attempts attempt lease.member
    have counted := AttemptValid.runningCounts attemptValid lease.running
    refine holds.save lease ⟨rfl, rfl⟩ ⟨rfl, rfl⟩ ?_ ?_
      (Or.inl ⟨lease.processing, rfl, lease.running, rfl⟩)
    · exact JobValid.renewed valid lease.processing job.counts (some now) (some expiry)
        (JobValid.processingCounts valid lease.processing) (by simp) (by simp)
    · exact AttemptValid.running attemptValid ⟨rfl, rfl, rfl, rfl, rfl⟩ rfl lease.running counted
  | phased leaseToken now attempt phase lease =>
    have attemptValid := holds.attempts attempt lease.member
    have counted := AttemptValid.runningCounts attemptValid lease.running
    refine holds.save lease ⟨rfl, rfl⟩ ⟨rfl, rfl⟩ valid ?_
      (Or.inl ⟨lease.processing, rfl, lease.running, rfl⟩)
    exact AttemptValid.running attemptValid ⟨rfl, rfl, rfl, rfl, rfl⟩ rfl lease.running counted
  | parsed leaseToken now expiry attempt batch lease within =>
    have attemptValid := holds.attempts attempt lease.member
    refine holds.save lease ⟨rfl, rfl⟩ ⟨rfl, rfl⟩ ?_ ?_
      (Or.inl ⟨lease.processing, rfl, lease.running, rfl⟩)
    · exact JobValid.renewed valid lease.processing _ (some now) (some expiry)
        (withProgress_valid (JobValid.processingCounts valid lease.processing) (balanced batch within))
        (by simp) (by simp)
    · exact AttemptValid.running attemptValid ⟨rfl, rfl, rfl, rfl, rfl⟩ rfl lease.running
        (withProgress_valid (AttemptValid.runningCounts attemptValid lease.running)
          (balanced batch within))
  | retried leaseToken now attempt errorCode errorMessage delay lease counted =>
    have attemptValid := holds.attempts attempt lease.member
    have running := JobValid.processingCounts valid lease.processing
    have limits := And.intro (boundedText_length 64 errorCode) (boundedText_length 1000 errorMessage)
    have closes : AttemptValid (retriedAttempt attempt job.counts errorCode errorMessage now) :=
      AttemptValid.close attemptValid ⟨rfl, rfl⟩ (by simp [retriedAttempt]) (by simp [retriedAttempt])
        (CountsValid.unpublished running id (by simp [retriedAttempt]) (by simp [retriedAttempt])) limits
    by_cases spent : job.maxAttempts ≤ job.attemptCount
    · rw [retriedJob, if_pos spent]
      refine holds.save lease ⟨rfl, rfl⟩ ⟨rfl, rfl⟩ ?_ closes
        (Or.inr ⟨by simp, by simp [retriedAttempt]⟩)
      exact JobValid.cleared valid .failed job.availableAt job.maxAttempts (some now) job.counts _ _ (by decide)
        le_rfl limit (CountsValid.unpublished running id (by decide) (by decide))
        (by simp [SalesImportJob.Status.isTerminal]) limits
    · rw [retriedJob, if_neg spent]
      refine holds.save lease ⟨rfl, rfl⟩ ⟨rfl, rfl⟩ ?_ closes
        (Or.inr ⟨by simp, by simp [retriedAttempt]⟩)
      exact JobValid.cleared valid .retryWait _ job.maxAttempts none job.counts _ _ (by decide) le_rfl limit
        (CountsValid.unpublished running id (by decide) (by decide)) (by decide) limits
  | finished leaseToken now finishedAt attempt changed status outcome counts errorCode errorMessage lease
      same terminal counted limits =>
    have attemptValid := holds.attempts attempt lease.member
    obtain ⟨ended, idle, closed, published, rejected⟩ := terminal_facts terminal
    have countsValid := (validateFor_ok counts status).mp counted
    have sameId : changed.id = attempt.id := by rw [same]
    have sameNumber : changed.attemptNumber = attempt.attemptNumber := by rw [same]
    have sameWorker : changed.workerId = attempt.workerId := by rw [same]
    refine holds.save lease ⟨rfl, rfl⟩ ⟨sameId, sameNumber⟩ ?_ ?_ (Or.inr ⟨idle, closed⟩)
    · exact JobValid.cleared valid status job.availableAt job.maxAttempts (some finishedAt) counts errorCode
        errorMessage idle le_rfl limit countsValid (by simp [ended]) limits
    · exact AttemptValid.close attemptValid ⟨sameNumber, sameWorker⟩ closed (by simp [finishedAttempt])
        (CountsValid.congr countsValid published.symm rejected.mp) limits

end Steps

/-! ## The budget of attempts -/

section Budget
variable (settings : Settings) (ucd : PyText.UnicodeDatabase) (pk : Uuid)

/-- The attempts a transaction grants to the job: those of a requeue that succeeds. -/
def grantedBy (store : Store) (event : Event) : Nat :=
  match event.1 with
  | .requeueJob jobId additionalAttempts =>
      if jobId = pk ∧ (answer settings ucd event.2 (.requeueJob jobId additionalAttempts) store).1.isOk then
        additionalAttempts
      else 0
  | _ => 0

/-- The attempts granted to the job along a run. -/
def granted : Store → List Event → Nat
  | _, [] => 0
  | store, event :: rest => grantedBy settings ucd pk store event + granted (step settings ucd store event) rest

theorem releaseExpired_eq {job released : SalesImportJob} {now : Instant}
    (release : releaseExpired job now = .ok released) :
    released = { job with attempts := released.attempts } := by
  unfold releaseExpired finishExpiredAttempt at release
  split_ifs at release
  · injection release with same
    rw [← same]
  · injection release with same
    rw [← same]

theorem jobStep_maxAttempts {scope : Scope} {intake : SalesImport} {job next : SalesImportJob}
    (ungranted : ∀ n, ¬scope.additionalAttempts n) (step : JobStep scope intake job next) :
    next.maxAttempts = job.maxAttempts := by
  cases step with
  | waited now =>
    unfold advanceWaitingJob
    split_ifs <;> rfl
  | requeued additionalAttempts queuedAt positive within => exact absurd within (ungranted _)
  | exhausted now released due spent release =>
    have same := releaseExpired_eq release
    change released.maxAttempts = _
    rw [same]
  | claimed workerId now expiry draw released due left release =>
    have same := releaseExpired_eq release
    change released.maxAttempts = _
    rw [same]
  | retried leaseToken now attempt errorCode errorMessage delay =>
    change (retriedJob job errorCode errorMessage now delay).maxAttempts = _
    unfold retriedJob
    split_ifs <;> rfl
  | renewed | phased | parsed | finished => rfl

variable {settings ucd pk}

theorem step_maxAttempts {store : Store} {event : Event} {job : SalesImportJob}
    (found : findJob store pk = some job) (bounded : job.attemptCount ≤ job.maxAttempts) :
    ∃ after, findJob (step settings ucd store event) pk = some after ∧
      after.maxAttempts = job.maxAttempts + grantedBy settings ucd pk store event := by
  obtain ⟨c, env⟩ := event
  by_cases requeues : ∃ jobId additionalAttempts, c = .requeueJob jobId additionalAttempts
  · obtain ⟨jobId, additionalAttempts, rfl⟩ := requeues
    cases outcome : (answer settings ucd env (.requeueJob jobId additionalAttempts) store).1 with
    | error e =>
      have still : step settings ucd store (.requeueJob jobId additionalAttempts, env) = store :=
        answer_error settings ucd outcome
      rw [still]
      refine ⟨job, found, ?_⟩
      simp [grantedBy, outcome, Except.isOk, Except.toBool]
    | ok reply =>
      have done := answer_ok settings ucd (Prod.ext outcome rfl :
        answer settings ucd env (.requeueJob jobId additionalAttempts) store = (.ok reply, _))
      obtain ⟨intake, earlier, located, held, _, _, _, saved⟩ := requeueJob_ok done
      have after : step settings ucd store (.requeueJob jobId additionalAttempts, env) =
          saveJob store jobId (requeuedJob earlier additionalAttempts env.now) := saved
      rw [after]
      by_cases same : jobId = pk
      · subst same
        have known : findJob store jobId = some earlier := by rw [findJob, located]; exact held
        obtain rfl : earlier = job := Option.some.inj (known.symm.trans found)
        refine ⟨_, findJob_saveJob_same located _, ?_⟩
        simp only [grantedBy, outcome, Except.isOk, Except.toBool, and_self, if_true, requeuedJob]
        omega
      · refine ⟨job, ?_, by simp [grantedBy, same]⟩
        rw [findJob_saveJob_other _ _ (Ne.symm same), found]
  · have within : Event.Within ⟨fun _ => True, fun _ => False, fun _ => True⟩ (c, env) := by
      cases c with
      | requeueJob jobId additionalAttempts => exact (requeues ⟨_, _, rfl⟩).elim
      | _ => trivial
    have none : grantedBy settings ucd pk store (c, env) = 0 := by
      cases c with
      | requeueJob jobId additionalAttempts => exact (requeues ⟨_, _, rfl⟩).elim
      | _ => rfl
    obtain ⟨after, located, advances⟩ := (step_evolves settings ucd store (c, env) within).job found
    refine ⟨after, located, ?_⟩
    rw [none]
    rcases advances with rfl | ⟨intake, stepped⟩
    · rfl
    · exact jobStep_maxAttempts (fun _ => id) stepped

end Budget

/-! ## Whole runs -/

/-- The running attempts of a job. -/
def running (job : SalesImportJob) : List SalesImportAttempt :=
  job.attempts.filter (fun attempt => attempt.outcome = .running)

/-- What the queue promises of a job. -/
structure JobConsistent (job : SalesImportJob) : Prop where
  processing_iff : job.status = .processing ↔ (running job).length = 1
  idle_none : job.status ≠ .processing → running job = []
  holder : ∀ attempt ∈ running job,
    job.leaseToken = some attempt.leaseToken ∧ attempt.attemptNumber = job.attemptCount
  leaseToken_iff : job.leaseToken ≠ none ↔ job.status = .processing
  leasedBy_iff : job.leasedBy ≠ "" ↔ job.status = .processing
  leaseExpiresAt_iff : job.leaseExpiresAt ≠ none ↔ job.status = .processing
  heartbeatAt_iff : job.heartbeatAt ≠ none ↔ job.status = .processing
  finishedAt_iff : job.finishedAt ≠ none ↔ job.status.isTerminal
  numbers : job.attempts.map SalesImportAttempt.attemptNumber = List.range' 1 job.attemptCount
  bounds : job.attemptCount ≤ job.maxAttempts ∧ job.maxAttempts ≤ 32767
  checks : JobValid job
  attemptChecks : ∀ attempt ∈ job.attempts, AttemptValid attempt
  releasable : ∀ now, ∃ released, releaseExpired job now = .ok released

theorem JobInvariant.consistent {job : SalesImportJob} (holds : JobInvariant job) : JobConsistent job := by
  have shape : (job.status ≠ .processing ∧ running job = []) ∨
      (job.status = .processing ∧ ∃ last, running job = [last] ∧
        job.leaseToken = some last.leaseToken ∧ last.attemptNumber = job.attemptCount) := by
    cases holds.leases with
    | idle status closed =>
      refine Or.inl ⟨status, List.filter_eq_nil_iff.mpr ?_⟩
      intro attempt member
      simpa using closed attempt member
    | leased past last status whole closed open_last token number =>
      refine Or.inr ⟨status, last, ?_, token, number⟩
      have none : past.filter (fun attempt => attempt.outcome = .running) = [] := by
        rw [List.filter_eq_nil_iff]
        intro attempt member
        simpa using closed attempt member
      rw [running, whole, List.filter_append, none, List.nil_append, List.filter_cons_of_pos (by simpa using open_last),
        List.filter_nil]
  have unleased := JobValid.unleased holds.valid
  have started := JobValid.started holds.valid
  refine ⟨?_, ?_, ?_, ?_, ?_, ?_, ?_, holds.valid.finished_consistent.symm, holds.numbers,
    ⟨holds.valid.attempts_valid.2, holds.valid.maxAttempts_limit⟩, holds.valid, holds.attempts, ?_⟩
  · rcases shape with ⟨idle, none⟩ | ⟨processing, last, one, _⟩
    · simp [idle, none]
    · simp [processing, one]
  · intro idle
    rcases shape with ⟨_, none⟩ | ⟨processing, _⟩
    · exact none
    · exact absurd processing idle
  · intro attempt member
    rcases shape with ⟨_, none⟩ | ⟨_, last, one, token, number⟩
    · simp [none] at member
    · rw [one, List.mem_singleton] at member
      rw [member]
      exact ⟨token, number⟩
  · exact ⟨fun set => by_contra fun idle => set (unleased idle).1, fun processing => (started processing).1⟩
  · exact ⟨fun set => by_contra fun idle => set (unleased idle).2.1,
      fun processing => (started processing).2.2.2.2.2⟩
  · exact ⟨fun set => by_contra fun idle => set (unleased idle).2.2.1,
      fun processing => (started processing).2.1⟩
  · exact ⟨fun set => by_contra fun idle => set (unleased idle).2.2.2,
      fun processing => (started processing).2.2.1⟩
  · intro now
    obtain ⟨released, done, _⟩ := holds.release now
    exact ⟨released, done⟩

/-- No intake has been queued yet. -/
def Unqueued (store : Store) : Prop := ∀ intake ∈ store.importTable.imports, intake.processingJob = none

theorem unqueued_jobs {store : Store} (unqueued : Unqueued store) (pk : Uuid) : findJob store pk = none := by
  rw [findJob, findImport]
  cases found : store.importTable.find pk with
  | none => rfl
  | some intake => exact unqueued intake (ImportTable.find_some found).1

/-- Parse batches are those of some file. -/
def StagedBatches (events : List Event) : Prop :=
  ∀ event ∈ events, ∀ claim batch, event.1 = .recordParseBatch claim batch →
    ∃ settings ucd stream, batch ∈ Staging.batches settings ucd stream

/-- The calls of a run that only has to stage balanced progress. -/
def balancedScope : Scope := ⟨Balanced, fun _ => True, fun _ => True⟩

theorem staged_within {events : List Event} (staged : StagedBatches events) :
    ∀ event ∈ events, event.Within balancedScope := by
  intro event member
  obtain ⟨c, env⟩ := event
  cases c with
  | recordParseBatch claim batch =>
    obtain ⟨settings, ucd, stream, inside⟩ := staged _ member claim batch rfl
    exact Staging.batches_progress settings ucd stream batch inside
  | _ => trivial

section Runs
variable (settings : Settings) (ucd : PyText.UnicodeDatabase)

theorem run_invariants (start : Store) (unqueued : Unqueued start) (events : List Event)
    (staged : StagedBatches events) :
    ∀ pk job, findJob (run (step settings ucd) start events) pk = some job → JobInvariant job := by
  apply run_jobs settings ucd (fun _ => JobInvariant) (fun _ _ => newJob_invariant)
    (fun _ _ _ _ => jobStep_invariant (fun _ => id)) start ?_ events (staged_within staged)
  intro pk job found
  rw [unqueued_jobs unqueued pk] at found
  cases found

theorem run_maxAttempts {pk : Uuid} (events : List Event) (start : Store) {job final : SalesImportJob}
    (found : findJob start pk = some job)
    (holds : ∀ pk job, findJob start pk = some job → JobInvariant job) (staged : StagedBatches events)
    (reached : findJob (run (step settings ucd) start events) pk = some final) :
    final.maxAttempts = job.maxAttempts + granted settings ucd pk start events := by
  induction events generalizing start job with
  | nil =>
    obtain rfl : job = final := Option.some.inj (found.symm.trans reached)
    rfl
  | cons event rest ih =>
    obtain ⟨after, located, counted⟩ := @step_maxAttempts settings ucd pk start event job
      found (holds pk job found).valid.attempts_valid.2
    have within := staged_within staged event List.mem_cons_self
    have next : ∀ pk job, findJob (step settings ucd start event) pk = some job → JobInvariant job :=
      run_jobs settings ucd (fun _ => JobInvariant) (fun _ _ => newJob_invariant)
        (fun _ _ _ _ => jobStep_invariant (fun _ => id)) start holds [event] (by simpa using within)
    rw [run_cons] at reached
    rw [ih _ located next (fun other member => staged other (List.mem_cons_of_mem _ member)) reached, counted,
      granted, Nat.add_assoc]

/-- Every job of every reachable state keeps the promises, and its budget is the one it
had in any earlier state and what requeues have granted since. -/
theorem queue_consistent (start : Store) (unqueued : Unqueued start) (events : List Event)
    (staged : StagedBatches events) (pk : Uuid) (job : SalesImportJob)
    (reached : findJob (run (step settings ucd) start events) pk = some job) :
    JobConsistent job ∧ ∀ first second earlier, events = first ++ second →
      findJob (run (step settings ucd) start first) pk = some earlier →
        job.maxAttempts = earlier.maxAttempts +
          granted settings ucd pk (run (step settings ucd) start first) second := by
  refine ⟨(run_invariants settings ucd start unqueued events staged pk job reached).consistent, ?_⟩
  intro first second earlier whole found
  subst whole
  rw [run_append] at reached
  exact run_maxAttempts settings ucd second _ found
    (run_invariants settings ucd start unqueued first
      (fun event member => staged event (List.mem_append_left _ member)))
    (fun event member => staged event (List.mem_append_right _ member)) reached

end Runs

namespace Sample

/-- Queued with one attempt, failed, and queued again with two more. -/
def requeuedRun : List Event :=
  [(.enqueueImport 3 1, environment 0 0 0), (.claimJob workerId 100, environment 1 11 7),
    (.completeJob 3 11 .failed none "S3_CONFIGURATION_ERROR" "No bucket.", environment 2 0 0),
    (.requeueJob 3 2, environment 3 0 0)]

end Sample

theorem queue_consistent_sample :
    ∃ job, findJob (run (step Publication.Sample.settings PyText.asciiDatabase) Sample.store
        Sample.requeuedRun) 3 = some job ∧ JobConsistent job ∧ job.maxAttempts = 1 + 2 := by
  obtain ⟨job, reached⟩ := Option.isSome_iff_exists.mp (by decide : (findJob
    (run (step Publication.Sample.settings PyText.asciiDatabase) Sample.store Sample.requeuedRun) 3).isSome)
  have holds := queue_consistent Publication.Sample.settings PyText.asciiDatabase Sample.store
    (by simp [Unqueued, Sample.store]) Sample.requeuedRun (by simp [StagedBatches, Sample.requeuedRun]) 3 job reached
  refine ⟨job, reached, holds.1, ?_⟩
  obtain ⟨first, found⟩ := Option.isSome_iff_exists.mp (by decide : (findJob
    (run (step Publication.Sample.settings PyText.asciiDatabase) Sample.store
      (Sample.requeuedRun.take 1)) 3).isSome)
  have budget := holds.2 (Sample.requeuedRun.take 1) (Sample.requeuedRun.drop 1) first
    (List.take_append_drop 1 _).symm found
  have initial : (findJob (run (step Publication.Sample.settings PyText.asciiDatabase) Sample.store
    (Sample.requeuedRun.take 1)) 3).map SalesImportJob.maxAttempts = some 1 := by decide
  rw [found, Option.map_some, Option.some.injEq] at initial
  rw [budget, initial]
  decide

end PharmaIntel.System
