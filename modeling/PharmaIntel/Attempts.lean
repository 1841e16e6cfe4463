import Mathlib
import PharmaIntel.QueueInvariant

/-! The attempts of a job along its steps: at most one is added or replaced, and only while
it runs. What has been closed or published stays as it is. -/

namespace PharmaIntel.System
open PharmaIntel.Base PharmaIntel.Models PharmaIntel.Queue PharmaIntel.Intake PharmaIntel.Publication

theorem newJob_attempts {job : SalesImportJob} (isNew : IsNew job) :
    job.attempts = [] ∧ job.leaseToken = none := by
  obtain ⟨intake, maxAttempts, now, createdAt, jobless, _, rfl⟩ := isNew
  rw [enqueuedJob, jobless]
  exact ⟨rfl, rfl⟩

section Steps
variable {scope : Scope} {intake : SalesImport} {job next : SalesImportJob}

/-- An attempt in the list after a save. -/
theorem mem_saved {saved attempt : SalesImportAttempt} (member : attempt ∈ (saveAttempt job saved).attempts) :
    attempt ∈ job.attempts ∧ attempt.id ≠ saved.id ∨ attempt = saved ∧ ∃ old ∈ job.attempts, old.id = saved.id := by
  rcases mem_updateBy member with kept | ⟨old, inside, same, rfl⟩
  · exact Or.inl kept
  · exact Or.inr ⟨rfl, old, inside, same⟩

theorem mem_released {now : Instant} {released : SalesImportJob}
    (release : releaseExpired job now = .ok released) {attempt : SalesImportAttempt}
    (member : attempt ∈ released.attempts) :
    ∃ old ∈ job.attempts, attempt = old ∨ old.outcome = .running ∧ attempt = expireAttempt old now := by
  unfold releaseExpired finishExpiredAttempt at release
  split_ifs at release
  · injection release with same
    rw [← same] at member
    obtain ⟨old, inside, image⟩ := List.mem_map.mp member
    by_cases matched : matchesLease job old = true
    · rw [if_pos matched] at image
      simp only [matchesLease, Bool.and_eq_true, decide_eq_true_eq] at matched
      exact ⟨old, inside, Or.inr ⟨matched.2, image.symm⟩⟩
    · rw [if_neg matched] at image
      exact ⟨old, inside, Or.inl image.symm⟩
  · injection release with same
    exact ⟨attempt, same ▸ member, Or.inl rfl⟩

theorem map_released {β : Type} (f : SalesImportAttempt → β) {now : Instant} {released : SalesImportJob}
    (keeps : ∀ attempt, f (expireAttempt attempt now) = f attempt)
    (release : releaseExpired job now = .ok released) : released.attempts.map f = job.attempts.map f := by
  unfold releaseExpired finishExpiredAttempt at release
  split_ifs at release
  · injection release with same
    rw [← same, List.map_map]
    apply List.map_congr_left
    intro attempt _
    rw [Function.comp_apply]
    split_ifs
    · exact keeps attempt
    · rfl
  · injection release with same
    rw [same]

/-- How a step changes the attempts of its job: at most one is added, under the drawn
token, and at most one that was running is replaced under its id and its token. -/
inductive AttemptsChange (scope : Scope) (job next : SalesImportJob) : Prop where
  | kept (same : next.attempts = job.attempts)
  | expired (now : Instant) (released : SalesImportJob) (release : releaseExpired job now = .ok released)
      (same : next.attempts = released.attempts)
  | added (now : Instant) (released : SalesImportJob) (claimed : SalesImportAttempt)
      (release : releaseExpired job now = .ok released)
      (same : next.attempts = released.attempts ++ [claimed])
      (within : scope.leaseToken claimed.leaseToken) (running : claimed.outcome = .running)
      (fresh : claimed.id ∉ job.attempts.map SalesImportAttempt.id)
  | saved (leaseToken : Uuid) (now : Instant) (attempt saved : SalesImportAttempt)
      (lease : HoldsLease job leaseToken now attempt)
      (same : next.attempts = (saveAttempt job saved).attempts)
      (carries : saved.id = attempt.id ∧ saved.leaseToken = attempt.leaseToken)
      (published : saved.outcome = .published → next.status = .published)
      (records : RecordsKept attempt saved)

theorem jobStep_attempts (step : JobStep scope intake job next) : AttemptsChange scope job next := by
  cases step with
  | waited now =>
    unfold advanceWaitingJob
    split_ifs <;> exact .kept rfl
  | requeued => exact .kept rfl
  | exhausted now released due spent release => exact .expired now released release rfl
  | claimed workerId now expiry draw released due left release within fresh =>
    exact .added now released _ release rfl within rfl fresh
  | renewed leaseToken now expiry attempt lease =>
    exact .saved leaseToken now attempt _ lease rfl ⟨rfl, rfl⟩ (by simp [lease.running])
      (recordsKept_same rfl rfl)
  | phased leaseToken now attempt phase lease =>
    exact .saved leaseToken now attempt _ lease rfl ⟨rfl, rfl⟩ (by simp [lease.running])
      (recordsKept_same rfl rfl)
  | parsed leaseToken now expiry attempt batch lease =>
    exact .saved leaseToken now attempt _ lease rfl ⟨rfl, rfl⟩ (by simp [lease.running])
      (recordsKept_added rfl rfl)
  | retried leaseToken now attempt errorCode errorMessage delay lease =>
    refine .saved leaseToken now attempt (retriedAttempt attempt job.counts errorCode errorMessage now) lease
      ?_ ⟨rfl, rfl⟩ (by simp [retriedAttempt]) (recordsKept_same rfl rfl)
    unfold retriedJob
    split_ifs <;> rfl
  | finished leaseToken now finishedAt attempt changed status outcome counts errorCode errorMessage lease
      same terminal valid limits records =>
    refine .saved leaseToken now attempt (finishedAttempt changed status outcome counts errorCode errorMessage
      finishedAt) lease rfl ⟨by rw [same]; rfl, by rw [same]; rfl⟩ (terminal_facts terminal).2.2.2.1.mp
      ⟨records.rows, records.issues⟩

/-- An attempt of the next state was there before, replaces one that was running, or is new. -/
theorem jobStep_attempt (step : JobStep scope intake job next) {attempt : SalesImportAttempt}
    (member : attempt ∈ next.attempts) :
    attempt ∈ job.attempts ∨
      (∃ old ∈ job.attempts, old.outcome = .running ∧ attempt.id = old.id ∧
        attempt.leaseToken = old.leaseToken) ∨
      scope.leaseToken attempt.leaseToken ∧ attempt.outcome = .running ∧
        attempt.id ∉ job.attempts.map SalesImportAttempt.id := by
  have expired : ∀ {released : SalesImportJob} {now : Instant}, releaseExpired job now = .ok released →
      attempt ∈ released.attempts → attempt ∈ job.attempts ∨
        ∃ old ∈ job.attempts, old.outcome = .running ∧ attempt.id = old.id ∧
          attempt.leaseToken = old.leaseToken := by
    intro released now release inside
    obtain ⟨old, inside, same | ⟨running, same⟩⟩ := mem_released release inside
    · exact Or.inl (same ▸ inside)
    · exact Or.inr ⟨old, inside, running, by rw [same]; rfl, by rw [same]; rfl⟩
  rw [← or_assoc]
  cases jobStep_attempts step with
  | kept same => exact Or.inl (Or.inl (same ▸ member))
  | expired now released release same => exact Or.inl (expired release (same ▸ member))
  | added now released claimed release same within running fresh =>
    rw [same] at member
    rcases List.mem_append.mp member with before | here
    · exact Or.inl (expired release before)
    · rw [List.mem_singleton.mp here]
      exact Or.inr ⟨within, running, fresh⟩
  | saved leaseToken now running saved lease same carries =>
    rw [same] at member
    rcases mem_saved member with ⟨old, _⟩ | ⟨rfl, _⟩
    · exact Or.inl (Or.inl old)
    · exact Or.inl (Or.inr ⟨running, lease.member, lease.running, carries.1, carries.2⟩)

/-- Attempts have ids of their own, and only a published job has a published attempt, its one. -/
structure History (job : SalesImportJob) : Prop where
  ids : (job.attempts.map SalesImportAttempt.id).Nodup
  published : ∀ attempt ∈ job.attempts, attempt.outcome = .published → job.status = .published
  once : ∀ first ∈ job.attempts, ∀ second ∈ job.attempts, first.outcome = .published →
    second.outcome = .published → first = second

/-- Only a requeue changes a published or rejected job. -/
theorem jobStep_ended (step : JobStep scope intake job next)
    (ended : job.status = .published ∨ job.status = .rejected) :
    next = job ∨ requeueRefusal intake job = none := by
  have idle : ∀ {leaseToken now attempt}, ¬HoldsLease job leaseToken now attempt := by
    intro leaseToken now attempt lease
    rw [lease.processing] at ended
    rcases ended with published | rejected
    · cases published
    · cases rejected
  have notDue : ∀ {now}, isDue now job ≠ true := by
    intro now due
    rcases isDue_status due with status | status | status <;> simp [status] at ended
  cases step with
  | waited now =>
    left
    have working : job.status ≠ .waitingForFile := by
      intro waiting
      simp [waiting] at ended
    rw [advanceWaitingJob, if_neg (fun advance => working advance.1), if_neg (fun fails => working fails.1)]
  | requeued additionalAttempts queuedAt positive within allowed => exact Or.inr allowed
  | exhausted now released due => exact absurd due notDue
  | claimed workerId now expiry draw released due => exact absurd due notDue
  | renewed leaseToken now expiry attempt lease => exact absurd lease idle
  | phased leaseToken now attempt phase lease => exact absurd lease idle
  | parsed leaseToken now expiry attempt batch lease => exact absurd lease idle
  | retried leaseToken now attempt errorCode errorMessage delay lease => exact absurd lease idle
  | finished leaseToken now finishedAt attempt changed status outcome counts errorCode errorMessage lease =>
    exact absurd lease idle

/-- Nothing changes a published job. -/
theorem jobStep_published (step : JobStep scope intake job next) (published : job.status = .published) :
    next = job := by
  rcases jobStep_ended step (Or.inl published) with same | allowed
  · exact same
  · rcases (requeueRefusal_none allowed).1 with failed | rejected
    · rw [published] at failed
      cases failed
    · rw [published] at rejected
      cases rejected

theorem newJob_history (isNew : IsNew job) : History job := by
  obtain ⟨none, _⟩ := newJob_attempts isNew
  constructor <;> simp [none]

theorem jobStep_history (step : JobStep scope intake job next) (history : History job) : History next := by
  by_cases published : job.status = .published
  · rw [jobStep_published step published]
    exact history
  have open_before : ∀ attempt ∈ job.attempts, attempt.outcome ≠ .published :=
    fun attempt member outcome => published (history.published attempt member outcome)
  have open_released : ∀ {released : SalesImportJob} {now : Instant},
      releaseExpired job now = .ok released → ∀ attempt ∈ released.attempts, attempt.outcome ≠ .published := by
    intro released now release attempt member
    obtain ⟨old, inside, rfl | ⟨_, rfl⟩⟩ := mem_released release member
    · exact open_before attempt inside
    · simp [expireAttempt]
  cases jobStep_attempts step with
  | kept same =>
    refine ⟨same ▸ history.ids, ?_, ?_⟩
    · intro attempt member outcome
      exact absurd outcome (open_before attempt (same ▸ member))
    · intro first firstMember second secondMember outcome
      exact absurd outcome (open_before first (same ▸ firstMember))
  | expired now released release same =>
    refine ⟨?_, ?_, ?_⟩
    · rw [same, map_released SalesImportAttempt.id (fun _ => rfl) release]
      exact history.ids
    · intro attempt member outcome
      exact absurd outcome (open_released release attempt (same ▸ member))
    · intro first firstMember second secondMember outcome
      exact absurd outcome (open_released release first (same ▸ firstMember))
  | added now released claimed release same within running fresh =>
    have open_next : ∀ attempt ∈ next.attempts, attempt.outcome ≠ .published := by
      intro attempt member
      rw [same] at member
      rcases List.mem_append.mp member with before | here
      · exact open_released release attempt before
      · rw [List.mem_singleton.mp here, running]
        simp
    refine ⟨?_, ?_, ?_⟩
    · rw [same, List.map_append, map_released SalesImportAttempt.id (fun _ => rfl) release]
      exact List.nodup_append.mpr ⟨history.ids, by simp, by
        intro id member other here equal
        rw [List.map_singleton, List.mem_singleton] at here
        exact fresh (here ▸ equal ▸ member)⟩
    · intro attempt member outcome
      exact absurd outcome (open_next attempt member)
    · intro first firstMember second secondMember outcome
      exact absurd outcome (open_next first firstMember)
  | saved leaseToken now attempt saved lease same carries ends =>
    have published_saved : ∀ other ∈ next.attempts, other.outcome = .published → other = saved := by
      intro other member outcome
      rw [same] at member
      rcases mem_saved member with ⟨old, _⟩ | ⟨equal, _⟩
      · exact absurd outcome (open_before other old)
      · exact equal
    refine ⟨?_, ?_, ?_⟩
    · rw [same, saveAttempt_ids]
      exact history.ids
    · intro other member outcome
      exact ends (published_saved other member outcome ▸ outcome)
    · intro first firstMember second secondMember firstOutcome secondOutcome
      rw [published_saved first firstMember firstOutcome, published_saved second secondMember secondOutcome]

/-- A closed attempt is never touched again. -/
theorem jobStep_closed (step : JobStep scope intake job next) (history : History job)
    {attempt : SalesImportAttempt} (member : attempt ∈ job.attempts) (closed : attempt.outcome ≠ .running) :
    attempt ∈ next.attempts := by
  have in_released : ∀ {released : SalesImportJob} {now : Instant},
      releaseExpired job now = .ok released → attempt ∈ released.attempts := by
    intro released now release
    unfold releaseExpired finishExpiredAttempt at release
    split_ifs at release
    · injection release with same
      rw [← same]
      refine List.mem_map.mpr ⟨attempt, member, ?_⟩
      rw [if_neg]
      simp [matchesLease, closed]
    · injection release with same
      exact same ▸ member
  cases jobStep_attempts step with
  | kept same => exact same ▸ member
  | expired now released release same => exact same ▸ in_released release
  | added now released claimed release same =>
    rw [same]
    exact List.mem_append_left _ (in_released release)
  | saved leaseToken now running saved lease same carries =>
    rw [same]
    refine List.mem_map.mpr ⟨attempt, member, ?_⟩
    rw [if_neg]
    intro equal
    have identical : attempt = running :=
      List.inj_on_of_nodup_map history.ids member lease.member (equal.trans carries.1)
    exact closed (identical ▸ lease.running)

end Steps

end PharmaIntel.System
