import Mathlib
import PharmaIntel.QueueInvariant

/-! What `claim_next_job` picks. The cleanup and the claim read the due jobs through two
filters that complement each other, and both take them in one order, so neither step
strands a job or touches one that is not due. -/

namespace PharmaIntel.System
open PharmaIntel.Base PharmaIntel.Models PharmaIntel.Constraints PharmaIntel.Queue

/-- Waiting and available, or held under a lease that has expired. -/
def Due (now : Instant) (job : SalesImportJob) : Prop :=
  (job.status = .queued ∨ job.status = .retryWait) ∧ job.availableAt ≤ now ∨
    job.status = .processing ∧ ∃ expiry, job.leaseExpiresAt = some expiry ∧ expiry ≤ now

theorem isDue_iff (now : Instant) (job : SalesImportJob) : isDue now job = true ↔ Due now job := by
  simp [isDue, Due, Option.any_eq_true]

/-- The columns a claim is ordered by. -/
def claimKey (pair : SalesImport × SalesImportJob) : Instant ×ₗ Instant ×ₗ Uuid :=
  toLex (pair.2.availableAt, toLex (pair.2.createdAt, pair.1.id))

/-- Exactly the due jobs of a store with a budget, the least key first. -/
structure InOrder (budget : SalesImportJob → Bool) (now : Instant) (store : Store)
    (pairs : List (SalesImport × SalesImportJob)) : Prop where
  ordered : pairs.Pairwise (fun first second => claimKey first < claimKey second)
  complete : ∀ pair, pair ∈ pairs ↔ pair ∈ jobs store ∧ Due now pair.2 ∧ budget pair.2 = true

/-! ## The query -/

theorem mem_jobs_find {store : Store} {pair : SalesImport × SalesImportJob} :
    pair ∈ jobs store ↔ findImport store pair.1.id = some pair.1 ∧ pair.1.processingJob = some pair.2 := by
  rw [mem_jobs]
  refine and_congr_left fun _ => ⟨ImportTable.find_of_mem, fun found => (ImportTable.find_some found).1⟩

theorem claimOrder_iff (first second : SalesImport × SalesImportJob) :
    claimOrder first second = true ↔ claimKey first ≤ claimKey second := by
  simp only [claimOrder, claimKey, Prod.Lex.toLex_le_toLex, Bool.or_eq_true, Bool.and_eq_true,
    decide_eq_true_eq]

theorem claimKey_pk {first second : SalesImport × SalesImportJob} (same : claimKey first = claimKey second) :
    first.1.id = second.1.id := by
  have columns : (first.2.availableAt, toLex (first.2.createdAt, first.1.id)) =
      (second.2.availableAt, toLex (second.2.createdAt, second.1.id)) := toLex_inj.mp same
  have rest := toLex_inj.mp (Prod.mk.inj columns).2
  exact (Prod.mk.inj rest).2

theorem dueJobs_sorted (budget : SalesImportJob → Bool) (now : Instant) (locked : List Uuid) (store : Store) :
    (dueJobs budget now locked store).Pairwise
      (fun first second => claimOrder first second = true) := by
  have total : Std.Total (fun first second : SalesImport × SalesImportJob => claimOrder first second = true) :=
    ⟨fun first second => by
      rw [claimOrder_iff, claimOrder_iff]
      exact le_total _ _⟩
  have transitive : IsTrans _ (fun first second : SalesImport × SalesImportJob =>
      claimOrder first second = true) := ⟨fun first second third => by
    simp only [claimOrder_iff]
    exact le_trans⟩
  exact List.pairwise_insertionSort _ _

theorem dueJobs_inOrder (budget : SalesImportJob → Bool) (now : Instant) (store : Store) :
    InOrder budget now store (dueJobs budget now [] store) where
  ordered := by
    have apart := List.pairwise_map.mp (dueJobs_nodup budget now [] store)
    refine ((dueJobs_sorted budget now [] store).and apart).imp ?_
    rintro first second ⟨ordered, different⟩
    exact lt_of_le_of_ne ((claimOrder_iff first second).mp ordered) (fun same => different (claimKey_pk same))
  complete := by
    intro pair
    rw [dueJobs, List.mem_insertionSort, List.mem_filter, ← isDue_iff]
    simp only [List.not_mem_nil, not_false_eq_true, decide_true, Bool.and_true, Bool.and_eq_true]
    exact and_congr_right fun _ => and_comm

/-! ## Who is left alone -/

/-- A transaction at `now` that changes no job but due ones, so none under a live lease. -/
structure Spares (now : Instant) (before after : Store) : Prop where
  undue : ∀ jobId job, findJob before jobId = some job → ¬Due now job →
    findImport after jobId = findImport before jobId
  live : ∀ jobId leaseToken held, lockedLiveClaim jobId leaseToken now before = .ok held →
    findImport after jobId = findImport before jobId

theorem live_undue {store : Store} {jobId leaseToken : Uuid} {now : Instant} {job : SalesImportJob}
    {attempt : SalesImportAttempt} (live : LiveClaim store jobId leaseToken now job attempt) : ¬Due now job := by
  obtain ⟨expiry, expires, later⟩ := live.live
  rintro (⟨waiting, _⟩ | ⟨_, other, same, past⟩)
  · rw [live.processing] at waiting
    simp at waiting
  · rw [expires, Option.some.injEq] at same
    exact absurd (same ▸ past) (not_le.mpr later)

theorem spares_of_due {now : Instant} {before after : Store} {touched : List (SalesImport × SalesImportJob)}
    (due : ∀ pair ∈ touched, pair ∈ jobs before ∧ Due now pair.2)
    (others : ∀ pk, pk ∉ touched.map (fun pair => pair.1.id) → findImport after pk = findImport before pk) :
    Spares now before after := by
  have undue : ∀ jobId job, findJob before jobId = some job → ¬Due now job →
      findImport after jobId = findImport before jobId := by
    intro jobId job found idle
    apply others
    intro listed
    obtain ⟨pair, member, rfl⟩ := List.mem_map.mp listed
    obtain ⟨inside, ready⟩ := due pair member
    obtain ⟨located, held⟩ := mem_jobs_find.mp inside
    rw [findJob, located, Option.bind_some, held, Option.some.injEq] at found
    exact idle (found ▸ ready)
  refine ⟨undue, ?_⟩
  rintro jobId leaseToken ⟨job, attempt⟩ held
  have live := lockedLiveClaim_ok held
  exact undue jobId job live.found (live_undue live)

theorem Spares.trans {now : Instant} {before middle after : Store} (first : Spares now before middle)
    (second : Spares now middle after) : Spares now before after := by
  have undue : ∀ jobId job, findJob before jobId = some job → ¬Due now job →
      findImport after jobId = findImport before jobId := by
    intro jobId job found idle
    have kept := first.undue jobId job found idle
    have still : findJob middle jobId = some job := by rw [findJob, kept, ← findJob, found]
    exact (second.undue jobId job still idle).trans kept
  refine ⟨undue, ?_⟩
  rintro jobId leaseToken ⟨job, attempt⟩ held
  have live := lockedLiveClaim_ok held
  exact undue jobId job live.found (live_undue live)

/-! ## The cleanup -/

/-- Each listed job has failed, its running attempt closed; nothing else has changed. -/
structure Cleaned (now : Instant) (store middle : Store) (failed : List (SalesImport × SalesImportJob)) :
    Prop where
  ended : ∀ pair ∈ failed, ∃ released, LeaseEnds now pair.2 released ∧
    findImport middle pair.1.id = some (withJob (markExhausted released now) pair.1)
  others : ∀ pk, pk ∉ failed.map (fun pair => pair.1.id) → findImport middle pk = findImport store pk
  facts : middle.factTable = store.factTable

theorem markExhaustedJobs_cleaned {now : Instant} {due : List (SalesImport × SalesImportJob)} {store : Store}
    (distinct : (due.map (fun pair => pair.1.id)).Nodup)
    (found : ∀ pair ∈ due, findImport store pair.1.id = some pair.1)
    (holds : ∀ pair ∈ due, JobInvariant pair.2) :
    ∃ middle, markExhaustedJobs now due store = .ok middle ∧ Cleaned now store middle due := by
  induction due generalizing store with
  | nil => exact ⟨store, rfl, by simp, fun _ _ => rfl, rfl⟩
  | cons pair rest ih =>
    obtain ⟨intake, job⟩ := pair
    rw [List.map_cons, List.nodup_cons] at distinct
    obtain ⟨released, release, ends⟩ := (holds (intake, job) List.mem_cons_self).leaseEnds now
    have apart : ∀ pair ∈ rest, pair.1.id ≠ intake.id :=
      fun pair member same => distinct.1 (same ▸ List.mem_map_of_mem member)
    obtain ⟨middle, done, cleaned⟩ := @ih (saveJob store intake.id (markExhausted released now)) distinct.2
      (by
        intro pair member
        rw [findImport_saveJob_other _ _ (apart pair member)]
        exact found pair (List.mem_cons_of_mem _ member))
      (fun pair member => holds pair (List.mem_cons_of_mem _ member))
    refine ⟨middle, by rw [markExhaustedJobs, release]; exact done, ?_, ?_, cleaned.facts⟩
    · intro pair member
      rcases List.mem_cons.mp member with rfl | after
      · refine ⟨released, ends, ?_⟩
        rw [cleaned.others intake.id distinct.1, findImport_saveJob_same, found _ List.mem_cons_self]
        rfl
      · exact cleaned.ended pair after
    · intro pk absent
      rw [List.map_cons, List.mem_cons, not_or] at absent
      rw [cleaned.others pk absent.2, findImport_saveJob_other _ _ absent.1]

/-- Every stored job keeps its promises. -/
def Sound (store : Store) : Prop := ∀ pk job, findJob store pk = some job → JobInvariant job

theorem Sound.job {store : Store} (sound : Sound store) {pair : SalesImport × SalesImportJob}
    (member : pair ∈ jobs store) : JobInvariant pair.2 := by
  obtain ⟨located, held⟩ := mem_jobs_find.mp member
  exact sound pair.1.id pair.2 (by rw [findJob, located, Option.bind_some, held])

theorem markExhaustedBatch_cleaned {store : Store} (sound : Sound store) (now : Instant) :
    ∃ middle, markExhaustedBatch now [] store =
        .ok (min 100 (dueJobs exhausted now [] store).length, middle) ∧
      Cleaned now store middle ((dueJobs exhausted now [] store).take 100) := by
  obtain ⟨middle, done, cleaned⟩ := @markExhaustedJobs_cleaned now
    ((dueJobs exhausted now [] store).take exhaustedCleanupBatchSize) store
    ((dueJobs_nodup exhausted now [] store).sublist ((List.take_sublist _ _).map _))
    (fun pair member => (mem_dueJobs (List.mem_of_mem_take member)).found)
    (fun pair member => sound.job (mem_dueJobs (List.mem_of_mem_take member)).listed)
  refine ⟨middle, ?_, cleaned⟩
  simp only [markExhaustedBatch, done, List.length_take]
  rfl

theorem LeaseEnds.spent {now : Instant} {job released : SalesImportJob} (ends : LeaseEnds now job released)
    (spent : exhausted job = true) : hasAttemptsLeft (markExhausted released now) = false := by
  rw [exhausted, decide_eq_true_eq] at spent
  cases ends <;> exact decide_eq_false (not_lt.mpr spent)

/-- The cleanup changes none of the jobs with attempts left. -/
theorem Cleaned.jobs_left {now : Instant} {store middle : Store} {failed : List (SalesImport × SalesImportJob)}
    (cleaned : Cleaned now store middle failed)
    (spent : ∀ pair ∈ failed, pair ∈ jobs store ∧ exhausted pair.2 = true)
    {pair : SalesImport × SalesImportJob} (left : hasAttemptsLeft pair.2 = true) :
    pair ∈ jobs middle ↔ pair ∈ jobs store := by
  rw [mem_jobs_find, mem_jobs_find]
  by_cases listed : pair.1.id ∈ failed.map (fun other => other.1.id)
  · obtain ⟨other, member, same⟩ := List.mem_map.mp listed
    obtain ⟨inside, empty⟩ := spent other member
    obtain ⟨located, held⟩ := mem_jobs_find.mp inside
    obtain ⟨released, ends, after⟩ := cleaned.ended other member
    rw [← same, located, after]
    constructor
    · rintro ⟨found, owned⟩
      rw [← Option.some.inj found] at owned
      have ended := ends.spent empty
      rw [Option.some.inj owned, left] at ended
      cases ended
    · rintro ⟨found, owned⟩
      rw [← Option.some.inj found, held, Option.some.injEq] at owned
      rw [owned, exhausted, decide_eq_true_eq] at empty
      rw [hasAttemptsLeft, decide_eq_true_eq] at left
      omega
  · rw [cleaned.others pair.1.id listed]

/-- So it leaves the same jobs to claim, in the same order. -/
theorem Cleaned.ready {now : Instant} {store middle : Store} {failed ready : List (SalesImport × SalesImportJob)}
    (cleaned : Cleaned now store middle failed)
    (spent : ∀ pair ∈ failed, pair ∈ jobs store ∧ exhausted pair.2 = true)
    (inOrder : InOrder hasAttemptsLeft now middle ready) : InOrder hasAttemptsLeft now store ready := by
  refine ⟨inOrder.ordered, fun pair => ?_⟩
  rw [inOrder.complete]
  exact and_congr_left fun conditions => cleaned.jobs_left spent conditions.2

/-! ## The claim -/

/-- The claim of the first of the ready jobs, or of none when there is none. -/
def Claims (workerId : WorkerId) (leaseDuration : Duration) (now : Instant) (draw : ClaimDraw)
    (between : Store) : List (SalesImport × SalesImportJob) → Option SalesImportClaim → Store → Prop
  | [], claim, next => claim = none ∧ next = between
  | (intake, job) :: _, claim, next => ∃ issued released, claim = some issued ∧ issued.jobId = intake.id ∧
      issued.attemptId = draw.attemptId ∧ issued.attemptNumber = job.attemptCount + 1 ∧
      issued.leaseToken = draw.leaseToken ∧ issued.workerId = workerId.text ∧
      issued.leaseExpiresAt = now + leaseDuration ∧ LeaseEnds now job released ∧
      next = saveJob between intake.id (claimedJob released workerId.text now (now + leaseDuration)
        draw.leaseToken draw.attemptId)

theorem claimJob_claims {between : Store} (sound : Sound between) (workerId : WorkerId)
    (leaseDuration : Duration) (now : Instant) (draw : ClaimDraw)
    (fresh : draw.attemptId ∉ attemptIds between) :
    ∃ claim next, claimJob workerId leaseDuration now draw [] between = .ok (claim, next) ∧
      Claims workerId leaseDuration now draw between (dueJobs hasAttemptsLeft now [] between) claim next ∧
      Spares now between next := by
  have listed := (dueJobs_inOrder hasAttemptsLeft now between).complete
  cases due : dueJobs hasAttemptsLeft now [] between with
  | nil =>
    refine ⟨none, between, ?_, ⟨rfl, rfl⟩, fun _ _ _ _ => rfl, fun _ _ _ _ => rfl⟩
    rw [claimJob, due]
    rfl
  | cons pair rest =>
    obtain ⟨intake, job⟩ := pair
    have ready := (listed (intake, job)).mp (due ▸ List.mem_cons_self)
    obtain ⟨released, release, ends⟩ := (sound.job ready.1).leaseEnds now
    have claimed : ∃ issued : SalesImportClaim, claimJob workerId leaseDuration now draw [] between =
        .ok (some issued, saveJob between intake.id (claimedJob released workerId.text now (now + leaseDuration)
          draw.leaseToken draw.attemptId)) ∧ issued.jobId = intake.id ∧ issued.attemptId = draw.attemptId ∧
        issued.attemptNumber = job.attemptCount + 1 ∧ issued.leaseToken = draw.leaseToken ∧
        issued.workerId = workerId.text ∧ issued.leaseExpiresAt = now + leaseDuration := by
      rw [claimJob, due]
      simp only [List.head?_cons, release]
      rw [if_neg fresh]
      exact ⟨_, rfl, rfl, rfl, rfl, rfl, rfl, rfl⟩
    obtain ⟨issued, done, job_eq, attempt_eq, number, token, worker, expiry⟩ := claimed
    refine ⟨_, _, done, ⟨issued, released, rfl, job_eq, attempt_eq, number, token, worker, expiry, ends, rfl⟩,
      @spares_of_due now _ _ [(intake, job)] ?_ ?_⟩
    · intro pair member
      rw [List.mem_singleton.mp member]
      exact ⟨ready.1, ready.2.1⟩
    · intro pk apart
      exact findImport_saveJob_other _ _ (by simpa using apart)

/-! ## Both steps -/

/-- A due job is read by exactly one of the two filters, and no other job by either. -/
theorem due_filters (now : Instant) (job : SalesImportJob) :
    Due now job ↔ Xor (hasAttemptsLeft job = true ∧ isDue now job = true)
      (exhausted job = true ∧ isDue now job = true) := by
  have apart : exhausted job = true ↔ ¬hasAttemptsLeft job = true := by
    rw [exhausted, hasAttemptsLeft, decide_eq_true_eq, decide_eq_true_eq, not_lt]
  rw [← isDue_iff, apart, Xor]
  tauto

theorem Claims.none_iff {workerId : WorkerId} {leaseDuration : Duration} {now : Instant} {draw : ClaimDraw}
    {between next : Store} {ready : List (SalesImport × SalesImportJob)} {claim : Option SalesImportClaim}
    (claims : Claims workerId leaseDuration now draw between ready claim next) : claim = none ↔ ready = [] := by
  cases ready with
  | nil => exact iff_of_true claims.1 rfl
  | cons pair rest =>
    obtain ⟨claimed, released, issued, _⟩ := claims
    simp [issued]

theorem InOrder.nil_iff {budget : SalesImportJob → Bool} {now : Instant} {store : Store}
    {pairs : List (SalesImport × SalesImportJob)} (inOrder : InOrder budget now store pairs) :
    pairs = [] ↔ ∀ pair ∈ jobs store, Due now pair.2 → budget pair.2 = false := by
  rw [List.eq_nil_iff_forall_not_mem]
  refine forall_congr' fun pair => ?_
  rw [inOrder.complete, Bool.eq_false_iff]
  tauto

section Runs
variable (settings : Settings) (ucd : PyText.UnicodeDatabase)

/-- What a worker's call does in a reachable state. The cleanup fails the first hundred of
the due jobs without attempts, and the claim, after any further calls of others, takes the
first due job that has attempts left. -/
theorem claimNextJob_exact (start : Store) (unqueued : Unqueued start) (events : List Event)
    (staged : StagedBatches events) (workerId : WorkerId) (leaseDuration : Duration) (now : Instant) :
    let store := run (step settings ucd) start events
    (∀ job, Due now job ↔ Xor (hasAttemptsLeft job = true ∧ isDue now job = true)
      (exhausted job = true ∧ isDue now job = true)) ∧
    ∃ spent middle, InOrder exhausted now store spent ∧
      markExhaustedBatch now [] store = .ok (min 100 spent.length, middle) ∧
      Cleaned now store middle (spent.take 100) ∧ Spares now store middle ∧
      ∀ others, StagedBatches others → ∀ draw : ClaimDraw,
        draw.attemptId ∉ attemptIds (run (step settings ucd) middle others) →
        let between := run (step settings ucd) middle others
        ∃ ready claim next, InOrder hasAttemptsLeft now between ready ∧
          claimJob workerId leaseDuration now draw [] between = .ok (claim, next) ∧
          Claims workerId leaseDuration now draw between ready claim next ∧
          (claim = none ↔ ∀ pair ∈ jobs between, Due now pair.2 → hasAttemptsLeft pair.2 = false) ∧
          Spares now between next ∧
          (others = [] → InOrder hasAttemptsLeft now store ready ∧ Spares now store next) := by
  intro store
  have sound : Sound store := run_invariants settings ucd start unqueued events staged
  obtain ⟨middle, cleanup, cleaned⟩ := markExhaustedBatch_cleaned sound now
  have listed := (dueJobs_inOrder exhausted now store).complete
  have spent : ∀ pair ∈ (dueJobs exhausted now [] store).take 100,
      pair ∈ jobs store ∧ Due now pair.2 ∧ exhausted pair.2 = true :=
    fun pair member => (listed pair).mp (List.mem_of_mem_take member)
  have spares : Spares now store middle :=
    spares_of_due (fun pair member => ⟨(spent pair member).1, (spent pair member).2.1⟩) cleaned.others
  have later : Sound middle := (@markExhaustedBatch_quiet balancedScope _ _ _ _ _ cleanup).evolves.jobs
    (fun _ _ => newJob_invariant) (fun _ _ _ _ => jobStep_invariant (fun _ => id)) sound
  refine ⟨due_filters now, _, middle, dueJobs_inOrder exhausted now store, cleanup, cleaned, spares, ?_⟩
  intro others stagedOthers draw fresh between
  have soundBetween : Sound between := run_jobs settings ucd (fun _ => JobInvariant) (fun _ _ => newJob_invariant)
    (fun _ _ _ _ => jobStep_invariant (fun _ => id)) middle later others (staged_within stagedOthers)
  obtain ⟨claim, next, done, claims, left⟩ := claimJob_claims soundBetween workerId leaseDuration now draw fresh
  have inOrder := dueJobs_inOrder hasAttemptsLeft now between
  refine ⟨_, claim, next, inOrder, done, claims, claims.none_iff.trans inOrder.nil_iff, left, ?_⟩
  rintro rfl
  exact ⟨cleaned.ready (fun pair member => ⟨(spent pair member).1, (spent pair member).2.2⟩) inOrder,
    spares.trans left⟩

end Runs

namespace Sample

/-- Queued with one attempt and claimed under a lease that ends at 101. -/
def spentRun : List Event :=
  [(.enqueueImport 3 1, environment 0 0 0), (.claimJob workerId 100, environment 1 11 7)]

def spentStore : Store := run (step Publication.Sample.settings PyText.asciiDatabase) store spentRun

end Sample

/-- The expired last attempt is cleaned up; an operator grants two more before the claim. -/
theorem claimNextJob_exact_sample :
    ∃ middle claim next, markExhaustedBatch 200 [] Sample.spentStore = .ok (1, middle) ∧
      Spares 200 Sample.spentStore middle ∧
      claimJob Sample.workerId 100 200 ⟨12, 8⟩ [] (run (step Publication.Sample.settings PyText.asciiDatabase)
        middle [(.requeueJob 3 2, Sample.environment 200 0 0)]) = .ok (claim, next) := by
  obtain ⟨-, spent, middle, _, cleanup, _, spares, claims⟩ := claimNextJob_exact Publication.Sample.settings
    PyText.asciiDatabase Sample.store (by simp [Unqueued, Sample.store]) Sample.spentRun
    (by simp [StagedBatches, Sample.spentRun]) Sample.workerId 100 200
  have counted : (markExhaustedBatch 200 [] Sample.spentStore).toOption.map (fun result =>
      (result.1, attemptIds (run (step Publication.Sample.settings PyText.asciiDatabase) result.2
        [(.requeueJob 3 2, Sample.environment 200 0 0)]))) = some (1, [7]) := by decide
  have cleanup : markExhaustedBatch 200 [] Sample.spentStore = .ok (min 100 spent.length, middle) := cleanup
  rw [cleanup, Except.toOption, Option.map_some, Option.some.injEq, Prod.mk.injEq] at counted
  have single : min 100 spent.length = 1 := counted.1
  obtain ⟨ready, claim, next, _, done, _⟩ := claims [(.requeueJob 3 2, Sample.environment 200 0 0)]
    (by simp [StagedBatches]) ⟨12, 8⟩ (by
      rw [counted.2]
      decide)
  exact ⟨middle, claim, next, by rw [cleanup, single], spares, done⟩

end PharmaIntel.System
