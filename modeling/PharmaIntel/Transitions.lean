import Mathlib
import PharmaIntel.Atomicity
import PharmaIntel.Records
import PharmaIntel.System
import PharmaIntel.QueueRules

/-! Everything a committed transaction can do to an intake and its job, said once. Every
invariant of the queue is a case analysis over these steps. -/

namespace PharmaIntel.System
open PharmaIntel.Base PharmaIntel.Models PharmaIntel.Constraints PharmaIntel.Queue PharmaIntel.Intake
  PharmaIntel.Publication

/-! ## Steps of a job -/

/-- The attempt after its worker has changed nothing but its phase and its records. -/
def SameRun (attempt changed : SalesImportAttempt) : Prop :=
  changed = { attempt with
    phase := changed.phase
    stagedRows := changed.stagedRows
    issues := changed.issues }

/-- What the calls of a run may carry: parse batches, granted attempts and drawn tokens. -/
structure Scope where
  batch : Staging.ParseBatch → Prop
  additionalAttempts : Nat → Prop
  leaseToken : Uuid → Prop

def Scope.all : Scope := ⟨fun _ => True, fun _ => True, fun _ => True⟩

def Event.Within (scope : Scope) (event : Event) : Prop :=
  match event.1 with
  | .recordParseBatch _ batch => scope.batch batch
  | .requeueJob _ additionalAttempts => scope.additionalAttempts additionalAttempts
  | .claimJob _ _ => scope.leaseToken event.2.draw.leaseToken
  | _ => True

theorem within_all (event : Event) : event.Within Scope.all := by
  unfold Event.Within
  split <;> trivial

/-- One step of a job. -/
inductive JobStep (scope : Scope) (intake : SalesImport) (job : SalesImportJob) :
    SalesImportJob → Prop where
  | waited (now : Instant) :
      JobStep scope intake job (advanceWaitingJob job (desiredStatus intake now).1 now)
  | requeued (additionalAttempts : Nat) (queuedAt : Instant) (positive : 1 ≤ additionalAttempts)
      (within : scope.additionalAttempts additionalAttempts) (allowed : requeueRefusal intake job = none)
      (bounded : max job.maxAttempts job.attemptCount + additionalAttempts ≤ 32767) :
      JobStep scope intake job (requeuedJob job additionalAttempts queuedAt)
  | exhausted (now : Instant) (released : SalesImportJob) (due : isDue now job = true)
      (spent : Queue.exhausted job = true) (release : releaseExpired job now = .ok released) :
      JobStep scope intake job (markExhausted released now)
  | claimed (workerId : WorkerId) (now expiry : Instant) (draw : ClaimDraw) (released : SalesImportJob)
      (due : isDue now job = true) (left : hasAttemptsLeft job = true)
      (release : releaseExpired job now = .ok released)
      (within : scope.leaseToken draw.leaseToken)
      (fresh : draw.attemptId ∉ job.attempts.map SalesImportAttempt.id) :
      JobStep scope intake job
        (claimedJob released workerId.text now expiry draw.leaseToken draw.attemptId)
  | renewed (leaseToken : Uuid) (now expiry : Instant) (attempt : SalesImportAttempt)
      (holds : HoldsLease job leaseToken now attempt) :
      JobStep scope intake job (saveAttempt
        { job with heartbeatAt := some now, leaseExpiresAt := some expiry }
        { attempt with heartbeatAt := now })
  | phased (leaseToken : Uuid) (now : Instant) (attempt : SalesImportAttempt)
      (phase : SalesImportAttempt.Phase) (holds : HoldsLease job leaseToken now attempt) :
      JobStep scope intake job (saveAttempt job { attempt with phase := phase })
  | parsed (leaseToken : Uuid) (now expiry : Instant) (attempt : SalesImportAttempt)
      (batch : Staging.ParseBatch) (holds : HoldsLease job leaseToken now attempt)
      (within : scope.batch batch) :
      JobStep scope intake job (saveAttempt
        { job with
          counts := withProgress job.counts batch.progress
          heartbeatAt := some now
          leaseExpiresAt := some expiry }
        { attempt with
          stagedRows := attempt.stagedRows ++ batch.stagedRows
          issues := attempt.issues ++ batch.issues
          counts := withProgress attempt.counts batch.progress
          heartbeatAt := now
          phase := .parse })
  | retried (leaseToken : Uuid) (now : Instant) (attempt : SalesImportAttempt)
      (errorCode errorMessage : String) (delay : Duration)
      (holds : HoldsLease job leaseToken now attempt)
      (valid : validateFor job.counts .failed = .ok ()) :
      JobStep scope intake job (saveAttempt (retriedJob job errorCode errorMessage now delay)
        (retriedAttempt attempt job.counts errorCode errorMessage now))
  | finished (leaseToken : Uuid) (now finishedAt : Instant) (attempt changed : SalesImportAttempt)
      (status : SalesImportJob.Status) (outcome : SalesImportAttempt.Outcome)
      (counts : SalesImportJobCounts) (errorCode errorMessage : String)
      (holds : HoldsLease job leaseToken now attempt) (same : SameRun attempt changed)
      (terminal : terminalOutcome status = some outcome) (valid : validateFor counts status = .ok ())
      (limits : errorCode.length ≤ 64 ∧ errorMessage.length ≤ 1000)
      (records : RecordsKept attempt changed) :
      JobStep scope intake job (saveAttempt
        (finishedJob job status counts errorCode errorMessage finishedAt)
        (finishedAttempt changed status outcome counts errorCode errorMessage finishedAt))

/-! ## Steps of an intake -/

inductive IntakeStep (scope : Scope) (intake : SalesImport) : SalesImport → Prop where
  | worked (job next : SalesImportJob) (held : intake.processingJob = some job)
      (step : JobStep scope intake job next) : IntakeStep scope intake (withJob next intake)
  | enqueued (maxAttempts : Nat) (now createdAt : Instant)
      (bounds : 1 ≤ maxAttempts ∧ maxAttempts ≤ 32767) :
      IntakeStep scope intake (withJob (enqueuedJob intake maxAttempts now createdAt) intake)
  | received (change : SalesImport → SalesImport) (version : VersionId) (now createdAt : Instant)
      (receiving : intake.status = .receiving)
      (proves : change intake = intake ∨ ∃ kmsKeyArn, change intake = provenImport kmsKeyArn intake) :
      IntakeStep scope intake
        (withJob (enqueuedJob (receivedImport version now (change intake)) defaultMaxAttempts now createdAt)
          (receivedImport version now (change intake)))
  | abandoned (failureCode : SalesImport.FailureCode) (now createdAt : Instant)
      (receiving : intake.status = .receiving) (coded : failureCode ≠ .none) :
      IntakeStep scope intake
        (withJob (enqueuedJob (failedImport failureCode now intake) defaultMaxAttempts now createdAt)
          (failedImport failureCode now intake))
  | proven (kmsKeyArn : String) (finished : intake.status ≠ .receiving) :
      IntakeStep scope intake (provenImport kmsKeyArn intake)
  | objectFailed (failureCode : SalesImport.FailureCode) (now : Instant) (job next : SalesImportJob)
      (received : intake.status = .received) (permanent : isPermanent failureCode = true)
      (held : intake.processingJob = some job) (failed : next.status = .failed)
      (step : JobStep scope (objectFailedImport failureCode now intake) job next) :
      IntakeStep scope intake (withJob next (objectFailedImport failureCode now intake))

/-- What happens under one primary key. -/
inductive Moves (scope : Scope) : Option SalesImport → Option SalesImport → Prop where
  | still (intake : Option SalesImport) : Moves scope intake intake
  | created (intake : SalesImport) (now createdAt : Instant) (receiving : intake.status = .receiving)
      (jobless : intake.processingJob = none) :
      Moves scope none (some (withJob (enqueuedJob intake defaultMaxAttempts now createdAt) intake))
  | moved (intake next : SalesImport) (step : IntakeStep scope intake next) :
      Moves scope (some intake) (some next)

def Evolves (scope : Scope) (store next : Store) : Prop :=
  ∀ pk, Moves scope (findImport store pk) (findImport next pk)

/-- A change that leaves the facts alone. -/
structure Quiet (scope : Scope) (store next : Store) : Prop where
  evolves : Evolves scope store next
  facts : next.factTable = store.factTable

variable {scope : Scope}

theorem quiet_refl (store : Store) : Quiet scope store store := ⟨fun _ => .still _, rfl⟩

/-! ## Saving one row -/

@[simp] theorem findImport_updateImport_same (store : Store) (pk : Uuid)
    (change : SalesImport → SalesImport) (stable : Stable change) :
    findImport (updateImport store pk change stable) pk = (findImport store pk).map change :=
  ImportTable.find_update_same _ _ _ stable

theorem findImport_updateImport_other (store : Store) {pk other : Uuid}
    (change : SalesImport → SalesImport) (stable : Stable change) (apart : other ≠ pk) :
    findImport (updateImport store pk change stable) other = findImport store other :=
  ImportTable.find_update_other _ _ stable apart

/-- A transaction that touches one intake is a step of that intake. -/
theorem evolves_one {store next : Store} {pk : Uuid} {intake after : SalesImport}
    (found : findImport store pk = some intake) (now : findImport next pk = some after)
    (elsewhere : ∀ other, other ≠ pk → findImport next other = findImport store other)
    (step : IntakeStep scope intake after) : Evolves scope store next := by
  intro other
  by_cases same : other = pk
  · rw [same, found, now]
    exact .moved intake after step
  · rw [elsewhere other same]
    exact .still _

theorem evolves_saveJob {store : Store} {jobId : Uuid} {job next : SalesImportJob} (table : FactTable)
    (found : findJob store jobId = some job)
    (step : ∀ intake, findImport store jobId = some intake → JobStep scope intake job next) :
    Evolves scope store (saveJob { store with factTable := table } jobId next) := by
  obtain ⟨intake, located, held⟩ := findJob_import found
  apply @evolves_one scope _ _ _ _ (withJob next intake) located
  · exact (findImport_saveJob_same _ jobId next).trans (congrArg (Option.map (withJob next)) located)
  · exact fun other apart => findImport_saveJob_other _ next apart
  · exact .worked job next held (step intake located)

theorem quiet_saveJob {store : Store} {jobId : Uuid} {job next : SalesImportJob}
    (found : findJob store jobId = some job)
    (step : ∀ intake, findImport store jobId = some intake → JobStep scope intake job next) :
    Quiet scope store (saveJob store jobId next) := ⟨evolves_saveJob store.factTable found step, rfl⟩

theorem boundedText_length (maxLength : Nat) (value : String) :
    (boundedText maxLength value).length ≤ maxLength := by
  rw [boundedText, ← String.length_toList, String.toList_ofList]
  exact (List.length_take_le _ _)

/-! ## Worker calls -/

section Worker
variable {store next : Store} {jobId leaseToken : Uuid} {now : Instant}

theorem heartbeatJob_quiet {leaseDuration : Duration} {value : Instant}
    (done : heartbeatJob jobId leaseToken leaseDuration now store = .ok (value, next)) :
    Quiet scope store next := by
  obtain ⟨job, attempt, live, rfl⟩ := heartbeatJob_ok done
  exact quiet_saveJob live.found
    (fun _ _ => .renewed leaseToken now _ attempt live.toHoldsLease)

theorem advanceAttemptPhase_quiet {phase : SalesImportAttempt.Phase} {value : Unit}
    (done : advanceAttemptPhase jobId leaseToken phase now store = .ok (value, next)) :
    Quiet scope store next := by
  obtain ⟨job, attempt, live, saved⟩ := fenced_ok done
  injection saved with saved
  injection saved with _ saved
  subst saved
  exact quiet_saveJob live.found
    (fun _ _ => .phased leaseToken now attempt phase live.toHoldsLease)

theorem recordParseBatch_quiet {claim : SalesImportClaim} {batch : Staging.ParseBatch} {value : Unit}
    (within : scope.batch batch)
    (done : recordParseBatch claim batch now store = .ok (value, next)) :
    Quiet scope store next := by
  obtain ⟨job, attempt, live, saved⟩ := fenced_ok done
  split_ifs at saved
  injection saved with saved
  injection saved with _ saved
  subst saved
  exact quiet_saveJob live.found
    (fun _ _ => .parsed claim.leaseToken now _ attempt batch live.toHoldsLease within)

theorem scheduleRetry_quiet {errorCode errorMessage : String} {baseDelay maximumDelay : Duration}
    {value : SalesImportJob}
    (done : scheduleRetry jobId leaseToken errorCode errorMessage baseDelay maximumDelay now store =
      .ok (value, next)) : Quiet scope store next := by
  obtain ⟨job, attempt, live, saved⟩ := fenced_ok done
  cases valid : validateFor job.counts .failed with
  | error e => simp [valid] at saved
  | ok passed =>
    cases left : delayIfLeft job baseDelay maximumDelay with
    | error e => simp [valid, left] at saved
    | ok delay =>
      simp only [valid, left, Except.ok.injEq, Prod.mk.injEq] at saved
      rw [← saved.2]
      exact quiet_saveJob live.found
        (fun _ _ => .retried leaseToken now attempt errorCode errorMessage delay live.toHoldsLease valid)

/-- What `complete_job` commits. -/
theorem completeJob_ok {status : SalesImportJob.Status} {counts : Option SalesImportJobCounts}
    {errorCode errorMessage : String} {value : SalesImportJob}
    (done : completeJob jobId leaseToken status counts errorCode errorMessage now store =
      .ok (value, next)) :
    ∃ job, findJob store jobId = some job ∧ value.status = status ∧ next = saveJob store jobId value ∧
      ∀ intake, JobStep scope intake job value := by
  unfold completeJob at done
  cases terminal : terminalOutcome status with
  | none => simp [terminal] at done
  | some outcome =>
    rw [terminal] at done
    obtain ⟨job, attempt, live, saved⟩ := fenced_ok done
    cases valid : validateFor (counts.getD job.counts) status with
    | error e => simp [valid] at saved
    | ok passed =>
      simp only [valid, Except.ok.injEq, Prod.mk.injEq] at saved
      obtain ⟨rfl, saved⟩ := saved
      exact ⟨job, live.found, rfl, saved.symm, fun _ => .finished leaseToken now now attempt attempt status
        outcome _ _ _ live.toHoldsLease rfl terminal valid
        ⟨boundedText_length 64 errorCode, boundedText_length 1000 errorMessage⟩ (recordsKept_same rfl rfl)⟩

theorem completeJob_quiet {status : SalesImportJob.Status} {counts : Option SalesImportJobCounts}
    {errorCode errorMessage : String} {value : SalesImportJob}
    (done : completeJob jobId leaseToken status counts errorCode errorMessage now store =
      .ok (value, next)) : Quiet scope store next := by
  obtain ⟨job, found, _, rfl, step⟩ := @completeJob_ok scope _ _ _ _ _ _ _ _ _ _ done
  exact quiet_saveJob found (fun intake _ => step intake)

end Worker

/-! ## Publication -/

theorem linkOrInsertChunk_grows {sourceSystem : String} {createdById : Nat} {createdAt : Instant}
    {rows : List SalesImportStagedRow} {state after : LinkState}
    (done : linkOrInsertChunk sourceSystem createdById createdAt rows state = .ok after) :
    state.table.Extends after.table := by
  simp only [linkOrInsertChunk] at done
  split_ifs at done
  split at done
  · simp at done
  · split at done
    · simp at done
    · rename_i table inserted
      injection done with same
      rw [← same]
      exact FactTable.insertAll_extends inserted

theorem linkBatches_grows {sourceSystem : String} {createdById : Nat} {createdAt : Instant}
    {chunks : List (List SalesImportStagedRow)} {state after : LinkState}
    (done : linkBatches sourceSystem createdById createdAt chunks state = .ok after) :
    state.table.Extends after.table := by
  induction chunks generalizing state with
  | nil =>
    injection done with same
    exact same ▸ FactTable.Extends.refl state.table
  | cons rows rest ih =>
    rw [linkBatches] at done
    cases first : linkOrInsertChunk sourceSystem createdById createdAt rows state with
    | error stop => simp [first] at done
    | ok middle =>
      rw [first] at done
      exact (linkOrInsertChunk_grows first).trans (ih done)

/-- How a committed publication ends, whatever its snapshot held. -/
structure PublicationEnd (claim : SalesImportClaim) (times : PublicationTimes) (store next : Store) where
  job : SalesImportJob
  attempt : SalesImportAttempt
  changed : SalesImportAttempt
  status : SalesImportJob.Status
  outcome : SalesImportAttempt.Outcome
  counts : SalesImportJobCounts
  errorCode : String
  errorMessage : String
  table : FactTable
  live : LiveClaim store claim.jobId claim.leaseToken times.startedAt job attempt
  own : claimMatches attempt claim = true
  same : SameRun attempt changed
  records : RecordsKept attempt changed
  terminal : terminalOutcome status = some outcome
  valid : validateFor counts status = .ok ()
  limits : errorCode.length ≤ 64 ∧ errorMessage.length ≤ 1000
  ends : status = .rejected ∧ table = store.factTable ∨
    status = .published ∧ store.factTable.Extends table
  saved : next = saveJob { store with factTable := table } claim.jobId (saveAttempt
    (finishedJob job status counts errorCode errorMessage times.finishedAt)
    (finishedAttempt changed status outcome counts errorCode errorMessage times.finishedAt))

theorem publishOnce_ok {settings : Settings} {snapshot : Snapshot} {claim : SalesImportClaim}
    {times : PublicationTimes} {store next : Store} {result : SalesImportProcessingResult}
    (done : publishOnce settings snapshot claim times store = .ok (result, next)) :
    ∃ ending : PublicationEnd claim times store next,
      result = ⟨claim.jobId, ending.status, ending.counts⟩ := by
  obtain ⟨job, attempt, live, body⟩ := fenced_ok done
  split_ifs at body with own
  cases found : findImport store claim.jobId with
  | none => simp [found] at body
  | some intake =>
    simp only [found, publishLocked] at body
    split at body
    · simp at body
    · rename_i checked _
      split_ifs at body with counted
      · obtain ⟨valid, same, saved⟩ := finishLockedJob_inv body
        have records : RecordsKept attempt { validatedAttempt attempt checked with
            issues := (validatedAttempt attempt checked).issues ++ checked.collector.persisted } :=
          (validatedAttempt_records attempt checked).trans ⟨grows_refl sameFileValues_refl _, List.prefix_append _ _⟩
        exact ⟨⟨job, attempt, _, .rejected, .rejected, _, _, _, store.factTable, live, own, by rfl, records, rfl,
          valid, by decide, Or.inl ⟨rfl, rfl⟩, saved⟩, same⟩
      · simp only [publishValidated] at body
        split at body
        · simp at body
        · rename_i rejected _
          obtain ⟨valid, same, saved⟩ := finishLockedJob_inv body
          have records : RecordsKept attempt { validatedAttempt attempt checked with
              phase := .publish
              issues := (validatedAttempt attempt checked).issues ++ rejected.persisted } :=
            (validatedAttempt_records attempt checked).trans
              ⟨grows_refl sameFileValues_refl _, List.prefix_append _ _⟩
          exact ⟨⟨job, attempt, _, .rejected, .rejected, _, _, _, store.factTable, live, own, by rfl, records,
            rfl, valid, by decide, Or.inl ⟨rfl, rfl⟩, saved⟩, same⟩
        · rename_i state linked
          obtain ⟨valid, same, saved⟩ := finishLockedJob_inv body
          have records : RecordsKept attempt { validatedAttempt attempt checked with
              phase := .publish
              stagedRows := saveRows state.linked copyLink (validatedAttempt attempt checked).stagedRows } :=
            (validatedAttempt_records attempt checked).trans
              ⟨saveRows_fileValues fileValues_copyLink _ _, List.prefix_rfl⟩
          exact ⟨⟨job, attempt, _, .published, .published, _, _, _, state.table, live, own, by rfl, records,
            rfl, valid, by decide, Or.inr ⟨rfl, linkBatches_grows linked⟩, saved⟩, same⟩

theorem publishOnce_evolves {settings : Settings} {snapshot : Snapshot} {claim : SalesImportClaim}
    {times : PublicationTimes} {store next : Store} {result : SalesImportProcessingResult}
    (done : publishOnce settings snapshot claim times store = .ok (result, next)) :
    Evolves scope store next := by
  obtain ⟨ending, _⟩ := publishOnce_ok done
  rw [ending.saved]
  exact evolves_saveJob ending.table ending.live.found (fun _ _ =>
    .finished claim.leaseToken times.startedAt times.finishedAt ending.attempt ending.changed ending.status
      ending.outcome ending.counts ending.errorCode ending.errorMessage ending.live.toHoldsLease ending.same
      ending.terminal ending.valid ending.limits ending.records)

/-! ## Queue calls -/

theorem mem_jobs {store : Store} {pair : SalesImport × SalesImportJob} :
    pair ∈ jobs store ↔ pair.1 ∈ store.importTable.imports ∧ pair.1.processingJob = some pair.2 := by
  obtain ⟨intake, job⟩ := pair
  simp only [jobs, List.mem_filterMap, Option.map_eq_some_iff, Prod.mk.injEq]
  constructor
  · rintro ⟨other, member, held, found, rfl, rfl⟩
    exact ⟨member, found⟩
  · rintro ⟨member, found⟩
    exact ⟨intake, member, job, found, rfl, rfl⟩

theorem jobs_nodup (store : Store) : ((jobs store).map (fun pair => pair.1.id)).Nodup := by
  refine List.Nodup.sublist ?_ store.importTable.ids_nodup
  rw [jobs]
  induction store.importTable.imports with
  | nil => simp
  | cons intake rest ih =>
    cases held : intake.processingJob with
    | none =>
      rw [List.filterMap_cons_none (by rw [held]; rfl), List.map_cons]
      exact ih.cons _
    | some job =>
      rw [List.filterMap_cons_some (b := (intake, job)) (by rw [held]; rfl), List.map_cons, List.map_cons]
      exact ih.cons_cons _

/-- A job due for cleanup or claiming, as the query reads it. -/
structure DueIn (budget : SalesImportJob → Bool) (now : Instant) (store : Store)
    (pair : SalesImport × SalesImportJob) : Prop where
  found : findImport store pair.1.id = some pair.1
  held : pair.1.processingJob = some pair.2
  listed : pair ∈ jobs store
  within : budget pair.2 = true
  due : isDue now pair.2 = true

theorem mem_dueJobs {budget : SalesImportJob → Bool} {now : Instant} {locked : List Uuid} {store : Store}
    {pair : SalesImport × SalesImportJob} (member : pair ∈ dueJobs budget now locked store) :
    DueIn budget now store pair := by
  have listed := (List.perm_insertionSort _ _).mem_iff.mp member
  obtain ⟨inside, conditions⟩ := List.mem_filter.mp listed
  simp only [Bool.and_eq_true] at conditions
  obtain ⟨stored, held⟩ := mem_jobs.mp inside
  exact ⟨ImportTable.find_of_mem stored, held, inside, conditions.1.1, conditions.1.2⟩

theorem dueJobs_nodup (budget : SalesImportJob → Bool) (now : Instant) (locked : List Uuid)
    (store : Store) : ((dueJobs budget now locked store).map (fun pair => pair.1.id)).Nodup := by
  apply ((List.perm_insertionSort _ _).map _).nodup_iff.mpr
  exact (jobs_nodup store).sublist (List.filter_sublist.map _)

theorem enqueueImport_ok {pk : Uuid} {maxAttempts : Nat} {now createdAt : Instant} {store next : Store}
    {value : SalesImportJob} (done : enqueueImport pk maxAttempts now createdAt store = .ok (value, next)) :
    (1 ≤ maxAttempts ∧ maxAttempts ≤ 32767) ∧ ∃ intake, findImport store pk = some intake ∧
      next = saveJob store pk (enqueuedJob intake maxAttempts now createdAt) := by
  unfold enqueueImport at done
  split_ifs at done with bounds
  cases found : findImport store pk with
  | none => simp [found] at done
  | some intake =>
    simp only [found, Except.ok.injEq, Prod.mk.injEq] at done
    exact ⟨bounds, intake, rfl, done.2.symm⟩

theorem enqueueImport_quiet {pk : Uuid} {maxAttempts : Nat} {now createdAt : Instant}
    {store next : Store} {value : SalesImportJob}
    (done : enqueueImport pk maxAttempts now createdAt store = .ok (value, next)) :
    Quiet scope store next := by
  obtain ⟨bounds, intake, found, rfl⟩ := enqueueImport_ok done
  refine ⟨evolves_one found ?_ (fun other apart => findImport_saveJob_other _ _ apart)
    (.enqueued maxAttempts now createdAt bounds), rfl⟩
  rw [findImport_saveJob_same, found]
  rfl

theorem requeueJob_ok {jobId : Uuid} {additionalAttempts : Nat} {queuedAt : Instant} {store next : Store}
    {value : SalesImportJob}
    (done : requeueJob jobId additionalAttempts queuedAt store = .ok (value, next)) :
    ∃ intake job, findImport store jobId = some intake ∧ intake.processingJob = some job ∧
      1 ≤ additionalAttempts ∧ requeueRefusal intake job = none ∧
      max job.maxAttempts job.attemptCount + additionalAttempts ≤ 32767 ∧
      next = saveJob store jobId (requeuedJob job additionalAttempts queuedAt) := by
  unfold requeueJob at done
  split_ifs at done with positive
  cases found : findImport store jobId with
  | none => simp [found] at done
  | some intake =>
    cases held : intake.processingJob with
    | none => simp [found, held] at done
    | some job =>
      cases refusal : requeueRefusal intake job with
      | some message => simp [found, held, refusal] at done
      | none =>
        simp only [found, held, refusal] at done
        split_ifs at done with bounded
        simp only [Except.ok.injEq, Prod.mk.injEq] at done
        exact ⟨intake, job, rfl, held, by omega, refusal, by omega, done.2.symm⟩

theorem requeueJob_quiet {jobId : Uuid} {additionalAttempts : Nat} {queuedAt : Instant}
    {store next : Store} {value : SalesImportJob} (within : scope.additionalAttempts additionalAttempts)
    (done : requeueJob jobId additionalAttempts queuedAt store = .ok (value, next)) :
    Quiet scope store next := by
  obtain ⟨intake, job, found, held, positive, allowed, bounded, rfl⟩ := requeueJob_ok done
  refine ⟨evolves_one found ?_ (fun other apart => findImport_saveJob_other _ _ apart)
    (.worked job _ held (.requeued additionalAttempts queuedAt positive within allowed bounded)), rfl⟩
  rw [findImport_saveJob_same, found]
  rfl

/-- What `claim_next_job` commits when it finds a job. -/
structure ClaimEnd (workerId : WorkerId) (leaseDuration : Duration) (now : Instant) (draw : ClaimDraw)
    (store next : Store) (claim : SalesImportClaim) where
  intake : SalesImport
  job : SalesImportJob
  released : SalesImportJob
  due : DueIn hasAttemptsLeft now store (intake, job)
  release : releaseExpired job now = .ok released
  fresh : draw.attemptId ∉ attemptIds store
  claim_eq : claim = {
    jobId := intake.id
    salesImportId := intake.id
    attemptId := draw.attemptId
    attemptNumber := job.attemptCount + 1
    leaseToken := draw.leaseToken
    workerId := workerId.text
    leaseExpiresAt := now + leaseDuration
    one_to_one := rfl }
  saved : next = saveJob store intake.id (claimedJob released workerId.text now (now + leaseDuration)
    draw.leaseToken draw.attemptId)

theorem claimJob_ok {workerId : WorkerId} {leaseDuration : Duration} {now : Instant} {draw : ClaimDraw}
    {locked : List Uuid} {store next : Store} {claim : Option SalesImportClaim}
    (done : claimJob workerId leaseDuration now draw locked store = .ok (claim, next)) :
    claim = none ∧ next = store ∨ ∃ issued, claim = some issued ∧
      Nonempty (ClaimEnd workerId leaseDuration now draw store next issued) := by
  unfold claimJob at done
  cases first : (dueJobs hasAttemptsLeft now locked store).head? with
  | none =>
    simp only [first, Except.ok.injEq, Prod.mk.injEq] at done
    exact Or.inl ⟨done.1.symm, done.2.symm⟩
  | some pair =>
    obtain ⟨intake, job⟩ := pair
    cases release : releaseExpired job now with
    | error e => simp [first, release] at done
    | ok released =>
      simp only [first, release] at done
      split_ifs at done with known
      simp only [Except.ok.injEq, Prod.mk.injEq] at done
      exact Or.inr ⟨_, done.1.symm, ⟨⟨intake, job, released, mem_dueJobs (List.mem_of_mem_head? first),
        release, known, rfl, done.2.symm⟩⟩⟩

theorem ClaimEnd.step {workerId : WorkerId} {leaseDuration : Duration} {now : Instant} {draw : ClaimDraw}
    {store next : Store} {claim : SalesImportClaim}
    (within : scope.leaseToken draw.leaseToken)
    (ending : ClaimEnd workerId leaseDuration now draw store next claim) :
    JobStep scope ending.intake ending.job (claimedJob ending.released workerId.text now
      (now + leaseDuration) draw.leaseToken draw.attemptId) := by
  refine .claimed workerId now _ draw ending.released ending.due.due ending.due.within ending.release within ?_
  intro known
  exact ending.fresh (List.mem_flatMap.mpr ⟨_, ending.due.listed, known⟩)

theorem claimJob_quiet {workerId : WorkerId} {leaseDuration : Duration} {now : Instant}
    {draw : ClaimDraw} {locked : List Uuid} {store next : Store} {claim : Option SalesImportClaim}
    (within : scope.leaseToken draw.leaseToken)
    (done : claimJob workerId leaseDuration now draw locked store = .ok (claim, next)) :
    Quiet scope store next := by
  rcases claimJob_ok done with ⟨_, rfl⟩ | ⟨issued, _, ⟨ending⟩⟩
  · exact quiet_refl next
  · rw [ending.saved]
    refine ⟨evolves_one ending.due.found ?_ (fun other apart => findImport_saveJob_other _ _ apart)
      (.worked ending.job _ ending.due.held (ending.step within)), rfl⟩
    exact (findImport_saveJob_same _ _ _).trans (congrArg (Option.map _) ending.due.found)

/-- The cleanup moves each listed job once and no other. -/
theorem markExhaustedJobs_moves {now : Instant} {due : List (SalesImport × SalesImportJob)}
    {store next : Store} (distinct : (due.map (fun pair => pair.1.id)).Nodup)
    (found : ∀ pair ∈ due, findImport store pair.1.id = some pair.1 ∧
      pair.1.processingJob = some pair.2 ∧ Queue.exhausted pair.2 = true ∧ isDue now pair.2 = true)
    (done : markExhaustedJobs now due store = .ok next) : Quiet scope store next ∧
      ∀ pk, pk ∉ due.map (fun pair => pair.1.id) → findImport next pk = findImport store pk := by
  induction due generalizing store with
  | nil =>
    injection done with same
    rw [same]
    exact ⟨quiet_refl next, fun _ _ => rfl⟩
  | cons pair rest ih =>
    obtain ⟨intake, job⟩ := pair
    rw [List.map_cons, List.nodup_cons] at distinct
    obtain ⟨located, held, spent, due⟩ := found (intake, job) List.mem_cons_self
    simp only [markExhaustedJobs] at done
    cases release : releaseExpired job now with
    | error e => simp [release] at done
    | ok released =>
      rw [release] at done
      have apart : ∀ pair ∈ rest, pair.1.id ≠ intake.id :=
        fun pair member same => distinct.1 (same ▸ List.mem_map_of_mem member)
      obtain ⟨later, untouched⟩ := ih distinct.2 (by
        intro pair member
        rw [findImport_saveJob_other _ _ (apart pair member)]
        exact found pair (List.mem_cons_of_mem _ member)) done
      refine ⟨⟨?_, later.facts⟩, ?_⟩
      · intro pk
        by_cases same : pk = intake.id
        · rw [same, untouched _ distinct.1, findImport_saveJob_same, located]
          exact .moved intake _ (.worked job _ held (.exhausted now released due spent release))
        · rw [← findImport_saveJob_other store (markExhausted released now) same]
          exact later.evolves pk
      · intro pk absent
        rw [List.map_cons, List.mem_cons, not_or] at absent
        rw [untouched pk absent.2, findImport_saveJob_other _ _ absent.1]

theorem markExhaustedBatch_quiet {now : Instant} {locked : List Uuid} {store next : Store} {count : Nat}
    (done : markExhaustedBatch now locked store = .ok (count, next)) : Quiet scope store next := by
  simp only [markExhaustedBatch] at done
  cases run : markExhaustedJobs now
      ((dueJobs Queue.exhausted now locked store).take exhaustedCleanupBatchSize) store with
  | error e => simp [run] at done
  | ok final =>
    simp only [run, Except.ok.injEq, Prod.mk.injEq] at done
    rw [← done.2]
    refine (markExhaustedJobs_moves ?_ ?_ run).1
    · exact (dueJobs_nodup Queue.exhausted now locked store).sublist ((List.take_sublist _ _).map _)
    · intro pair member
      have due := mem_dueJobs (List.mem_of_mem_take member)
      exact ⟨due.found, due.held, due.within, due.due⟩

/-! ## Intake calls -/

theorem markReceived_ok {pk : Uuid} {versionId : String} {now : Instant} {store next : Store}
    (done : markReceived pk versionId now store = .ok next) :
    ∃ version intake, findImport store pk = some intake ∧ intake.status = .receiving ∧
      next = updateImport store pk (receivedImport version now) (receivedImport_stable version now) := by
  unfold markReceived at done
  split_ifs at done with blank receiving
  injection done with same
  obtain ⟨intake, found, status⟩ := Option.any_eq_true _ _ |>.mp receiving
  exact ⟨_, intake, found, by simpa using status, same.symm⟩

theorem completeReceiving_ok {pk : Uuid} {versionId : String} {now createdAt : Instant}
    {store next : Store} {value : SalesImportJob}
    (done : completeReceiving pk versionId now createdAt store = .ok (value, next)) :
    ∃ version intake, findImport store pk = some intake ∧ intake.status = .receiving ∧
      findImport next pk = some (withJob (enqueuedJob (receivedImport version now intake)
        defaultMaxAttempts now createdAt) (receivedImport version now intake)) ∧
      (∀ other, other ≠ pk → findImport next other = findImport store other) ∧
      next.factTable = store.factTable := by
  unfold completeReceiving at done
  cases marked : markReceived pk versionId now store with
  | error e => simp [marked] at done
  | ok middle =>
    rw [marked] at done
    obtain ⟨version, intake, found, receiving, rfl⟩ := markReceived_ok marked
    obtain ⟨_, after, located, rfl⟩ := enqueueImport_ok done
    rw [findImport_updateImport_same, found, Option.map_some, Option.some.injEq] at located
    subst located
    refine ⟨version, intake, found, receiving, ?_, ?_, rfl⟩
    · rw [findImport_saveJob_same, findImport_updateImport_same, found]
      rfl
    · intro other apart
      rw [findImport_saveJob_other _ _ apart, findImport_updateImport_other _ _ _ apart]

theorem completeReceiving_quiet {pk : Uuid} {versionId : String} {now createdAt : Instant}
    {store next : Store} {value : SalesImportJob}
    (done : completeReceiving pk versionId now createdAt store = .ok (value, next)) :
    Quiet scope store next := by
  obtain ⟨version, intake, found, receiving, after, elsewhere, facts⟩ := completeReceiving_ok done
  exact ⟨evolves_one found after elsewhere (.received id version now createdAt receiving (Or.inl rfl)), facts⟩

theorem abandonReceiving_quiet {pk : Uuid} {failureCode : SalesImport.FailureCode} {now createdAt : Instant}
    {store next : Store} {value : SalesImportJob}
    (done : abandonReceiving pk failureCode now createdAt store = .ok (value, next)) :
    Quiet scope store next := by
  unfold abandonReceiving markFailed at done
  split at done
  · simp at done
  · rename_i middle marked
    split_ifs at marked with coded receiving
    injection marked with same
    subst same
    obtain ⟨intake, found, status⟩ := Option.any_eq_true _ _ |>.mp receiving
    obtain ⟨_, after, located, rfl⟩ := enqueueImport_ok done
    rw [findImport_updateImport_same, found, Option.map_some, Option.some.injEq] at located
    subst located
    refine ⟨evolves_one found ?_ ?_ (.abandoned failureCode now createdAt (by simpa using status) coded), rfl⟩
    · rw [findImport_saveJob_same, findImport_updateImport_same, found]
      rfl
    · intro other apart
      rw [findImport_saveJob_other _ _ apart, findImport_updateImport_other _ _ _ apart]

theorem recordLegacyKmsKeyArn_ok {pk : Uuid} {kmsKeyArn : String} {store next : Store}
    (done : recordLegacyKmsKeyArn pk kmsKeyArn store = .ok next) :
    next = updateImport store pk (provenImport (PyText.strip kmsKeyArn)) (provenImport_stable _) := by
  unfold recordLegacyKmsKeyArn at done
  split_ifs at done
  injection done with same
  exact same.symm

@[simp] theorem provenImport_status (kmsKeyArn : String) (intake : SalesImport) :
    (provenImport kmsKeyArn intake).status = intake.status := by
  unfold provenImport
  split_ifs <;> rfl

theorem recordProvenance_quiet {pk : Uuid} {kmsKeyArn versionId : String} {now createdAt : Instant}
    {store next : Store} {value : Unit}
    (done : recordProvenance pk kmsKeyArn versionId now createdAt store = .ok (value, next)) :
    Quiet scope store next := by
  unfold recordProvenance at done
  cases found : findImport store pk with
  | none => simp [found] at done
  | some intake =>
    cases marked : recordLegacyKmsKeyArn pk kmsKeyArn store with
    | error e => simp [found, marked] at done
    | ok middle =>
      simp only [found, marked] at done
      have saved := recordLegacyKmsKeyArn_ok marked
      subst saved
      split_ifs at done with receiving
      · cases run : completeReceiving pk versionId now createdAt (updateImport store pk
            (provenImport (PyText.strip kmsKeyArn)) (provenImport_stable _)) with
        | error e => simp [run, Except.map] at done
        | ok result =>
          simp only [run, Except.map, Except.ok.injEq, Prod.mk.injEq, true_and] at done
          subst done
          obtain ⟨version, middle, located, _, after, elsewhere, facts⟩ := completeReceiving_ok run
          rw [findImport_updateImport_same, found, Option.map_some, Option.some.injEq] at located
          subst located
          refine ⟨evolves_one found after ?_ (.received (provenImport (PyText.strip kmsKeyArn)) version now
            createdAt receiving (Or.inr ⟨_, rfl⟩)), facts⟩
          intro other apart
          rw [elsewhere other apart, findImport_updateImport_other _ _ _ apart]
      · simp only [Except.ok.injEq, Prod.mk.injEq, true_and] at done
        subst done
        refine ⟨evolves_one found ?_ (fun other apart => findImport_updateImport_other _ _ _ apart)
          (.proven (PyText.strip kmsKeyArn) receiving), rfl⟩
        rw [findImport_updateImport_same, found]
        rfl

theorem createImport_quiet {ucd : PyText.UnicodeDatabase} {draft : IntakeDraft} {now createdAt : Instant}
    {store next : Store} {value : SalesImportJob}
    (done : createImport ucd draft now createdAt store = .ok (value, next)) :
    Quiet scope store next := by
  unfold createImport at done
  split_ifs at done
  cases inserted : store.importTable.insert (newImport ucd draft createdAt) with
  | error e => simp [inserted] at done
  | ok table =>
    rw [inserted] at done
    obtain ⟨_, intake, located, rfl⟩ := enqueueImport_ok done
    have find : ∀ pk, table.find pk =
        if draft.id = pk then some (newImport ucd draft createdAt) else findImport store pk :=
      ImportTable.find_insert inserted
    have absent : findImport store draft.id = none := by
      cases known : findImport store draft.id with
      | none => rfl
      | some other =>
        obtain ⟨member, same⟩ := ImportTable.find_some known
        have listed : draft.id ∈ store.importTable.imports.map SalesImport.id :=
          List.mem_map.mpr ⟨other, member, same⟩
        exact absurd listed (ImportTable.insert_ok inserted).1
    have created : newImport ucd draft createdAt = intake := by
      have located : table.find draft.id = some intake := located
      rw [find, if_pos rfl] at located
      exact Option.some.inj located
    subst created
    refine ⟨?_, rfl⟩
    intro pk
    by_cases same : pk = draft.id
    · rw [same, absent, findImport_saveJob_same]
      have located : findImport { store with importTable := table } draft.id =
          some (newImport ucd draft createdAt) := located
      rw [located]
      exact .created _ now createdAt rfl rfl
    · rw [findImport_saveJob_other _ _ same]
      have kept : findImport { store with importTable := table } pk = findImport store pk := by
        change table.find pk = _
        rw [find, if_neg (Ne.symm same)]
      rw [kept]
      exact .still _

theorem completeStoredObjectFailure_quiet {claim : SalesImportClaim}
    {failureCode : SalesImport.FailureCode} {errorCode errorMessage : String} {now : Instant}
    {store next : Store} {value : SalesImportJob}
    (done : completeStoredObjectFailure claim failureCode errorCode errorMessage now store =
      .ok (value, next)) : Quiet scope store next := by
  unfold completeStoredObjectFailure markStoredObjectFailed at done
  rw [claim.one_to_one] at done
  split at done
  · simp at done
  · split at done
    · simp at done
    · rename_i marked
      split_ifs at marked with permanent received
      injection marked with same
      subst same
      split at done
      · simp at done
      · obtain ⟨intake, found, status⟩ := Option.any_eq_true _ _ |>.mp received
        obtain ⟨job, held, failed, rfl, step⟩ := @completeJob_ok scope _ _ _ _ _ _ _ _ _ _ done
        obtain ⟨after, located, held⟩ := findJob_import held
        rw [findImport_updateImport_same, found, Option.map_some, Option.some.injEq] at located
        subst located
        have kept : (objectFailedImport failureCode now intake).processingJob = intake.processingJob := by
          unfold objectFailedImport
          split_ifs <;> rfl
        refine ⟨evolves_one found ?_ ?_ (.objectFailed failureCode now job value (by simpa using status)
          (by simpa using permanent) (kept ▸ held) failed (step _)), rfl⟩
        · rw [findImport_saveJob_same, findImport_updateImport_same, found]
          rfl
        · intro other apart
          rw [findImport_saveJob_other _ _ apart, findImport_updateImport_other _ _ _ apart]

/-! ## Every call -/

section Execution
variable {settings : Settings} {ucd : PyText.UnicodeDatabase} {env : Environment} {c : Call}
  {store next : Store} {reply : c.Reply}

/-- A call that is not a publication leaves the facts alone. -/
theorem execute_quiet (within : Event.Within scope (c, env)) (other : ∀ claim, c ≠ .publishOnce claim)
    (done : execute settings ucd env c store = .ok (reply, next)) : Quiet scope store next := by
  cases c with
  | findActiveImport | findUnfinishedImports =>
    injection done with same
    injection same with _ same
    exact same ▸ quiet_refl store
  | readImport pk =>
    change answered (findImport store pk) store = _ at done
    cases found : findImport store pk with
    | none => simp [answered, found] at done
    | some intake =>
      rw [found] at done
      injection done with same
      injection same with _ same
      exact same ▸ quiet_refl store
  | readCounts jobId =>
    change (currentCounts jobId store).map _ = _ at done
    cases found : currentCounts jobId store with
    | error e => simp [found, Except.map] at done
    | ok counts =>
      rw [found] at done
      injection done with same
      injection same with _ same
      exact same ▸ quiet_refl store
  | createImport => exact createImport_quiet done
  | enqueueImport => exact enqueueImport_quiet done
  | completeReceiving => exact completeReceiving_quiet done
  | abandonReceiving => exact abandonReceiving_quiet done
  | recordProvenance => exact recordProvenance_quiet done
  | markExhaustedBatch => exact markExhaustedBatch_quiet done
  | claimJob => exact claimJob_quiet within done
  | heartbeatJob => exact heartbeatJob_quiet done
  | advanceAttemptPhase => exact advanceAttemptPhase_quiet done
  | recordParseBatch claim batch => exact recordParseBatch_quiet within done
  | publishOnce claim => exact absurd rfl (other claim)
  | scheduleRetry => exact scheduleRetry_quiet done
  | completeJob => exact completeJob_quiet done
  | completeStoredObjectFailure => exact completeStoredObjectFailure_quiet done
  | requeueJob => exact requeueJob_quiet within done

theorem execute_evolves (within : Event.Within scope (c, env))
    (done : execute settings ucd env c store = .ok (reply, next)) : Evolves scope store next := by
  by_cases publishes : ∃ claim, c = .publishOnce claim
  · obtain ⟨claim, rfl⟩ := publishes
    exact publishOnce_evolves done
  · exact (execute_quiet within (fun claim same => publishes ⟨claim, same⟩) done).evolves

/-- Facts change only when a publication ends published. -/
theorem execute_facts (done : execute settings ucd env c store = .ok (reply, next)) :
    next.factTable = store.factTable ∨ ∃ claim, c = .publishOnce claim ∧
      ∃ ending : PublicationEnd claim env.times store next, ending.status = .published := by
  by_cases publishes : ∃ claim, c = .publishOnce claim
  · obtain ⟨claim, rfl⟩ := publishes
    obtain ⟨ending, _⟩ := publishOnce_ok done
    rcases ending.ends with ⟨_, kept⟩ | ⟨published, _⟩
    · left
      rw [ending.saved]
      exact kept
    · exact Or.inr ⟨claim, rfl, ending, published⟩
  · left
    exact (execute_quiet (within_all (c, env)) (fun claim same => publishes ⟨claim, same⟩) done).facts

end Execution

theorem step_evolves (settings : Settings) (ucd : PyText.UnicodeDatabase) (store : Store) (event : Event)
    (within : event.Within scope) : Evolves scope store (step settings ucd store event) := by
  rcases step_cases settings ucd store event with same | ⟨reply, done⟩
  · rw [same]
    exact (quiet_refl store).evolves
  · exact execute_evolves within done

/-! ## Jobs along a run -/

@[simp] theorem receivedImport_processingJob (version : VersionId) (now : Instant) (intake : SalesImport) :
    (receivedImport version now intake).processingJob = intake.processingJob := by
  unfold receivedImport
  split_ifs <;> rfl

@[simp] theorem failedImport_processingJob (failureCode : SalesImport.FailureCode) (now : Instant)
    (intake : SalesImport) : (failedImport failureCode now intake).processingJob = intake.processingJob := by
  unfold failedImport
  split_ifs <;> rfl

@[simp] theorem provenImport_processingJob (kmsKeyArn : String) (intake : SalesImport) :
    (provenImport kmsKeyArn intake).processingJob = intake.processingJob := by
  unfold provenImport
  split_ifs <;> rfl

/-- A job as `enqueue_import` creates it. -/
def IsNew (job : SalesImportJob) : Prop :=
  ∃ (intake : SalesImport) (maxAttempts : Nat) (now createdAt : Instant),
    intake.processingJob = none ∧ (1 ≤ maxAttempts ∧ maxAttempts ≤ 32767) ∧
      job = enqueuedJob intake maxAttempts now createdAt

/-- A job stays as it is or takes a step. -/
def Advances (scope : Scope) (job next : SalesImportJob) : Prop :=
  next = job ∨ ∃ intake, JobStep scope intake job next

theorem enqueuedJob_advances {intake : SalesImport} {job : SalesImportJob}
    (held : intake.processingJob = some job) (maxAttempts : Nat) (now createdAt : Instant) :
    Advances scope job (enqueuedJob intake maxAttempts now createdAt) := by
  rw [enqueuedJob, held]
  exact Or.inr ⟨intake, .waited now⟩

theorem defaultMaxAttempts_bounds : 1 ≤ defaultMaxAttempts ∧ defaultMaxAttempts ≤ 32767 := by decide

theorem IntakeStep.job {intake next : SalesImport} (step : IntakeStep scope intake next)
    {job : SalesImportJob} (held : intake.processingJob = some job) :
    ∃ after, next.processingJob = some after ∧ Advances scope job after := by
  cases step with
  | worked other after known step =>
    obtain rfl : other = job := Option.some.inj (known.symm.trans held)
    exact ⟨after, rfl, Or.inr ⟨intake, step⟩⟩
  | enqueued maxAttempts now createdAt bounds => exact ⟨_, rfl, enqueuedJob_advances held _ _ _⟩
  | received change version now createdAt receiving proves =>
    refine ⟨_, rfl, enqueuedJob_advances ?_ _ _ _⟩
    rw [receivedImport_processingJob]
    rcases proves with same | ⟨kmsKeyArn, same⟩
    · rw [same, held]
    · rw [same, provenImport_processingJob, held]
  | abandoned failureCode now createdAt receiving coded =>
    exact ⟨_, rfl, enqueuedJob_advances ((failedImport_processingJob _ _ _).trans held) _ _ _⟩
  | proven kmsKeyArn finished =>
    exact ⟨job, (provenImport_processingJob _ _).trans held, Or.inl rfl⟩
  | objectFailed failureCode now other after received permanent known failed step =>
    obtain rfl : other = job := Option.some.inj (known.symm.trans held)
    exact ⟨after, rfl, Or.inr ⟨_, step⟩⟩

theorem IntakeStep.newJob {intake next : SalesImport} (step : IntakeStep scope intake next)
    (jobless : intake.processingJob = none) {job : SalesImportJob} (held : next.processingJob = some job) :
    IsNew job := by
  cases step with
  | worked other after known step => rw [jobless] at known; cases known
  | enqueued maxAttempts now createdAt bounds =>
    exact ⟨intake, maxAttempts, now, createdAt, jobless, bounds, (Option.some.inj held).symm⟩
  | received change version now createdAt receiving proves =>
    refine ⟨_, _, now, createdAt, ?_, defaultMaxAttempts_bounds, (Option.some.inj held).symm⟩
    rw [receivedImport_processingJob]
    rcases proves with same | ⟨kmsKeyArn, same⟩
    · rw [same, jobless]
    · rw [same, provenImport_processingJob, jobless]
  | abandoned failureCode now createdAt receiving coded =>
    exact ⟨_, _, now, createdAt, (failedImport_processingJob _ _ _).trans jobless,
      defaultMaxAttempts_bounds, (Option.some.inj held).symm⟩
  | proven kmsKeyArn finished => rw [provenImport_processingJob, jobless] at held; cases held
  | objectFailed failureCode now other after received permanent known failed step =>
    rw [jobless] at known
    cases known

section Evolution
variable {store next : Store} {pk : Uuid}

/-- A job is never removed. -/
theorem Evolves.job (evolves : Evolves scope store next) {job : SalesImportJob}
    (found : findJob store pk = some job) :
    ∃ after, findJob next pk = some after ∧ Advances scope job after := by
  obtain ⟨intake, located, held⟩ := findJob_import found
  have moves := evolves pk
  rw [located] at moves
  cases moved : findImport next pk with
  | none => rw [moved] at moves; cases moves
  | some later =>
    rw [moved] at moves
    rw [findJob, moved]
    cases moves with
    | still => exact ⟨job, held, Or.inl rfl⟩
    | moved _ _ step => exact step.job held

theorem Evolves.newJob (evolves : Evolves scope store next) (absent : findJob store pk = none)
    {job : SalesImportJob} (found : findJob next pk = some job) : IsNew job := by
  obtain ⟨later, located, held⟩ := findJob_import found
  have moves := evolves pk
  rw [located] at moves
  rw [findJob] at absent
  generalize findImport store pk = earlier at moves absent
  cases moves with
  | still =>
    rw [Option.bind_some, held] at absent
    cases absent
  | created intake now createdAt receiving jobless =>
    exact ⟨intake, _, now, createdAt, jobless, defaultMaxAttempts_bounds, (Option.some.inj held).symm⟩
  | moved intake _ step => exact step.newJob absent held

end Evolution

/-- What every new job has and every step keeps, all jobs have after a change. -/
theorem Evolves.jobs {store next : Store} (evolves : Evolves scope store next)
    {Holds : Uuid → SalesImportJob → Prop} (fresh : ∀ pk job, IsNew job → Holds pk job)
    (kept : ∀ pk intake job after, JobStep scope intake job after → Holds pk job → Holds pk after)
    (holds : ∀ pk job, findJob store pk = some job → Holds pk job) :
    ∀ pk job, findJob next pk = some job → Holds pk job := by
  intro pk job found
  cases before : findJob store pk with
  | none => exact fresh pk job (evolves.newJob before found)
  | some earlier =>
    obtain ⟨after, located, advances⟩ := evolves.job before
    obtain rfl : after = job := Option.some.inj (located.symm.trans found)
    rcases advances with rfl | ⟨intake, stepped⟩
    · exact holds pk after before
    · exact kept pk intake earlier after stepped (holds pk earlier before)

theorem run_jobs (settings : Settings) (ucd : PyText.UnicodeDatabase)
    (Holds : Uuid → SalesImportJob → Prop) (fresh : ∀ pk job, IsNew job → Holds pk job)
    (kept : ∀ pk intake job next, JobStep scope intake job next → Holds pk job → Holds pk next)
    (start : Store) (initial : ∀ pk job, findJob start pk = some job → Holds pk job)
    (events : List Event) (within : ∀ event ∈ events, event.Within scope) :
    ∀ pk job, findJob (run (step settings ucd) start events) pk = some job → Holds pk job := by
  refine run_invariant (step settings ucd) (Event.Within scope)
    (fun store => ∀ pk job, findJob store pk = some job → Holds pk job) ?_ start initial events within
  intro store event inside holds
  exact (step_evolves settings ucd store event inside).jobs fresh kept holds

/-- What every step keeps of one job holds of it in every later state. -/
theorem run_job (settings : Settings) (ucd : PyText.UnicodeDatabase) (Holds : SalesImportJob → Prop)
    (kept : ∀ intake job next, JobStep scope intake job next → Holds job → Holds next)
    (events : List Event) (within : ∀ event ∈ events, event.Within scope) {start : Store} {pk : Uuid}
    {job : SalesImportJob} (found : findJob start pk = some job) (initial : Holds job) :
    ∃ final, findJob (run (step settings ucd) start events) pk = some final ∧ Holds final := by
  induction events generalizing start job with
  | nil => exact ⟨job, found, initial⟩
  | cons event rest ih =>
    obtain ⟨after, located, advances⟩ :=
      (step_evolves settings ucd start event (within event List.mem_cons_self)).job found
    refine ih (fun other member => within other (List.mem_cons_of_mem event member)) located ?_
    rcases advances with rfl | ⟨intake, stepped⟩
    · exact initial
    · exact kept intake job after stepped initial

end PharmaIntel.System
