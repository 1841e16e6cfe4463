import Mathlib
import PharmaIntel.PyText
import PharmaIntel.Tables
import PharmaIntel.Staging

/-! The durable queue. Every operation is one transaction: it returns a value and the
new store, or an error that leaves the store as it was. A lease is presented by its
token; `now` is the time the caller read, at any point before it got the row lock. -/

namespace PharmaIntel.Queue
open PharmaIntel.Base PharmaIntel.Models

/-- What a transaction answers. -/
abbrev Outcome (α : Type) := Except PyError (α × Store)

/-- `timedelta(minutes=5)`. -/
def defaultLeaseDuration : Duration := 300000000
/-- `timedelta(seconds=30)`. -/
def defaultRetryBaseDelay : Duration := 30000000
/-- `timedelta(minutes=15)`. -/
def defaultRetryMaxDelay : Duration := 900000000
def exhaustedCleanupBatchSize : Nat := 100

/-- A job's primary key is its intake's. -/
structure SalesImportClaim where
  jobId : Uuid
  salesImportId : Uuid
  attemptId : Uuid
  attemptNumber : Nat
  leaseToken : Uuid
  workerId : String
  leaseExpiresAt : Instant
  one_to_one : salesImportId = jobId
  deriving DecidableEq

def validateFor (counts : SalesImportJobCounts) (status : SalesImportJob.Status) : Except PyError Unit :=
  if counts.totalRows ≠ counts.validRows + counts.invalidRows then
    .error (.valueError "Total rows must equal valid rows plus invalid rows.")
  else if counts.issueCount < counts.invalidRows then
    .error (.valueError "Issue count cannot be lower than invalid rows.")
  else if status = .published ∧ (counts.invalidRows ≠ 0 ∨ counts.issueCount ≠ 0) then
    .error (.valueError "A published import cannot contain validation issues.")
  else if status = .published ∧ counts.validRows ≠ counts.insertedRows + counts.reusedRows then
    .error (.valueError "Published valid rows must equal inserted plus reused rows.")
  else if status ≠ .published ∧ (counts.insertedRows ≠ 0 ∨ counts.reusedRows ≠ 0) then
    .error (.valueError "Only a published import can report applied rows.")
  else if status = .rejected ∧ counts.issueCount = 0 then
    .error (.valueError "A rejected import must contain at least one issue.")
  else .ok ()

/-- `_bounded_text` for a column of `maxLength` characters. -/
def boundedText (maxLength : Nat) (value : String) : String :=
  String.ofList ((PyText.strip value).toList.take maxLength)

/-- `_validate_duration`. -/
def validateDuration (value : Duration) (name : String) : Except PyError Duration :=
  if value ≤ 0 then .error (.valueError (name ++ " must be positive.")) else .ok value

/-- What `_worker_id` returns. -/
structure WorkerId where
  text : String
  stripped : PyText.Stripped text
  nonempty : text ≠ ""
  limit : text.length ≤ 255

/-- `_worker_id`. -/
def normalizedWorkerId (value : String) : Except PyError WorkerId :=
  if blank : PyText.strip value = "" then .error (.valueError "worker_id cannot be blank.")
  else if long : 255 < (PyText.strip value).length then
    .error (.valueError "worker_id may contain at most 255 characters.")
  else .ok ⟨PyText.strip value, PyText.strip_stripped value, blank, Nat.le_of_not_lt long⟩

/-- The loop of `retry_delay`: the delay it ends with, and the products `delay_us * 2` of its
turns, each before it is cut off. -/
def doublingLoop (maximumUs : Duration) : Nat → Duration → Duration × List Duration
  | 0, delayUs => (delayUs, [])
  | steps + 1, delayUs =>
      if maximumUs ≤ delayUs then (delayUs, [])
      else
        let later := doublingLoop maximumUs steps (min (delayUs * 2) maximumUs)
        (later.1, delayUs * 2 :: later.2)

def retryDelay (attemptCount : Nat) (baseDelay maximumDelay : Duration) : Except PyError Duration :=
  if attemptCount < 1 then .error (.valueError "attempt_count must be positive.")
  else do
    let _ ← validateDuration baseDelay "base_delay"
    let _ ← validateDuration maximumDelay "maximum_delay"
    return (doublingLoop maximumDelay (attemptCount - 1) (min baseDelay maximumDelay)).1

/-! ## Reading and saving -/

def findImport (store : Store) (pk : Uuid) : Option SalesImport := store.importTable.find pk

def findJob (store : Store) (jobId : Uuid) : Option SalesImportJob :=
  (findImport store jobId).bind SalesImport.processingJob

/-- Every job with its intake. -/
def jobs (store : Store) : List (SalesImport × SalesImportJob) :=
  store.importTable.imports.filterMap (fun intake => intake.processingJob.map (fun job => (intake, job)))

def updateImport (store : Store) (pk : Uuid) (change : SalesImport → SalesImport)
    (stable : Stable change) : Store :=
  { store with importTable := store.importTable.update pk change stable }

def withJob (job : SalesImportJob) (intake : SalesImport) : SalesImport :=
  { intake with processingJob := some job }

theorem withJob_stable (job : SalesImportJob) : Stable (withJob job) :=
  ⟨fun _ => rfl, fun _ => rfl, fun _ active => active, fun _ consistent => consistent⟩

def saveJob (store : Store) (jobId : Uuid) (job : SalesImportJob) : Store :=
  updateImport store jobId (withJob job) (withJob_stable job)

def saveAttempt (job : SalesImportJob) (attempt : SalesImportAttempt) : SalesImportJob :=
  { job with attempts := updateBy SalesImportAttempt.id attempt.id (fun _ => attempt) job.attempts }

/-- `_clear_job_lease`. -/
def clearJobLease (job : SalesImportJob) : SalesImportJob :=
  { job with leaseToken := none, leasedBy := "", leaseExpiresAt := none, heartbeatAt := none }

/-! ## Enqueueing -/

/-- The job a received, unfinished or failed intake should have, and its end time. -/
def desiredStatus (intake : SalesImport) (now : Instant) : SalesImportJob.Status × Option Instant :=
  match intake.status with
  | .receiving => (.waitingForFile, none)
  | .received => (if intake.fileFormat = .csv then .queued else .awaitingParser, none)
  | .failed => (.failed, some now)

/-- The job's advance once it exists. -/
def advanceWaitingJob (job : SalesImportJob) (desired : SalesImportJob.Status) (now : Instant) :
    SalesImportJob :=
  if job.status = .waitingForFile ∧ (desired = .queued ∨ desired = .awaitingParser) then
    { job with status := desired, availableAt := now }
  else if job.status = .waitingForFile ∧ desired = .failed then
    { job with
      status := .failed
      finishedAt := some now
      lastErrorCode := "INTAKE_STORAGE_FAILED"
      lastErrorMessage := "The original file was not stored successfully." }
  else job

/-- The job after `enqueue_import` has seen its intake. -/
def enqueuedJob (intake : SalesImport) (maxAttempts : Nat) (now createdAt : Instant) : SalesImportJob :=
  match intake.processingJob with
  | none =>
      { status := (desiredStatus intake now).1
        availableAt := now
        maxAttempts := maxAttempts
        finishedAt := (desiredStatus intake now).2
        createdAt := createdAt }
  | some job => advanceWaitingJob job (desiredStatus intake now).1 now

def enqueueImport (pk : Uuid) (maxAttempts : Nat) (now createdAt : Instant) (store : Store) :
    Outcome SalesImportJob :=
  if ¬(1 ≤ maxAttempts ∧ maxAttempts ≤ 32767) then
    .error (.valueError "max_attempts must be between 1 and 32767.")
  else
    match findImport store pk with
    | none => .error .doesNotExist
    | some intake =>
        .ok (enqueuedJob intake maxAttempts now createdAt,
          saveJob store pk (enqueuedJob intake maxAttempts now createdAt))

/-! ## Requeueing -/

def sourceRecordConflict : String := "SOURCE_RECORD_CONFLICT"

/-- Some attempt of the job stored a conflict issue. -/
def hasConflictIssue (job : SalesImportJob) : Bool :=
  job.attempts.any (fun attempt => attempt.issues.any (fun issue => issue.code = sourceRecordConflict))

def requeueRefusal (intake : SalesImport) (job : SalesImportJob) : Option String :=
  if ¬(job.status = .failed ∨ job.status = .rejected) then
    some "Only failed or rejected sales-import jobs can be retried."
  else if intake.status ≠ .received then
    some "The original sales file must be received before retrying."
  else if intake.fileFormat ≠ .csv then
    some "This sales-import file format does not have a retryable parser."
  else if job.status = .rejected ∧ (job.lastErrorCode = sourceRecordConflict ∨ hasConflictIssue job) then
    some "An immutable source-record conflict cannot be retried."
  else none

def requeuedJob (job : SalesImportJob) (additionalAttempts : Nat) (queuedAt : Instant) : SalesImportJob :=
  { clearJobLease job with
    status := .queued
    availableAt := queuedAt
    maxAttempts := max job.maxAttempts job.attemptCount + additionalAttempts
    finishedAt := none
    lastErrorCode := ""
    lastErrorMessage := ""
    counts := {} }

def requeueJob (jobId : Uuid) (additionalAttempts : Nat) (queuedAt : Instant) (store : Store) :
    Outcome SalesImportJob :=
  if additionalAttempts < 1 then
    .error (.valueError "additional_attempts must be a positive integer.")
  else
    match findImport store jobId with
    | none => .error .doesNotExist
    | some intake =>
        match intake.processingJob with
        | none => .error .doesNotExist
        | some job =>
            match requeueRefusal intake job with
            | some message => .error (.queueStateError message)
            | none =>
                if 32767 < max job.maxAttempts job.attemptCount + additionalAttempts then
                  .error (.valueError "max_attempts cannot exceed 32767.")
                else .ok (requeuedJob job additionalAttempts queuedAt,
                  saveJob store jobId (requeuedJob job additionalAttempts queuedAt))

/-! ## Expiry and exhaustion -/

/-- The running attempt that holds the job's lease. -/
def matchesLease (job : SalesImportJob) (attempt : SalesImportAttempt) : Bool :=
  some attempt.leaseToken = job.leaseToken && attempt.outcome = .running

def expireAttempt (attempt : SalesImportAttempt) (now : Instant) : SalesImportAttempt :=
  { attempt with
    outcome := .leaseExpired
    finishedAt := some now
    errorCode := "LEASE_EXPIRED"
    errorMessage := "The worker did not renew its lease before expiry." }

/-- `_finish_expired_attempt`. -/
def finishExpiredAttempt (job : SalesImportJob) (now : Instant) : Except PyError SalesImportJob :=
  if job.attempts.countP (matchesLease job) ≠ 1 then
    .error (.queueStateError "A processing job must have exactly one matching running attempt.")
  else .ok { job with
    attempts := job.attempts.map (fun attempt =>
      if matchesLease job attempt then expireAttempt attempt now else attempt) }

/-- The job with its expired attempt closed, if it has one. -/
def releaseExpired (job : SalesImportJob) (now : Instant) : Except PyError SalesImportJob :=
  if job.status = .processing then finishExpiredAttempt job now else .ok job

/-- `_mark_exhausted`. -/
def markExhausted (job : SalesImportJob) (now : Instant) : SalesImportJob :=
  { clearJobLease job with
    status := .failed
    finishedAt := some now
    lastErrorCode := "ATTEMPT_LIMIT_EXHAUSTED"
    lastErrorMessage := "The sales import exhausted its worker attempts." }

/-- Ready and available, or leased and expired. -/
def isDue (now : Instant) (job : SalesImportJob) : Bool :=
  ((job.status = .queued || job.status = .retryWait) && job.availableAt ≤ now) ||
    (job.status = .processing && job.leaseExpiresAt.any (fun expiry => expiry ≤ now))

/-- `order_by("available_at", "created_at", "pk")`. -/
def claimOrder (first second : SalesImport × SalesImportJob) : Bool :=
  decide (first.2.availableAt < second.2.availableAt) ||
    (first.2.availableAt = second.2.availableAt &&
      (decide (first.2.createdAt < second.2.createdAt) ||
        (first.2.createdAt = second.2.createdAt && decide (first.1.id ≤ second.1.id))))

/-- The unlocked due jobs that satisfy `budget`, in the order of claiming. -/
def dueJobs (budget : SalesImportJob → Bool) (now : Instant) (locked : List Uuid) (store : Store) :
    List (SalesImport × SalesImportJob) :=
  ((jobs store).filter (fun pair =>
    budget pair.2 && isDue now pair.2 && decide (pair.1.id ∉ locked))).insertionSort
      (fun first second => claimOrder first second = true)

def exhausted (job : SalesImportJob) : Bool := job.maxAttempts ≤ job.attemptCount
def hasAttemptsLeft (job : SalesImportJob) : Bool := job.attemptCount < job.maxAttempts

def markExhaustedJobs (now : Instant) : List (SalesImport × SalesImportJob) → Store → Except PyError Store
  | [], store => .ok store
  | (intake, job) :: rest, store =>
      match releaseExpired job now with
      | .error e => .error e
      | .ok released => markExhaustedJobs now rest (saveJob store intake.id (markExhausted released now))

/-- `_mark_exhausted_batch`; `locked` are the jobs that other transactions hold. -/
def markExhaustedBatch (now : Instant) (locked : List Uuid) (store : Store) : Outcome Nat :=
  let due := (dueJobs exhausted now locked store).take exhaustedCleanupBatchSize
  match markExhaustedJobs now due store with
  | .error e => .error e
  | .ok store => .ok (due.length, store)

/-! ## Claiming -/

def attemptIds (store : Store) : List Uuid :=
  (jobs store).flatMap (fun pair => pair.2.attempts.map SalesImportAttempt.id)

def claimedJob (job : SalesImportJob) (workerId : String) (claimedAt leaseExpiresAt : Instant)
    (leaseToken attemptId : Uuid) : SalesImportJob :=
  { job with
    status := .processing
    attemptCount := job.attemptCount + 1
    leaseToken := some leaseToken
    leasedBy := workerId
    leaseExpiresAt := some leaseExpiresAt
    heartbeatAt := some claimedAt
    firstStartedAt := job.firstStartedAt.getD claimedAt
    finishedAt := none
    lastErrorCode := ""
    lastErrorMessage := ""
    counts := {}
    attempts := job.attempts ++ [{
      id := attemptId
      attemptNumber := job.attemptCount + 1
      leaseToken := leaseToken
      workerId := workerId
      startedAt := claimedAt
      heartbeatAt := claimedAt }] }

/-- The values a claim draws: `uuid.uuid4()` for the token and the attempt's key. -/
structure ClaimDraw where
  leaseToken : Uuid
  attemptId : Uuid
  deriving DecidableEq, Repr

/-- The claiming transaction of `claim_next_job`. -/
def claimJob (workerId : WorkerId) (leaseDuration : Duration) (claimedAt : Instant) (draw : ClaimDraw)
    (locked : List Uuid) (store : Store) : Outcome (Option SalesImportClaim) :=
  match (dueJobs hasAttemptsLeft claimedAt locked store).head? with
  | none => .ok (none, store)
  | some (intake, job) =>
      match releaseExpired job claimedAt with
      | .error e => .error e
      | .ok released =>
          if draw.attemptId ∈ attemptIds store then
            .error (.integrityError "sales_imports_salesimportattempt_pkey")
          else .ok (some {
              jobId := intake.id
              salesImportId := intake.id
              attemptId := draw.attemptId
              attemptNumber := job.attemptCount + 1
              leaseToken := draw.leaseToken
              workerId := workerId.text
              leaseExpiresAt := claimedAt + leaseDuration
              one_to_one := rfl },
            saveJob store intake.id (claimedJob released workerId.text claimedAt (claimedAt + leaseDuration)
              draw.leaseToken draw.attemptId))

/-! ## Fenced operations -/

/-- `_locked_live_claim`. -/
def lockedLiveClaim (jobId leaseToken : Uuid) (now : Instant) (store : Store) :
    Except PyError (SalesImportJob × SalesImportAttempt) :=
  match (findJob store jobId).filter (fun job => job.status = .processing &&
      job.leaseToken = some leaseToken && job.leaseExpiresAt.any (fun expiry => now < expiry)) with
  | none => .error (.claimLost "The sales-import worker no longer owns this job.")
  | some job =>
      match job.attempts.find? (fun attempt => attempt.leaseToken = leaseToken && attempt.outcome = .running) with
      | none => .error (.queueStateError "The live job lease has no matching running attempt.")
      | some attempt => .ok (job, attempt)

/-- Every change a worker makes goes through the lease it presents. -/
def fenced {α : Type} (jobId leaseToken : Uuid) (now : Instant) (store : Store)
    (body : SalesImportJob → SalesImportAttempt → Outcome α) : Outcome α :=
  match lockedLiveClaim jobId leaseToken now store with
  | .error e => .error e
  | .ok (job, attempt) => body job attempt

def heartbeatJob (jobId leaseToken : Uuid) (leaseDuration : Duration) (now : Instant) (store : Store) :
    Outcome Instant :=
  match validateDuration leaseDuration "lease_duration" with
  | .error e => .error e
  | .ok leaseDuration =>
      fenced jobId leaseToken now store fun job attempt =>
        .ok (now + leaseDuration, saveJob store jobId (saveAttempt
          { job with heartbeatAt := some now, leaseExpiresAt := some (now + leaseDuration) }
          { attempt with heartbeatAt := now }))

def advanceAttemptPhase (jobId leaseToken : Uuid) (phase : SalesImportAttempt.Phase) (now : Instant)
    (store : Store) : Outcome Unit :=
  fenced jobId leaseToken now store fun job attempt =>
    .ok ((), saveJob store jobId (saveAttempt job { attempt with phase := phase }))

/-- `schedule_retry` on the locked job: with attempts left it waits, else it fails. -/
def retriedJob (job : SalesImportJob) (errorCode errorMessage : String) (failedAt : Instant)
    (delay : Duration) : SalesImportJob :=
  if job.maxAttempts ≤ job.attemptCount then
    { clearJobLease job with
      lastErrorCode := boundedText 64 errorCode
      lastErrorMessage := boundedText 1000 errorMessage
      status := .failed
      finishedAt := some failedAt }
  else
    { clearJobLease job with
      lastErrorCode := boundedText 64 errorCode
      lastErrorMessage := boundedText 1000 errorMessage
      status := .retryWait
      availableAt := failedAt + delay
      finishedAt := none }

def retriedAttempt (attempt : SalesImportAttempt) (counts : SalesImportJobCounts)
    (errorCode errorMessage : String) (failedAt : Instant) : SalesImportAttempt :=
  { attempt with
    counts := counts
    outcome := .retryableFailure
    finishedAt := some failedAt
    errorCode := boundedText 64 errorCode
    errorMessage := boundedText 1000 errorMessage }

/-- The delay is computed only while attempts are left. -/
def delayIfLeft (job : SalesImportJob) (baseDelay maximumDelay : Duration) : Except PyError Duration :=
  if job.maxAttempts ≤ job.attemptCount then .ok 0
  else retryDelay job.attemptCount baseDelay maximumDelay

def scheduleRetry (jobId leaseToken : Uuid) (errorCode errorMessage : String)
    (baseDelay maximumDelay : Duration) (now : Instant) (store : Store) : Outcome SalesImportJob :=
  fenced jobId leaseToken now store fun job attempt =>
    match validateFor job.counts .failed with
    | .error e => .error e
    | .ok () =>
        match delayIfLeft job baseDelay maximumDelay with
        | .error e => .error e
        | .ok delay =>
            let next := saveAttempt (retriedJob job errorCode errorMessage now delay)
              (retriedAttempt attempt job.counts errorCode errorMessage now)
            .ok (next, saveJob store jobId next)

/-- `_TERMINAL_OUTCOMES`. -/
def terminalOutcome : SalesImportJob.Status → Option SalesImportAttempt.Outcome
  | .published => some .published
  | .rejected => some .rejected
  | .failed => some .permanentFailure
  | .cancelled => some .cancelled
  | _ => none

def finishedJob (job : SalesImportJob) (status : SalesImportJob.Status) (counts : SalesImportJobCounts)
    (errorCode errorMessage : String) (finishedAt : Instant) : SalesImportJob :=
  { clearJobLease job with
    counts := counts
    status := status
    finishedAt := some finishedAt
    lastErrorCode := errorCode
    lastErrorMessage := errorMessage }

def finishedAttempt (attempt : SalesImportAttempt) (status : SalesImportJob.Status)
    (outcome : SalesImportAttempt.Outcome) (counts : SalesImportJobCounts)
    (errorCode errorMessage : String) (finishedAt : Instant) : SalesImportAttempt :=
  { attempt with
    counts := counts
    outcome := outcome
    finishedAt := some finishedAt
    errorCode := errorCode
    errorMessage := errorMessage
    phase := if status = .published then .complete else attempt.phase }

def completeJob (jobId leaseToken : Uuid) (status : SalesImportJob.Status)
    (counts : Option SalesImportJobCounts) (errorCode errorMessage : String) (now : Instant)
    (store : Store) : Outcome SalesImportJob :=
  match terminalOutcome status with
  | none => .error (.valueError "A recognized terminal sales-import status is required.")
  | some outcome =>
      fenced jobId leaseToken now store fun job attempt =>
        let terminalCounts := counts.getD job.counts
        match validateFor terminalCounts status with
        | .error e => .error e
        | .ok () =>
            let next := saveAttempt
              (finishedJob job status terminalCounts (boundedText 64 errorCode)
                (boundedText 1000 errorMessage) now)
              (finishedAttempt attempt status outcome terminalCounts (boundedText 64 errorCode)
                (boundedText 1000 errorMessage) now)
            .ok (next, saveJob store jobId next)

/-! ## Parse batches -/

/-- `_claim_matches` holds. -/
def claimMatches (attempt : SalesImportAttempt) (claim : SalesImportClaim) : Bool :=
  attempt.id = claim.attemptId

def claimMismatch : PyError := .claimLost "The sales-import claim no longer matches its running attempt."

/-- Copy the four progress counters; the other two keep their values. -/
def withProgress (counts : SalesImportJobCounts) (progress : Staging.Progress) : SalesImportJobCounts :=
  progress.counts counts.insertedRows counts.reusedRows

/-- `_record_parse_batch`. -/
def recordParseBatch (claim : SalesImportClaim) (batch : Staging.ParseBatch) (now : Instant)
    (store : Store) : Outcome Unit :=
  fenced claim.jobId claim.leaseToken now store fun job attempt =>
    if claimMatches attempt claim then
      .ok ((), saveJob store claim.jobId (saveAttempt
        { job with
          counts := withProgress job.counts batch.progress
          heartbeatAt := some now
          leaseExpiresAt := some (now + defaultLeaseDuration) }
        { attempt with
          stagedRows := attempt.stagedRows ++ batch.stagedRows
          issues := attempt.issues ++ batch.issues
          counts := withProgress attempt.counts batch.progress
          heartbeatAt := now
          phase := .parse }))
    else .error claimMismatch

end PharmaIntel.Queue
