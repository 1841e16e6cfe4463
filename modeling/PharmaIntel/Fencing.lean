import Mathlib
import PharmaIntel.Attempts
import PharmaIntel.Programs

/-! Fencing. A lease token is presented with every change a worker makes. Tokens never
repeat, so a superseded token opens nothing any more, a claim reaches only its own attempt,
and what has been closed or published stays as it is. -/

namespace PharmaIntel.System
open PharmaIntel.Base PharmaIntel.Models PharmaIntel.Queue PharmaIntel.Intake PharmaIntel.Publication

/-! ## What a presented lease reaches -/

/-- A call under a lease has found it held, and changes only the attempt that carries it. -/
structure LeasedCall (jobId leaseToken : Uuid) (store next : Store) where
  job : SalesImportJob
  after : SalesImportJob
  attempt : SalesImportAttempt
  saved : SalesImportAttempt
  now : Instant
  found : findJob store jobId = some job
  lease : HoldsLease job leaseToken now attempt
  reached : findJob next jobId = some after
  attempts : after.attempts = (saveAttempt job saved).attempts
  same : saved.id = attempt.id
  elsewhere : ∀ other, other ≠ jobId → findImport next other = findImport store other

theorem leasedCall_save {store next : Store} {jobId leaseToken : Uuid} {now : Instant}
    {job after : SalesImportJob} {attempt saved : SalesImportAttempt}
    (live : LiveClaim store jobId leaseToken now job attempt) (table : FactTable)
    (done : next = saveJob { store with factTable := table } jobId (saveAttempt after saved))
    (kept : after.attempts = job.attempts) (same : saved.id = attempt.id) :
    Nonempty (LeasedCall jobId leaseToken store next) := by
  obtain ⟨intake, located, _⟩ := findJob_import live.found
  refine ⟨⟨job, saveAttempt after saved, attempt, saved, now, live.found, live.toHoldsLease, ?_, ?_, same, ?_⟩⟩
  · rw [done]
    exact @findJob_saveJob_same { store with factTable := table } _ _ located _
  · change updateBy _ _ _ after.attempts = _
    rw [kept]
    rfl
  · intro other apart
    rw [done]
    exact findImport_saveJob_other _ _ apart

theorem completeJob_leased {store next : Store} {jobId leaseToken : Uuid}
    {status : SalesImportJob.Status} {counts : Option SalesImportJobCounts}
    {errorCode errorMessage : String} {now : Instant} {value : SalesImportJob}
    (done : completeJob jobId leaseToken status counts errorCode errorMessage now store =
      .ok (value, next)) : Nonempty (LeasedCall jobId leaseToken store next) := by
  unfold completeJob at done
  cases terminal : terminalOutcome status with
  | none => simp [terminal] at done
  | some outcome =>
    rw [terminal] at done
    obtain ⟨job, attempt, live, saved⟩ := fenced_ok done
    cases valid : validateFor (counts.getD job.counts) status with
    | error e => simp [valid] at saved
    | ok passed =>
      simp only [valid, Except.ok.injEq, Prod.mk.injEq] at saved
      exact leasedCall_save live store.factTable saved.2.symm rfl rfl

theorem objectFailedImport_processingJob (failureCode : SalesImport.FailureCode) (now : Instant)
    (intake : SalesImport) :
    (objectFailedImport failureCode now intake).processingJob = intake.processingJob := by
  unfold objectFailedImport
  split_ifs <;> rfl

theorem findJob_objectFailed (store : Store) (pk other : Uuid) (failureCode : SalesImport.FailureCode)
    (now : Instant) :
    findJob (updateImport store pk (objectFailedImport failureCode now)
      (objectFailedImport_stable failureCode now)) other = findJob store other := by
  rw [findJob, findJob]
  by_cases same : other = pk
  · rw [same, findImport_updateImport_same]
    cases findImport store pk with
    | none => rfl
    | some intake => exact objectFailedImport_processingJob failureCode now intake
  · rw [findImport_updateImport_other _ _ _ same]

theorem completeStoredObjectFailure_leased {store next : Store} {claim : SalesImportClaim}
    {failureCode : SalesImport.FailureCode} {errorCode errorMessage : String} {now : Instant}
    {value : SalesImportJob}
    (done : completeStoredObjectFailure claim failureCode errorCode errorMessage now store =
      .ok (value, next)) : Nonempty (LeasedCall claim.jobId claim.leaseToken store next) := by
  unfold completeStoredObjectFailure markStoredObjectFailed at done
  rw [claim.one_to_one] at done
  split at done
  · simp at done
  · split at done
    · simp at done
    · rename_i marked
      split_ifs at marked
      injection marked with same
      subst same
      split at done
      · simp at done
      · obtain ⟨ending⟩ := completeJob_leased done
        refine ⟨⟨ending.job, ending.after, ending.attempt, ending.saved, ending.now, ?_, ending.lease,
          ending.reached, ending.attempts, ending.same, ?_⟩⟩
        · rw [← findJob_objectFailed]
          exact ending.found
        · intro other apart
          rw [ending.elsewhere other apart, findImport_updateImport_other _ _ _ apart]

section Execution
variable {settings : Settings} {ucd : PyText.UnicodeDatabase}

theorem execute_leased {env : Environment} {c : Call} {store next : Store} {reply : c.Reply}
    {jobId leaseToken : Uuid} (presents : c.lease = some (jobId, leaseToken))
    (done : execute settings ucd env c store = .ok (reply, next)) :
    Nonempty (LeasedCall jobId leaseToken store next) := by
  cases c with
  | heartbeatJob =>
    cases presents
    obtain ⟨job, attempt, live, saved⟩ := heartbeatJob_ok done
    exact leasedCall_save live store.factTable saved rfl rfl
  | advanceAttemptPhase =>
    cases presents
    obtain ⟨job, attempt, live, saved⟩ := fenced_ok done
    injection saved with saved
    injection saved with _ saved
    exact leasedCall_save live store.factTable saved.symm rfl rfl
  | recordParseBatch =>
    cases presents
    obtain ⟨job, attempt, live, saved⟩ := fenced_ok done
    split_ifs at saved
    injection saved with saved
    injection saved with _ saved
    exact leasedCall_save live store.factTable saved.symm rfl rfl
  | publishOnce =>
    cases presents
    obtain ⟨ending, _⟩ := publishOnce_ok done
    have same : ending.changed.id = ending.attempt.id := by rw [ending.same]
    exact leasedCall_save ending.live ending.table ending.saved rfl same
  | scheduleRetry =>
    cases presents
    obtain ⟨job, attempt, live, saved⟩ := fenced_ok done
    split at saved
    · simp at saved
    · split at saved
      · simp at saved
      · injection saved with saved
        injection saved with _ saved
        refine leasedCall_save live store.factTable saved.symm ?_ rfl
        unfold retriedJob
        split_ifs <;> rfl
  | completeJob =>
    cases presents
    exact completeJob_leased done
  | completeStoredObjectFailure =>
    cases presents
    exact completeStoredObjectFailure_leased done
  | findActiveImport | findUnfinishedImports | readImport | createImport | enqueueImport
  | completeReceiving | abandonReceiving | recordProvenance | markExhaustedBatch | claimJob | readCounts
  | requeueJob => cases presents

end Execution

/-! ## Tokens -/

def drawnToken (event : Event) : Option Uuid :=
  match event.1 with
  | .claimJob _ _ => some event.2.draw.leaseToken
  | _ => none

/-- The tokens that the claims of a run draw. -/
def drawnTokens (events : List Event) : List Uuid := events.filterMap drawnToken

/-- Calls that do not draw the token. -/
def without (token : Uuid) : Scope := ⟨fun _ => True, fun _ => True, fun drawn => drawn ≠ token⟩

theorem within_without {token : Uuid} {events : List Event} (undrawn : token ∉ drawnTokens events) :
    ∀ event ∈ events, event.Within (without token) := by
  intro event member
  obtain ⟨c, env⟩ := event
  cases c with
  | claimJob workerId leaseDuration =>
    intro same
    exact undrawn (List.mem_filterMap.mpr ⟨_, member, congrArg some same⟩)
  | _ => trivial

section Steps
variable {scope : Scope} {intake : SalesImport} {job next : SalesImportJob}

/-- Only a claim hands out a token, and it is the drawn one. -/
theorem jobStep_token {token : Uuid} (undrawn : ∀ drawn, scope.leaseToken drawn → drawn ≠ token)
    (step : JobStep scope intake job next) (held : next.leaseToken = some token) :
    job.leaseToken = some token := by
  cases step with
  | waited now =>
    unfold advanceWaitingJob at held
    split_ifs at held <;> exact held
  | claimed workerId now expiry draw released due left release within =>
    exact absurd (Option.some.inj held) (undrawn _ within)
  | retried leaseToken now attempt errorCode errorMessage delay =>
    change (retriedJob job errorCode errorMessage now delay).leaseToken = _ at held
    unfold retriedJob at held
    split_ifs at held <;> cases held
  | requeued | exhausted | finished => cases held
  | renewed | phased | parsed => exact held

end Steps

/-! ## Programs under a lease -/

/-- The call presents the claim's lease or changes nothing. -/
def Call.Under (claim : SalesImportClaim) (c : Call) : Prop :=
  c.lease = some (claim.jobId, claim.leaseToken) ∨ (∃ pk, c = .readImport pk) ∨ ∃ jobId, c = .readCounts jobId

section Worker
variable (settings : Settings) (ucd : PyText.UnicodeDatabase) (claim : SalesImportClaim)

theorem heartbeat_under : AllCalls (Call.Under claim) (heartbeat claim) :=
  .bind (allCalls_request (Or.inl rfl)) (fun _ => allCalls_pure _)

theorem heartbeats_under (count : Nat) : AllCalls (Call.Under claim) (heartbeats claim count) :=
  allCalls_eachOf (fun _ _ => heartbeat_under claim)

theorem stageFile_under (stream : Csv.TextStream) :
    AllCalls (Call.Under claim) (stageFile settings ucd claim stream) := by
  refine .bind (allCalls_eachOf (fun _ _ => allCalls_request (Or.inl rfl))) (fun _ => ?_)
  cases (Staging.stageCsv settings ucd stream).2 with
  | error e => exact allCalls_throw e
  | ok staged => exact allCalls_pure staged

theorem publishStagedRows_under (wait : LockWait) :
    AllCalls (Call.Under claim) (publishStagedRows claim wait) := by
  refine .bind (heartbeats_under claim wait.heartbeats) (fun _ => ?_)
  cases wait.acquired with
  | false => exact allCalls_throw _
  | true =>
    refine .bind (heartbeat_under claim) (fun _ => ?_)
    refine .tryCatch (allCalls_request (Or.inl rfl)) (fun e => ?_)
    split_ifs
    · exact allCalls_request (Or.inl rfl)
    · exact allCalls_throw e

theorem completeFailure_under (errorCode errorMessage : String) :
    AllCalls (Call.Under claim) (completeFailure claim errorCode errorMessage) :=
  .bind (allCalls_request (Or.inr (Or.inr ⟨_, rfl⟩))) (fun _ =>
    .bind (allCalls_request (Or.inl rfl)) (fun _ => allCalls_pure _))

theorem scheduleProcessingRetry_under (errorCode errorMessage : String) :
    AllCalls (Call.Under claim) (scheduleProcessingRetry claim errorCode errorMessage) :=
  .bind (allCalls_request (Or.inl rfl)) (fun _ =>
    .bind (allCalls_request (Or.inr (Or.inr ⟨_, rfl⟩))) (fun _ => allCalls_pure _))

theorem failStoredObject_under (failureCode : SalesImport.FailureCode) (errorCode errorMessage : String) :
    AllCalls (Call.Under claim) (failStoredObject claim failureCode errorCode errorMessage) :=
  .bind (allCalls_request (Or.inl rfl)) (fun _ => allCalls_pure _)

theorem processFile_under (download : Download) (wait : LockWait) :
    AllCalls (Call.Under claim) (processFile settings ucd claim download wait) := by
  refine .bind (allCalls_request (Or.inl rfl)) (fun _ => ?_)
  refine .bind (heartbeat_under claim) (fun _ => ?_)
  refine .bind (heartbeats_under claim download.heartbeats) (fun _ => ?_)
  cases download.opened with
  | error failure => exact allCalls_pure _
  | ok stream =>
    refine .bind (heartbeat_under claim) (fun _ => ?_)
    refine .bind (stageFile_under settings ucd claim stream) (fun staged => ?_)
    cases staged.2 with
    | true =>
      exact .map _ (.bind (allCalls_request (Or.inl rfl)) (fun _ => allCalls_pure _))
    | false => exact .bind (heartbeat_under claim) (fun _ => .map _ (publishStagedRows_under claim wait))

/-- Everything `process_claim` changes, failures included, it changes under its lease. -/
theorem processClaim_under (download : Download) (wait : LockWait) :
    AllCalls (Call.Under claim) (processClaim settings ucd claim download wait) := by
  refine .bind (allCalls_request (Or.inr (Or.inl ⟨_, rfl⟩))) (fun intake => ?_)
  split_ifs
  · exact allCalls_throw _
  · exact completeFailure_under claim _ _
  · refine .bind (.tryCatch (processFile_under settings ucd claim download wait) (fun e => ?_)) (fun ending => ?_)
    · split_ifs
      · exact allCalls_pure _
      · exact allCalls_throw e
    · cases ending with
      | finished result => exact allCalls_pure result
      | databaseError => exact scheduleProcessingRetry_under claim _ _
      | unopened failure =>
        cases failure with
        | downloadError message => exact scheduleProcessingRetry_under claim _ message
        | kmsProvenanceError message => exact completeFailure_under claim _ message
        | notFoundError message => exact failStoredObject_under claim _ _ message
        | verificationError message => exact failStoredObject_under claim _ _ message
        | storageError message => exact completeFailure_under claim _ message

end Worker

/-! ## Whole runs -/

section Runs
variable (settings : Settings) (ucd : PyText.UnicodeDatabase)

/-- Whatever the environment, the call fails and changes nothing. -/
def Fails (store : Store) (c : Call) : Prop :=
  ∀ env, (∃ e, (answer settings ucd env c store).1 = .error e) ∧ (answer settings ucd env c store).2 = store

/-- The event is a claim that the store answers with `claim`. -/
def Issued (store : Store) (event : Event) (claim : SalesImportClaim) : Prop :=
  ∃ workerId leaseDuration, event.1 = .claimJob workerId leaseDuration ∧
    (answer settings ucd event.2 (.claimJob workerId leaseDuration) store).1 = .ok (some claim)

variable {settings ucd}

theorem fails_of_refused {store : Store} {c : Call} {jobId leaseToken : Uuid}
    (presents : c.lease = some (jobId, leaseToken))
    (refused : ∀ next, LeasedCall jobId leaseToken store next → False) : Fails settings ucd store c := by
  intro env
  cases outcome : (answer settings ucd env c store).1 with
  | error e => exact ⟨⟨e, rfl⟩, answer_error settings ucd outcome⟩
  | ok reply =>
    have done := answer_ok settings ucd (Prod.ext outcome rfl : answer settings ucd env c store = (.ok reply, _))
    obtain ⟨reached⟩ := execute_leased presents done
    exact (refused _ reached).elim

theorem fails_of_lost {store : Store} {c : Call} {jobId leaseToken : Uuid}
    (presents : c.lease = some (jobId, leaseToken))
    (lost : ∀ job, findJob store jobId = some job → job.leaseToken ≠ some leaseToken) :
    Fails settings ucd store c :=
  fails_of_refused presents (fun _ reached => lost reached.job reached.found reached.lease.token)

theorem issued_end {store : Store} {event : Event} {claim : SalesImportClaim}
    (issued : Issued settings ucd store event claim) :
    drawnToken event = some event.2.draw.leaseToken ∧ ∃ workerId leaseDuration,
      Nonempty (ClaimEnd workerId leaseDuration event.2.now event.2.draw store
        (step settings ucd store event) claim) := by
  obtain ⟨c, env⟩ := event
  obtain ⟨workerId, leaseDuration, rfl, outcome⟩ := issued
  have done := answer_ok settings ucd (Prod.ext outcome rfl :
    answer settings ucd env (.claimJob workerId leaseDuration) store = (.ok (some claim), _))
  rcases claimJob_ok done with ⟨impossible, _⟩ | ⟨other, same, ending⟩
  · cases impossible
  · obtain rfl : claim = other := Option.some.inj same
    exact ⟨rfl, workerId, leaseDuration, ending⟩

/-- No job and no attempt has the token. -/
def Unseen (token : Uuid) (job : SalesImportJob) : Prop :=
  job.leaseToken ≠ some token ∧ ∀ attempt ∈ job.attempts, attempt.leaseToken ≠ token

/-- Of all jobs and attempts only those of the claim may have its token. -/
def Confined (claim : SalesImportClaim) (pk : Uuid) (job : SalesImportJob) : Prop :=
  (job.leaseToken = some claim.leaseToken → pk = claim.jobId) ∧
    ∀ attempt ∈ job.attempts, attempt.leaseToken = claim.leaseToken →
      pk = claim.jobId ∧ attempt.id = claim.attemptId

theorem unseen_run {token : Uuid} {start : Store} (unqueued : Unqueued start) {events : List Event}
    (undrawn : token ∉ drawnTokens events) :
    ∀ pk job, findJob (run (step settings ucd) start events) pk = some job → Unseen token job := by
  refine run_jobs settings ucd (fun _ => Unseen token) ?_ ?_ start ?_ events (within_without undrawn)
  · intro pk job isNew
    obtain ⟨none, free⟩ := newJob_attempts isNew
    exact ⟨by simp [free], by simp [none]⟩
  · intro pk intake job next step unseen
    refine ⟨fun held => unseen.1 (jobStep_token (fun _ => id) step held), ?_⟩
    intro attempt member same
    rcases jobStep_attempt step member with old | ⟨old, inside, _, _, token⟩ | ⟨drawn, _⟩
    · exact unseen.2 attempt old same
    · exact unseen.2 old inside (token ▸ same)
    · exact drawn same
  · intro pk job found
    rw [unqueued_jobs unqueued pk] at found
    cases found

theorem confined_run {claim : SalesImportClaim} {start : Store} {events : List Event}
    (undrawn : claim.leaseToken ∉ drawnTokens events)
    (confined : ∀ pk job, findJob start pk = some job → Confined claim pk job) :
    ∀ pk job, findJob (run (step settings ucd) start events) pk = some job → Confined claim pk job := by
  refine run_jobs settings ucd (Confined claim) ?_ ?_ start confined events (within_without undrawn)
  · intro pk job isNew
    obtain ⟨none, free⟩ := newJob_attempts isNew
    exact ⟨by simp [free], by simp [none]⟩
  · intro pk intake job next step confined
    refine ⟨fun held => confined.1 (jobStep_token (fun _ => id) step held), ?_⟩
    intro attempt member same
    rcases jobStep_attempt step member with old | ⟨old, inside, _, id, token⟩ | ⟨drawn, _⟩
    · exact confined.2 attempt old same
    · rw [id]
      exact confined.2 old inside (token ▸ same)
    · exact absurd same drawn

theorem spent_run {token : Uuid} {start : Store} {events : List Event}
    (undrawn : token ∉ drawnTokens events)
    (spent : ∀ pk job, findJob start pk = some job → job.leaseToken ≠ some token) :
    ∀ pk job, findJob (run (step settings ucd) start events) pk = some job → job.leaseToken ≠ some token := by
  refine run_jobs settings ucd (fun _ job => job.leaseToken ≠ some token) ?_ ?_ start spent events
    (within_without undrawn)
  · intro pk job isNew
    simp [(newJob_attempts isNew).2]
  · exact fun pk intake job next step spent held => spent (jobStep_token (fun _ => id) step held)

/-- A claim's token is new, so after the claim it is the claim's alone. -/
theorem issued_confined {store : Store} {event : Event} {claim : SalesImportClaim}
    (issued : Issued settings ucd store event claim)
    (unseen : ∀ pk job, findJob store pk = some job → Unseen claim.leaseToken job) :
    ∀ pk job, findJob (step settings ucd store event) pk = some job → Confined claim pk job := by
  obtain ⟨_, workerId, leaseDuration, ⟨ending⟩⟩ := issued_end issued
  have job_eq : claim.jobId = ending.intake.id := congrArg SalesImportClaim.jobId ending.claim_eq
  have attempt_eq : claim.attemptId = event.2.draw.attemptId :=
    congrArg SalesImportClaim.attemptId ending.claim_eq
  intro pk job found
  rw [ending.saved] at found
  by_cases same : pk = ending.intake.id
  · rw [same, findJob_saveJob_same ending.due.found] at found
    obtain rfl := Option.some.inj found
    refine ⟨fun _ => same.trans job_eq.symm, ?_⟩
    intro attempt member token
    refine ⟨same.trans job_eq.symm, ?_⟩
    have earlier : findJob store ending.intake.id = some ending.job := by
      rw [findJob, ending.due.found]
      exact ending.due.held
    rcases List.mem_append.mp member with before | here
    · obtain ⟨old, inside, rfl | ⟨_, rfl⟩⟩ := mem_released ending.release before
      · exact absurd token ((unseen _ _ earlier).2 attempt inside)
      · exact absurd token ((unseen _ _ earlier).2 old inside)
    · rw [List.mem_singleton.mp here]
      exact attempt_eq.symm
  · rw [findJob_saveJob_other _ _ same] at found
    have free := unseen pk job found
    exact ⟨fun held => absurd held free.1, fun attempt member token => absurd token (free.2 attempt member)⟩

theorem issued_token {store : Store} {event : Event} {claim : SalesImportClaim}
    (issued : Issued settings ucd store event claim) : drawnToken event = some claim.leaseToken := by
  obtain ⟨drawn, workerId, leaseDuration, ⟨ending⟩⟩ := issued_end issued
  rw [drawn]
  exact congrArg some (congrArg SalesImportClaim.leaseToken ending.claim_eq).symm

/-- A later claim of the job takes the token away from it, and no other job has it. -/
theorem superseded_spent {store : Store} {event : Event} {first second : SalesImportClaim}
    (issued : Issued settings ucd store event second) (same : first.jobId = second.jobId)
    (fresh : second.leaseToken ≠ first.leaseToken)
    (confined : ∀ pk job, findJob store pk = some job → Confined first pk job) :
    ∀ pk job, findJob (step settings ucd store event) pk = some job →
      job.leaseToken ≠ some first.leaseToken := by
  obtain ⟨_, workerId, leaseDuration, ⟨ending⟩⟩ := issued_end issued
  have job_eq : second.jobId = ending.intake.id := congrArg SalesImportClaim.jobId ending.claim_eq
  have token_eq : second.leaseToken = event.2.draw.leaseToken :=
    congrArg SalesImportClaim.leaseToken ending.claim_eq
  intro pk job found held
  rw [ending.saved] at found
  by_cases here : pk = ending.intake.id
  · rw [here, findJob_saveJob_same ending.due.found] at found
    obtain rfl := Option.some.inj found
    exact fresh (token_eq.trans (Option.some.inj held))
  · rw [findJob_saveJob_other _ _ here] at found
    have owner := (confined pk job found).1 held
    exact here (owner.trans (same.trans job_eq))

theorem run_history_jobs {start : Store} (unqueued : Unqueued start) (events : List Event) :
    ∀ pk job, findJob (run (step settings ucd) start events) pk = some job → History job := by
  refine @run_jobs Scope.all settings ucd (fun _ => History) (fun _ _ => newJob_history)
    (fun _ _ _ _ => jobStep_history) start ?_ events (fun event _ => within_all event)
  intro pk job found
  rw [unqueued_jobs unqueued pk] at found
  cases found

variable (settings ucd)

/-- What fencing promises of a run. -/
structure Fencing (start : Store) (events : List Event) : Prop where
  /-- Once a second claim has been issued for its job, nothing opens under the first. -/
  superseded : ∀ before firstEvent between secondEvent after first second,
    events = before ++ firstEvent :: between ++ secondEvent :: after →
      Issued settings ucd (run (step settings ucd) start before) firstEvent first →
      Issued settings ucd (run (step settings ucd) start (before ++ firstEvent :: between)) secondEvent second →
      first.jobId = second.jobId →
        (∀ c, c.lease = some (first.jobId, first.leaseToken) →
          Fails settings ucd (run (step settings ucd) start events) c) ∧
        ∀ download wait, AllCalls
          (fun c => ∀ env, (answer settings ucd env c (run (step settings ucd) start events)).2 =
            run (step settings ucd) start events) (processClaim settings ucd first download wait)
  /-- A claim changes its own job, and of that job's attempts only its own, while it runs. -/
  own : ∀ before event after claim, events = before ++ event :: after →
    Issued settings ucd (run (step settings ucd) start before) event claim →
      ∀ env c reply next, c.lease = some (claim.jobId, claim.leaseToken) →
        answer settings ucd env c (run (step settings ucd) start events) = (.ok reply, next) →
          (∀ other, other ≠ claim.jobId →
            findImport next other = findImport (run (step settings ucd) start events) other) ∧
          ∃ job later, findJob (run (step settings ucd) start events) claim.jobId = some job ∧
            findJob next claim.jobId = some later ∧
            (∃ attempt ∈ job.attempts, attempt.id = claim.attemptId ∧ attempt.outcome = .running) ∧
            ∀ attempt, attempt.id ≠ claim.attemptId →
              (attempt ∈ later.attempts ↔ attempt ∈ job.attempts)
  /-- Once its attempt is closed, nothing opens under the claim. -/
  once : ∀ before event after claim job attempt, events = before ++ event :: after →
    Issued settings ucd (run (step settings ucd) start before) event claim →
      findJob (run (step settings ucd) start events) claim.jobId = some job → attempt ∈ job.attempts →
      attempt.id = claim.attemptId → attempt.outcome ≠ .running →
        ∀ c, c.lease = some (claim.jobId, claim.leaseToken) →
          Fails settings ucd (run (step settings ucd) start events) c
  /-- A closed attempt stays as it is. -/
  closed : ∀ before after pk job attempt, events = before ++ after →
    findJob (run (step settings ucd) start before) pk = some job → attempt ∈ job.attempts →
    attempt.outcome ≠ .running →
      ∃ later, findJob (run (step settings ucd) start events) pk = some later ∧ attempt ∈ later.attempts
  /-- A job has at most one published attempt, and only as a published job. -/
  publishedOnce : ∀ pk job, findJob (run (step settings ucd) start events) pk = some job →
    (∀ attempt ∈ job.attempts, attempt.outcome = .published → job.status = .published) ∧
      ∀ first ∈ job.attempts, ∀ second ∈ job.attempts, first.outcome = .published →
        second.outcome = .published → first = second
  /-- A published job and its attempts stay as they are. -/
  publishedFrozen : ∀ before after pk job, events = before ++ after →
    findJob (run (step settings ucd) start before) pk = some job → job.status = .published →
      findJob (run (step settings ucd) start events) pk = some job
  /-- Facts are inserted only by the transaction that publishes a job that was processing. -/
  contributed : ∀ before event after, events = before ++ event :: after →
    (step settings ucd (run (step settings ucd) start before) event).factTable ≠
      (run (step settings ucd) start before).factTable →
    ∃ claim job later attempt, event.1 = .publishOnce claim ∧
      findJob (run (step settings ucd) start before) claim.jobId = some job ∧ job.status = .processing ∧
      findJob (step settings ucd (run (step settings ucd) start before) event) claim.jobId = some later ∧
      later.status = .published ∧ attempt ∈ later.attempts ∧ attempt.id = claim.attemptId ∧
      attempt.outcome = .published ∧
      (run (step settings ucd) start before).factTable.facts <+:
        (step settings ucd (run (step settings ucd) start before) event).factTable.facts

variable {settings ucd}

theorem drawnTokens_split {before after : List Event} {event : Event} {token : Uuid}
    (drawn : drawnToken event = some token) :
    drawnTokens (before ++ event :: after) = drawnTokens before ++ token :: drawnTokens after := by
  rw [drawnTokens, List.filterMap_append, List.filterMap_cons_some drawn]
  rfl

/-- In every later state of the run the claim's token is confined to its attempt. -/
theorem issued_run {start : Store} (unqueued : Unqueued start) {before after : List Event} {event : Event}
    {claim : SalesImportClaim} (unrepeated : (drawnTokens (before ++ event :: after)).Nodup)
    (issued : Issued settings ucd (run (step settings ucd) start before) event claim) :
    ∀ pk job, findJob (run (step settings ucd) start (before ++ event :: after)) pk = some job →
      Confined claim pk job := by
  rw [drawnTokens_split (issued_token issued), List.nodup_append, List.nodup_cons] at unrepeated
  obtain ⟨_, ⟨later, _⟩, apart⟩ := unrepeated
  have earlier : claim.leaseToken ∉ drawnTokens before :=
    fun member => apart _ member _ List.mem_cons_self rfl
  rw [run_append, run_cons]
  exact confined_run later (issued_confined issued (unseen_run unqueued earlier))

theorem leasedCall_own {store next : Store} {claim : SalesImportClaim}
    (confined : ∀ pk job, findJob store pk = some job → Confined claim pk job)
    (reached : LeasedCall claim.jobId claim.leaseToken store next) :
    reached.attempt.id = claim.attemptId :=
  ((confined _ _ reached.found).2 reached.attempt reached.lease.member reached.lease.attemptToken).2

/-- A publication adds its facts as it moves its job from processing to published. -/
theorem PublicationEnd.contributes {claim : SalesImportClaim} {times : PublicationTimes}
    {store next : Store} (ending : PublicationEnd claim times store next)
    (published : ending.status = .published) :
    ∃ job later attempt, findJob store claim.jobId = some job ∧ job.status = .processing ∧
      findJob next claim.jobId = some later ∧ later.status = .published ∧ attempt ∈ later.attempts ∧
      attempt.id = claim.attemptId ∧ attempt.outcome = .published ∧
      store.factTable.facts <+: next.factTable.facts := by
  obtain ⟨job, attempt, changed, status, outcome, counts, errorCode, errorMessage, table, live, own, same, _,
    terminal, valid, limits, ends, saved⟩ := ending
  obtain rfl : status = .published := published
  subst saved
  obtain ⟨intake, located, _⟩ := findJob_import live.found
  have carries : changed.id = attempt.id := by rw [same]
  refine ⟨job, _, _, live.found, live.processing,
    @findJob_saveJob_same { store with factTable := table } _ _ located _, rfl,
    mem_saveAttempt live.member carries, carries.trans (of_decide_eq_true own),
    (terminal_facts terminal).2.2.2.1.mpr rfl, ?_⟩
  rcases ends with ⟨rejected, _⟩ | ⟨_, grows⟩
  · cases rejected
  · exact grows.facts_kept

/-- A second claim on the job takes the lease from the first for good. -/
theorem superseded_fails {start : Store} (unqueued : Unqueued start) {before between after : List Event}
    {firstEvent secondEvent : Event} {first second : SalesImportClaim}
    (unrepeated : (drawnTokens (before ++ firstEvent :: between ++ secondEvent :: after)).Nodup)
    (firstIssued : Issued settings ucd (run (step settings ucd) start before) firstEvent first)
    (secondIssued : Issued settings ucd (run (step settings ucd) start (before ++ firstEvent :: between)) secondEvent
      second)
    (same : first.jobId = second.jobId) (c : Call) (presents : c.lease = some (first.jobId, first.leaseToken)) :
    Fails settings ucd
      (run (step settings ucd) start (before ++ firstEvent :: between ++ secondEvent :: after)) c := by
  rw [drawnTokens_split (issued_token secondIssued), List.nodup_append, List.nodup_cons] at unrepeated
  obtain ⟨earlier, ⟨later, _⟩, apart⟩ := unrepeated
  have drawn : first.leaseToken ∈ drawnTokens (before ++ firstEvent :: between) := by
    rw [drawnTokens_split (issued_token firstIssued)]
    simp
  have fresh : second.leaseToken ≠ first.leaseToken :=
    fun equal => apart _ drawn _ List.mem_cons_self equal.symm
  have undrawn : first.leaseToken ∉ drawnTokens after :=
    fun member => apart _ drawn _ (List.mem_cons_of_mem _ member) rfl
  have spent := @spent_run settings ucd _ _ _ undrawn
    (superseded_spent secondIssued same fresh (issued_run unqueued earlier firstIssued))
  rw [← run_cons (step settings ucd), ← run_append] at spent
  exact fails_of_lost presents (fun job found => spent _ job found)

/-- Of the attempts only the claim's own may differ after one of its calls. -/
theorem leasedCall_attempts {store next : Store} {claim : SalesImportClaim}
    (confined : ∀ pk job, findJob store pk = some job → Confined claim pk job)
    (reached : LeasedCall claim.jobId claim.leaseToken store next) {attempt : SalesImportAttempt}
    (apart : attempt.id ≠ claim.attemptId) : attempt ∈ reached.after.attempts ↔ attempt ∈ reached.job.attempts := by
  have other : attempt.id ≠ reached.saved.id := by
    rw [reached.same, leasedCall_own confined reached]
    exact apart
  rw [reached.attempts]
  constructor
  · intro member
    rcases mem_saved member with ⟨old, _⟩ | ⟨equal, _⟩
    · exact old
    · exact absurd (congrArg SalesImportAttempt.id equal) other
  · intro member
    exact List.mem_map.mpr ⟨attempt, member, if_neg other⟩

/-- Along every run from an unqueued store whose claims draw distinct tokens. -/
theorem claims_fenced (settings : Settings) (ucd : PyText.UnicodeDatabase) (start : Store)
    (unqueued : Unqueued start) (events : List Event) (unrepeated : (drawnTokens events).Nodup) :
    Fencing settings ucd start events := by
  have histories := @run_history_jobs settings ucd _ unqueued
  refine
    { superseded := ?_
      own := ?_
      once := ?_
      closed := ?_
      publishedOnce := ?_
      publishedFrozen := ?_
      contributed := ?_ }
  · intro before firstEvent between secondEvent after first second whole firstIssued secondIssued same
    subst whole
    have fails : ∀ c, c.lease = some (first.jobId, first.leaseToken) → Fails settings ucd
        (run (step settings ucd) start (before ++ firstEvent :: between ++ secondEvent :: after)) c :=
      superseded_fails unqueued unrepeated firstIssued secondIssued same
    refine ⟨fails, ?_⟩
    intro download wait
    apply (processClaim_under settings ucd first download wait).mono
    intro c under env
    rcases under with presents | ⟨pk, rfl⟩ | ⟨jobId, rfl⟩
    · exact (fails c presents env).2
    · exact answer_read settings ucd env (Or.inl ⟨pk, rfl⟩) _
    · exact answer_read settings ucd env (Or.inr ⟨jobId, rfl⟩) _
  · intro before event after claim whole issued env c reply next presents done
    subst whole
    have confined := issued_run unqueued unrepeated issued
    obtain ⟨reached⟩ := execute_leased presents (answer_ok settings ucd done)
    exact ⟨reached.elsewhere, reached.job, reached.after, reached.found, reached.reached,
      ⟨reached.attempt, reached.lease.member, leasedCall_own confined reached, reached.lease.running⟩,
      fun attempt apart => leasedCall_attempts confined reached apart⟩
  · intro before event after claim job attempt whole issued found member id closed c presents
    subst whole
    have confined := issued_run unqueued unrepeated issued
    have history := histories _ _ _ found
    apply fails_of_refused presents
    intro next reached
    obtain rfl : reached.job = job := Option.some.inj (reached.found.symm.trans found)
    have same : reached.attempt = attempt := List.inj_on_of_nodup_map history.ids reached.lease.member member
      ((leasedCall_own confined reached).trans id.symm)
    exact closed (same ▸ reached.lease.running)
  · intro before after pk job attempt whole found member closed
    subst whole
    rw [run_append]
    obtain ⟨final, located, _, kept⟩ := @run_job Scope.all settings ucd
      (fun job => History job ∧ attempt ∈ job.attempts)
      (fun _ _ _ step holds => ⟨jobStep_history step holds.1, jobStep_closed step holds.1 holds.2 closed⟩)
      after (fun event _ => within_all event) _ _ _ found ⟨histories before pk job found, member⟩
    exact ⟨final, located, kept⟩
  · intro pk job found
    have history := histories _ _ _ found
    exact ⟨history.published, history.once⟩
  · intro before after pk job whole found published
    subst whole
    rw [run_append]
    obtain ⟨final, located, same⟩ := @run_job Scope.all settings ucd (fun other => other = job)
      (fun _ other next step same => by
        subst same
        exact jobStep_published step published)
      after (fun event _ => within_all event) _ _ _ found rfl
    rw [located, same]
  · intro before event after whole changed
    rcases step_cases settings ucd (run (step settings ucd) start before) event with same | ⟨reply, done⟩
    · exact absurd (congrArg Store.factTable same) changed
    · rcases execute_facts done with kept | ⟨claim, publishes, ending, published⟩
      · exact absurd kept changed
      · obtain ⟨job, later, attempt, facts⟩ := ending.contributes published
        exact ⟨claim, job, later, attempt, publishes, facts⟩

end Runs

namespace Sample

/-- The first worker lets its lease expire, and a second one claims the job. -/
def reclaimedRun : List Event :=
  [(.enqueueImport 3 5, environment 0 0 0), (.claimJob workerId 100, environment 1 11 7),
    (.claimJob workerId 100, environment 200 12 8)]

def claimOf (jobId attemptId : Uuid) (attemptNumber : Nat) (leaseToken : Uuid) (leaseExpiresAt : Instant) :
    SalesImportClaim := ⟨jobId, jobId, attemptId, attemptNumber, leaseToken, "worker", leaseExpiresAt, rfl⟩

def firstClaim : SalesImportClaim := claimOf 3 7 1 11 101
def secondClaim : SalesImportClaim := claimOf 3 8 2 12 300

end Sample

/-- The first worker's heartbeat fails, whatever time it reads. -/
theorem claims_fenced_sample :
    Fails Publication.Sample.settings PyText.asciiDatabase
      (run (step Publication.Sample.settings PyText.asciiDatabase) Sample.store Sample.reclaimedRun)
      (.heartbeatJob 3 11 100) :=
  ((claims_fenced Publication.Sample.settings PyText.asciiDatabase Sample.store
    (by simp [Unqueued, Sample.store]) Sample.reclaimedRun (by decide)).superseded
    (Sample.reclaimedRun.take 1) (Sample.reclaimedRun.get ⟨1, by decide⟩) []
    (Sample.reclaimedRun.get ⟨2, by decide⟩) [] Sample.firstClaim Sample.secondClaim rfl
    ⟨Sample.workerId, 100, rfl, rfl⟩ ⟨Sample.workerId, 100, rfl, rfl⟩ rfl).1 _ rfl

end PharmaIntel.System
