import Mathlib
import PharmaIntel.ClaimOrder
import PharmaIntel.WorkerExits

/-! The worker command: it claims jobs one after the other and processes each to its end,
while other workers go on. -/

namespace PharmaIntel.System
open PharmaIntel.Base PharmaIntel.Models PharmaIntel.Queue PharmaIntel.Intake PharmaIntel.Publication

/-! ## The command -/

def statusValue : SalesImportJob.Status → String
  | .waitingForFile => "waiting_file"
  | .awaitingParser => "awaiting_parser"
  | .queued => "queued"
  | .processing => "processing"
  | .retryWait => "retry_wait"
  | .published => "published"
  | .rejected => "rejected"
  | .failed => "failed"
  | .cancelled => "cancelled"

/-- What the command prints for a job. -/
def resultLine (result : SalesImportProcessingResult) : String :=
  toString result.jobId ++ ": " ++ statusValue result.status ++ "; rows=" ++ toString result.counts.totalRows ++
    ", inserted=" ++ toString result.counts.insertedRows ++ ", reused=" ++ toString result.counts.reusedRows ++
    ", issues=" ++ toString result.counts.issueCount

/-- The results in the order of their claims, and the exception that left the loop, if any. -/
structure WorkerRun where
  results : List SalesImportProcessingResult
  stopped : Option PyError
  deriving DecidableEq, Repr

def WorkerRun.failedJobIds (worked : WorkerRun) : List Uuid :=
  (worked.results.filter (fun result => result.status = .failed)).map SalesImportProcessingResult.jobId

/-- The exception of `handle`. -/
def WorkerRun.raised (worked : WorkerRun) : Option PyError :=
  match worked.stopped with
  | some e => some e
  | none =>
      if worked.failedJobIds = [] then none
      else some (.commandError ("Sales-import processing failed for " ++ toString worked.failedJobIds.length ++
        " job(s): " ++ ", ".intercalate (worked.failedJobIds.map toString) ++ "."))

def WorkerRun.printed (worked : WorkerRun) : List String :=
  worked.results.map resultLine ++
    if worked.raised = none then ["Sales-import jobs processed: " ++ toString worked.results.length ++ "."] else []

/-- `ValueError` while claiming, and a lost claim while processing, become the command's own errors. -/
def claimingError : PyError → PyError
  | .valueError message => .commandError message
  | e => e

def processingError : PyError → PyError
  | .claimLost message => .commandError message
  | e => e

section Command
variable (settings : Settings) (ucd : PyText.UnicodeDatabase) (workerId : String)
  (files : SalesImportClaim → Download × LockWait)

abbrev TransactionProgram (α : Type) : Type := Program (fun c : Call => Except PyError c.Reply) α

/-- The loop, with the jobs that it may still claim and the results so far. -/
def claimedJobs : Nat → List SalesImportProcessingResult → TransactionProgram WorkerRun
  | 0, results => .done ⟨results, none⟩
  | left + 1, results => do
      match ← (claimNextJob workerId defaultLeaseDuration).run with
      | .error e => .done ⟨results, some (claimingError e)⟩
      | .ok none => .done ⟨results, none⟩
      | .ok (some claim) =>
          match ← (processClaim settings ucd claim (files claim).1 (files claim).2).run with
          | .error e => .done ⟨results, some (processingError e)⟩
          | .ok result => claimedJobs left (results ++ [result])

/-- `handle`; `storage` says whether the storage is configured, and `generated` is the label
of a worker that was given none. -/
def processSalesImports (maxJobs : Int) (generated : String) (storage : Except String Unit) :
    TransactionProgram WorkerRun :=
  if maxJobs < 1 then .done ⟨[], some (.commandError "--max-jobs must be at least 1.")⟩
  else
    match storage with
    | .error message => .done ⟨[], some (.commandError message)⟩
    | .ok () =>
        claimedJobs settings ucd (if PyText.strip workerId = "" then generated else PyText.strip workerId) files
          maxJobs.toNat []

end Command

/-! ## A result gives the lease back -/

section Results
variable (settings : Settings) (ucd : PyText.UnicodeDatabase) (claim : SalesImportClaim) (drawn : Uuid → Prop)

def resultStatuses : List SalesImportJob.Status := [.published, .rejected, .failed, .retryWait]

/-- No job is leased with the token. -/
def Free (store : Store) (token : Uuid) : Prop :=
  ∀ pk job, findJob store pk = some job → job.leaseToken ≠ some token

/-- The command draws these tokens, and nobody else does. -/
def Draws (event : Event) : Prop := ∀ token, drawnToken event = some token → drawn token
def Apart (event : Event) : Prop := ∀ token, drawnToken event = some token → ¬drawn token

/-- A result is of the claimed job, which is settled or waits, and holds its lease no longer. -/
def GivenBack (result : SalesImportProcessingResult) (store : Store) : Prop :=
  LeaseLost claim store ∧ result.jobId = claim.jobId ∧ result.status ∈ resultStatuses

variable {settings ucd claim drawn}

theorem drawnTokens_single (event : Event) : drawnTokens [event] = (drawnToken event).toList := by
  unfold drawnTokens
  cases drawn : drawnToken event with
  | none => rw [List.filterMap_cons_none drawn]; rfl
  | some token => rw [List.filterMap_cons_some drawn]; rfl

theorem undrawn_within {token : Uuid} {event : Event} (undrawn : drawnToken event ≠ some token) :
    event.Within (without token) := by
  have absent : token ∉ drawnTokens [event] := by
    rw [drawnTokens_single, Option.mem_toList]
    exact undrawn
  exact within_without absent event List.mem_cons_self

theorem free_step {token : Uuid} {store : Store} {event : Event} (undrawn : drawnToken event ≠ some token)
    (free : Free store token) : Free (step settings ucd store event) token := by
  refine (step_evolves settings ucd store event (undrawn_within undrawn)).jobs ?_ ?_ free
  · intro pk job isNew
    simp [(newJob_attempts isNew).2]
  · exact fun pk intake job next step free held => free (jobStep_token (fun _ => id) step held)

theorem lost_step {store : Store} {event : Event} (undrawn : drawnToken event ≠ some claim.leaseToken)
    (lost : LeaseLost claim store) : LeaseLost claim (step settings ucd store event) := by
  refine (step_evolves settings ucd store event (undrawn_within undrawn)).jobs ?_ ?_ lost
  · intro pk job isNew _
    simp [(newJob_attempts isNew).2]
  · exact fun pk intake job next step before here held => before here (jobStep_token (fun _ => id) step held)

theorem lost_of_saved {store next : Store} {job value : SalesImportJob}
    (found : findJob store claim.jobId = some job) (saved : next = saveJob store claim.jobId value)
    (free : value.leaseToken = none) : LeaseLost claim next := by
  rintro pk after located rfl
  obtain ⟨intake, there, _⟩ := findJob_import found
  rw [saved, findJob_saveJob_same there] at located
  rw [← Option.some.inj located, free]
  exact (Option.some_ne_none _).symm

theorem completeJob_givesBack {status : SalesImportJob.Status} {counts : Option SalesImportJobCounts}
    {errorCode errorMessage : String} {now : Instant} {store next : Store} {job : SalesImportJob}
    (done : completeJob claim.jobId claim.leaseToken status counts errorCode errorMessage now store =
      .ok (job, next)) : LeaseLost claim next ∧ job.status = status := by
  unfold completeJob at done
  cases terminal : terminalOutcome status with
  | none => simp [terminal] at done
  | some outcome =>
    rw [terminal] at done
    obtain ⟨held, attempt, live, saved⟩ := fenced_ok done
    cases valid : validateFor (counts.getD held.counts) status with
    | error e => simp [valid] at saved
    | ok passed =>
      simp only [valid, Except.ok.injEq, Prod.mk.injEq] at saved
      obtain ⟨rfl, same⟩ := saved
      exact ⟨lost_of_saved live.found same.symm rfl, rfl⟩

theorem completeStoredObjectFailure_givesBack {failureCode : SalesImport.FailureCode}
    {errorCode errorMessage : String} {now : Instant} {store next : Store} {job : SalesImportJob}
    (done : completeStoredObjectFailure claim failureCode errorCode errorMessage now store = .ok (job, next)) :
    LeaseLost claim next ∧ job.status = .failed := by
  unfold completeStoredObjectFailure at done
  split at done
  · cases done
  · split at done
    · cases done
    · split at done
      · cases done
      · exact completeJob_givesBack done

theorem scheduleRetry_givesBack {errorCode errorMessage : String} {baseDelay maximumDelay : Duration}
    {now : Instant} {store next : Store} {job : SalesImportJob}
    (done : scheduleRetry claim.jobId claim.leaseToken errorCode errorMessage baseDelay maximumDelay now store =
      .ok (job, next)) : LeaseLost claim next ∧ job.status ∈ resultStatuses := by
  obtain ⟨held, attempt, live, saved⟩ := fenced_ok done
  split at saved
  · cases saved
  · split at saved
    · cases saved
    · rename_i delay _
      simp only [Except.ok.injEq, Prod.mk.injEq] at saved
      obtain ⟨rfl, same⟩ := saved
      refine ⟨lost_of_saved live.found same.symm ?_, ?_⟩
      · change (retriedJob held errorCode errorMessage now delay).leaseToken = none
        unfold retriedJob
        split_ifs <;> rfl
      · change (retriedJob held errorCode errorMessage now delay).status ∈ resultStatuses
        unfold retriedJob
        split_ifs <;> simp [resultStatuses]

theorem publishOnce_givesBack {snapshot : Snapshot} {times : PublicationTimes} {store next : Store}
    {result : SalesImportProcessingResult}
    (done : publishOnce settings snapshot claim times store = .ok (result, next)) : GivenBack claim result next := by
  obtain ⟨ending, rfl⟩ := publishOnce_ok done
  have status : ending.status ∈ resultStatuses := by
    rcases ending.ends with ⟨rejected, _⟩ | ⟨published, _⟩
    · rw [rejected]
      decide
    · rw [published]
      decide
  refine ⟨?_, rfl, status⟩
  exact @lost_of_saved claim { store with factTable := ending.table } _ _ _ ending.live.found ending.saved rfl

end Results

section Parts
variable (settings : Settings) (ucd : PyText.UnicodeDatabase) (drawn : Uuid → Prop) (claim : SalesImportClaim)

/-- A part of the worker that ends with a value in `V`, wherever the others take the store. -/
def GivesBack {α : Type} (program : Transaction α) (V : α → Store → Prop) : Prop :=
  Returns (answer settings ucd) (Draws drawn) (Apart drawn) (fun _ => True) program V

variable {settings ucd drawn claim}

theorem apart_lost (mine : drawn claim.leaseToken) : Undisturbed (answer settings ucd) (Apart drawn) (LeaseLost claim) :=
  fun _ _ apart lost => lost_step (fun same => apart _ same mine) lost

theorem givesBack_call {c : Call} {V : c.Reply → Store → Prop}
    (done : ∀ env store reply next, execute settings ucd env c store = .ok (reply, next) → V reply next) :
    GivesBack settings ucd drawn (transact c) V := by
  refine returns_request (fun _ _ _ _ => trivial) ?_
  intro store env reply next _ _ outcome
  exact done env store reply next (answer_ok settings ucd outcome)

theorem givesBack_completed (status : SalesImportJob.Status) (counts : Option SalesImportJobCounts)
    (errorCode errorMessage : String) :
    GivesBack settings ucd drawn
      (transact (.completeJob claim.jobId claim.leaseToken status counts errorCode errorMessage))
      (fun job store => LeaseLost claim store ∧ job.status = status) :=
  givesBack_call (fun env store job next (done : completeJob _ _ _ _ _ _ env.now store = .ok (job, next)) =>
    completeJob_givesBack done)

theorem completeFailure_givesBack (errorCode errorMessage : String) :
    GivesBack settings ucd drawn (completeFailure claim errorCode errorMessage) (GivenBack claim) := by
  refine returns_bind (returns_any _) (fun counts => ?_)
  refine returns_bind (givesBack_completed _ _ _ _) (fun job => ?_)
  refine returns_pure ?_
  rintro store ⟨lost, status⟩
  exact ⟨lost, rfl, by simp [resultStatuses, status]⟩

theorem failStoredObject_givesBack (failureCode : SalesImport.FailureCode) (errorCode errorMessage : String) :
    GivesBack settings ucd drawn (failStoredObject claim failureCode errorCode errorMessage) (GivenBack claim) := by
  refine returns_bind (givesBack_call (fun env store job next done => completeStoredObjectFailure_givesBack done))
    (fun job => ?_)
  refine returns_pure ?_
  rintro store ⟨lost, status⟩
  exact ⟨lost, rfl, by simp [resultStatuses, status]⟩

theorem scheduleProcessingRetry_givesBack (mine : drawn claim.leaseToken) (errorCode errorMessage : String) :
    GivesBack settings ucd drawn (scheduleProcessingRetry claim errorCode errorMessage) (GivenBack claim) := by
  refine returns_bind (givesBack_call (fun env store job next done => scheduleRetry_givesBack done)) (fun job => ?_)
  refine returns_bind (returns_request ?_ ?_ (V := fun _ store => LeaseLost claim store ∧
    job.status ∈ resultStatuses)) (fun counts => ?_)
  · rintro store event apart ⟨lost, status⟩
    exact ⟨apart_lost mine store event apart lost, status⟩
  · rintro store env counts next _ ⟨lost, status⟩ done
    have same := answer_read settings ucd env (Or.inr ⟨claim.jobId, rfl⟩) store
    rw [done] at same
    dsimp only at same
    rw [same]
    exact ⟨lost, status⟩
  · refine returns_pure ?_
    rintro store ⟨lost, status⟩
    exact ⟨lost, rfl, status⟩

theorem publishStagedRows_givesBack (wait : LockWait) :
    GivesBack settings ucd drawn (publishStagedRows claim wait) (GivenBack claim) := by
  have once : GivesBack settings ucd drawn (transact (.publishOnce claim)) (GivenBack claim) :=
    givesBack_call (fun env store result next done => publishOnce_givesBack done)
  refine returns_bind (returns_any _) (fun _ => ?_)
  split_ifs
  · refine returns_bind (returns_any _) (fun _ => ?_)
    refine returns_tryCatch once (fun e => ?_)
    split_ifs
    · exact once
    · exact returns_throw
  · exact returns_throw

theorem rejectContract_givesBack (progress : Staging.Progress) :
    GivesBack settings ucd drawn (rejectContract claim progress) (GivenBack claim) := by
  refine returns_bind (givesBack_completed _ _ _ _) (fun job => ?_)
  refine returns_pure ?_
  rintro store ⟨lost, status⟩
  exact ⟨lost, rfl, by simp [resultStatuses, status]⟩

/-- Only a finished file has given the lease back. -/
def FinishedBack (claim : SalesImportClaim) : FileEnd → Store → Prop
  | .finished result, store => GivenBack claim result store
  | _, _ => True

theorem processFile_givesBack (download : Download) (wait : LockWait) :
    GivesBack settings ucd drawn (processFile settings ucd claim download wait) (FinishedBack claim) := by
  refine returns_bind (returns_any _) (fun _ => ?_)
  refine returns_bind (returns_any _) (fun _ => ?_)
  refine returns_bind (returns_any _) (fun _ => ?_)
  cases download.opened with
  | error failure => exact returns_pure (fun _ _ => trivial)
  | ok stream =>
    refine returns_bind (returns_any _) (fun _ => ?_)
    refine returns_bind (returns_any _) (fun staged => ?_)
    split_ifs
    · exact returns_map (rejectContract_givesBack staged.1)
    · refine returns_bind (returns_any _) (fun _ => ?_)
      exact returns_map (publishStagedRows_givesBack wait)

/-- However the others go on, a result of `process_claim` comes with the lease given back. -/
theorem processClaim_givesBack (mine : drawn claim.leaseToken) (download : Download) (wait : LockWait) :
    GivesBack settings ucd drawn (processClaim settings ucd claim download wait) (GivenBack claim) := by
  refine returns_bind (returns_any _) (fun intake => ?_)
  split_ifs
  · exact returns_throw
  · exact completeFailure_givesBack _ _
  · have guarded : GivesBack settings ucd drawn
        (tryCatch (processFile settings ucd claim download wait) (fun e =>
          if isDatabaseError e then return .databaseError else throw e)) (FinishedBack claim) := by
      refine returns_tryCatch (processFile_givesBack download wait) (fun e => ?_)
      split_ifs
      · exact returns_pure (fun _ _ => trivial)
      · exact returns_throw
    refine returns_bind guarded (fun ending => ?_)
    cases ending with
    | finished result => exact returns_pure (fun _ given => given)
    | unopened failure =>
      refine Meets.imp (?_ : GivesBack settings ucd drawn (handleUnopened claim failure) (GivenBack claim))
        (fun _ _ => trivial) (fun _ _ _ reached => reached)
      cases failure with
      | downloadError message => exact scheduleProcessingRetry_givesBack mine _ _
      | kmsProvenanceError message => exact completeFailure_givesBack _ _
      | notFoundError message => exact failStoredObject_givesBack _ _ _
      | verificationError message => exact failStoredObject_givesBack _ _ _
      | storageError message => exact completeFailure_givesBack _ _
    | databaseError =>
      exact Meets.imp (scheduleProcessingRetry_givesBack mine _ _) (fun _ _ => trivial) (fun _ _ _ reached => reached)

end Parts

/-! ## One claim after the other -/

section Commands
variable (settings : Settings) (ucd : PyText.UnicodeDatabase) (drawn : Uuid → Prop)

def issuedBy (performed : Performed Call Environment Store) : Option SalesImportClaim :=
  match performed with
  | ⟨.claimJob workerId leaseDuration, env, store⟩ =>
      match (answer settings ucd env (.claimJob workerId leaseDuration) store).1 with
      | .ok claim => claim
      | .error _ => none
  | _ => none

/-- The claims that the transactions of the trace have issued, in order. -/
def issuedClaims (trace : Trace) : List SalesImportClaim := trace.filterMap (issuedBy settings ucd)

/-- The last transaction looked for a job and found none: each that is due and has attempts left is
locked by another transaction. -/
def Idle (trace : Trace) : Prop :=
  ∃ earlier workerId leaseDuration env store,
    trace = earlier ++ [⟨.claimJob workerId leaseDuration, env, store⟩] ∧
      ∀ pair ∈ jobs store, hasAttemptsLeft pair.2 = true → Due env.now pair.2 → pair.1.id ∈ env.locked

/-- None of the command's tokens is on a job. -/
def AllFree (store : Store) : Prop := ∀ token, drawn token → Free store token

/-- Of the command's tokens only the claim's may be on a job, and on no other job than its own. -/
structure OnlyHolds (claim : SalesImportClaim) (store : Store) : Prop where
  others : ∀ token, drawn token → token ≠ claim.leaseToken → Free store token
  sole : ∀ pk job, findJob store pk = some job → job.leaseToken = some claim.leaseToken → pk = claim.jobId

variable {settings ucd drawn} {claim : SalesImportClaim}

theorem issuedClaims_append (before after : Trace) :
    issuedClaims settings ucd (before ++ after) = issuedClaims settings ucd before ++ issuedClaims settings ucd after :=
  List.filterMap_append

theorem Idle.append (before : Trace) {trace : Trace} (idle : Idle trace) : Idle (before ++ trace) := by
  obtain ⟨earlier, workerId, leaseDuration, env, store, rfl, none⟩ := idle
  exact ⟨before ++ earlier, workerId, leaseDuration, env, store, (List.append_assoc ..).symm, none⟩

theorem apart_allFree : Undisturbed (answer settings ucd) (Apart drawn) (AllFree drawn) :=
  fun _ _ apart free token mine => free_step (fun same => apart token same mine) (free token mine)

/-- A transaction that does not draw the claim's token leaves the others free and the claim alone. -/
theorem OnlyHolds.step {store : Store} {event : Event}
    (undrawn : ∀ token, drawnToken event = some token → drawn claim.leaseToken → ¬drawn token)
    (mine : drawn claim.leaseToken) (holds : OnlyHolds drawn claim store) :
    OnlyHolds drawn claim (step settings ucd store event) := by
  refine ⟨fun token own apart => free_step (fun same => undrawn token same mine own) (holds.others token own apart), ?_⟩
  have untouched : drawnToken event ≠ some claim.leaseToken := fun same => undrawn _ same mine mine
  refine (step_evolves settings ucd store event (undrawn_within untouched)).jobs ?_ ?_ holds.sole
  · intro pk job isNew held
    rw [(newJob_attempts isNew).2] at held
    cases held
  · exact fun pk intake job next step before held => before (jobStep_token (fun _ => id) step held)

theorem OnlyHolds.free {store : Store} (holds : OnlyHolds drawn claim store) (lost : LeaseLost claim store) :
    AllFree drawn store := by
  intro token mine
  by_cases same : token = claim.leaseToken
  · subst same
    exact fun pk job found held => lost pk job found (holds.sole pk job found held) held
  · exact holds.others token mine same

variable (settings ucd drawn) in
/-- What a request for a job leaves, from a store in which the command holds none. -/
def Claimed (trace : Trace) : Except PyError (Option SalesImportClaim) → Store → Prop
  | .error _, _ => True
  | .ok none, store => AllFree drawn store ∧ issuedClaims settings ucd trace = [] ∧ Idle trace
  | .ok (some claim), store =>
      drawn claim.leaseToken ∧ OnlyHolds drawn claim store ∧ issuedClaims settings ucd trace = [claim]

theorem cleanup_free {store next : Store} {env : Environment} {count : Nat} (free : AllFree drawn store)
    (done : answer settings ucd env .markExhaustedBatch store = (.ok count, next)) : AllFree drawn next := by
  intro token mine
  have undrawn : drawnToken (.markExhaustedBatch, env) ≠ some token := (Option.some_ne_none token).symm
  have after : Free (step settings ucd store (.markExhaustedBatch, env)) token := free_step undrawn (free token mine)
  rwa [step, done] at after

/-- `claim_next_job` finds none only among locked jobs. -/
theorem unclaimed_locked {store next : Store} {workerId : WorkerId} {leaseDuration : Duration} {now : Instant}
    {draw : ClaimDraw} {locked : List Uuid}
    (done : claimJob workerId leaseDuration now draw locked store = .ok (none, next)) :
    ∀ pair ∈ jobs store, hasAttemptsLeft pair.2 = true → Due now pair.2 → pair.1.id ∈ locked := by
  intro pair listed left due
  by_contra free
  have member : pair ∈ dueJobs hasAttemptsLeft now locked store := by
    refine (List.perm_insertionSort _ _).mem_iff.mpr (List.mem_filter.mpr ⟨listed, ?_⟩)
    rw [left, (isDue_iff now pair.2).mpr due, decide_eq_true free]
    rfl
  unfold claimJob at done
  cases first : (dueJobs hasAttemptsLeft now locked store).head? with
  | none =>
    rw [List.head?_eq_none_iff.mp first] at member
    cases member
  | some head =>
    rw [first] at done
    dsimp only at done
    split at done
    · cases done
    · split_ifs at done
      cases done

theorem claimJob_claimed {store : Store} {env : Environment} {workerId : WorkerId} {leaseDuration : Duration}
    (draws : Draws drawn (.claimJob workerId leaseDuration, env)) (free : AllFree drawn store) :
    Claimed settings ucd drawn [⟨.claimJob workerId leaseDuration, env, store⟩]
      (answer settings ucd env (.claimJob workerId leaseDuration) store).1
      (answer settings ucd env (.claimJob workerId leaseDuration) store).2 := by
  cases outcome : answer settings ucd env (.claimJob workerId leaseDuration) store with
  | mk result next =>
    cases result with
    | error e => trivial
    | ok claimed =>
      have done : claimJob workerId leaseDuration env.now env.draw env.locked store = .ok (claimed, next) :=
        answer_ok settings ucd outcome
      cases claimed with
      | none =>
        rcases claimJob_ok done with ⟨_, rfl⟩ | ⟨issued, impossible, _⟩
        · refine ⟨free, ?_, [], workerId, leaseDuration, env, _, rfl, ?_⟩
          · simp [issuedClaims, issuedBy, outcome]
          · exact unclaimed_locked done
        · cases impossible
      | some claim =>
        have issued : Issued settings ucd store (.claimJob workerId leaseDuration, env) claim :=
          ⟨workerId, leaseDuration, rfl, by rw [outcome]⟩
        have token := issued_token issued
        have mine : drawn claim.leaseToken := draws _ token
        have after : step settings ucd store (.claimJob workerId leaseDuration, env) = next := by rw [step, outcome]
        refine ⟨mine, ⟨?_, ?_⟩, by simp [issuedClaims, issuedBy, outcome]⟩
        · intro other own apart
          rw [← after]
          refine free_step (fun same => apart ?_) (free other own)
          exact Option.some.inj (same.symm.trans token)
        · rcases claimJob_ok done with ⟨impossible, _⟩ | ⟨_, same, ⟨ending⟩⟩
          · cases impossible
          obtain rfl := Option.some.inj same
          intro pk job found held
          by_contra apart
          have job_eq : claim.jobId = ending.intake.id := congrArg SalesImportClaim.jobId ending.claim_eq
          rw [ending.saved, findJob_saveJob_other _ _ (job_eq ▸ apart)] at found
          exact free _ mine pk job found held

variable (workerId : String) (leaseDuration : Duration)

theorem claimNextJob_claimed :
    Meets (answer settings ucd) (Draws drawn) (Apart drawn) (AllFree drawn) (claimNextJob workerId leaseDuration)
      (Claimed settings ucd drawn) := by
  unfold claimNextJob
  split
  · exact meets_throw (fun _ _ => trivial)
  · split
    · exact meets_throw (fun _ _ => trivial)
    · refine meets_bind (R := fun trace outcome store => ∀ count, outcome = .ok count →
          AllFree drawn store ∧ issuedClaims settings ucd trace = [])
        (S := fun _ => Claimed settings ucd drawn) (meets_request apart_allFree ?_) (fun count => ?_) ?_ ?_
      · intro store env _ free count done
        exact ⟨cleanup_free free (Prod.ext done rfl), rfl⟩
      · refine Meets.imp (meets_request apart_allFree (fun store env draws free => claimJob_claimed draws free)) ?_
          (fun _ _ _ claimed => claimed)
        rintro store ⟨_, free⟩
        exact (free count rfl).1
      · exact fun _ _ _ _ => trivial
      · rintro before count middle trace outcome store free claimed
        have none := (free count rfl).2
        rcases outcome with e | _ | claim
        · trivial
        · obtain ⟨left, issued, idle⟩ := claimed
          exact ⟨left, by rw [issuedClaims_append, none, issued]; rfl, idle.append before⟩
        · obtain ⟨mine, holds, issued⟩ := claimed
          exact ⟨mine, holds, by rw [issuedClaims_append, none, issued]; rfl⟩

theorem under_noClaim {c : Call} (under : Call.Under claim c) :
    ∀ workerId leaseDuration, c ≠ .claimJob workerId leaseDuration := by
  rintro workerId leaseDuration rfl
  rcases under with lease | ⟨_, same⟩ | ⟨_, same⟩
  · cases lease
  · cases same
  · cases same

/-- While a claim is processed the command's other tokens stay off the jobs, and no claim is issued. -/
theorem processClaim_holds (mine : drawn claim.leaseToken) (download : Download) (wait : LockWait)
    {store final : Store} {trace : Trace} {outcome : Except PyError SalesImportProcessingResult}
    (session : Session (answer settings ucd) (Draws drawn) (Apart drawn)
      (processClaim settings ucd claim download wait).run store trace outcome final)
    (holds : OnlyHolds drawn claim store) :
    OnlyHolds drawn claim final ∧ issuedClaims settings ucd trace = [] := by
  have under := processClaim_under settings ucd claim download wait
  refine ⟨session.preserves under ?_ ?_ holds, List.filterMap_eq_nil_iff.mpr ?_⟩
  · exact fun before event apart holds => holds.step (fun token same _ => apart token same) mine
  · intro before c env here _ holds
    refine @OnlyHolds.step settings ucd drawn claim before (c, env) ?_ mine holds
    intro token same
    cases c with
    | claimJob workerId leaseDuration => exact absurd rfl (under_noClaim here workerId leaseDuration)
    | _ => cases same
  · intro performed member
    have here := session.all under performed member
    obtain ⟨c, env, before⟩ := performed
    cases c with
    | claimJob workerId leaseDuration => exact absurd rfl (under_noClaim here workerId leaseDuration)
    | _ => rfl

variable (settings ucd drawn) in
/-- What the loop adds to its results. -/
structure LoopEnd (left : Nat) (more : List SalesImportProcessingResult) (trace : Trace) (stopped : Option PyError)
    (store : Store) : Prop where
  bound : more.length ≤ left
  claims : more.map SalesImportProcessingResult.jobId <+:
    (issuedClaims settings ucd trace).map SalesImportClaim.jobId
  ended : ∀ result ∈ more, result.status ∈ resultStatuses
  whole : stopped = none → AllFree drawn store ∧ more.length = (issuedClaims settings ucd trace).length ∧
    (more.length = left ∨ Idle trace)

variable {workerId} (files : SalesImportClaim → Download × LockWait)

theorem claimedJobs_worked (left : Nat) (results : List SalesImportProcessingResult) {store final : Store}
    {trace : Trace} {worked : WorkerRun} (free : AllFree drawn store)
    (session : Session (answer settings ucd) (Draws drawn) (Apart drawn)
      (claimedJobs settings ucd workerId files left results) store trace worked final) :
    ∃ more, worked.results = results ++ more ∧
      LoopEnd settings ucd drawn left more trace worked.stopped final := by
  induction left generalizing results store trace with
  | zero =>
    cases session with
    | done => exact ⟨[], (List.append_nil _).symm, le_rfl, List.nil_prefix, by simp, fun _ => ⟨free, rfl, Or.inl rfl⟩⟩
  | succ left ih =>
    obtain ⟨claiming, rest, middle, claimed, rfl, begun, going⟩ := Session.bind session
    have reached := claimNextJob_claimed workerId defaultLeaseDuration store claiming claimed middle begun free
    rcases claimed with e | _ | claim
    · cases going with
      | done =>
        exact ⟨[], (List.append_nil _).symm, Nat.zero_le _, List.nil_prefix, by simp, fun none => by cases none⟩
    · cases going with
      | done =>
        obtain ⟨still, issued, idle⟩ := reached
        rw [List.append_nil]
        refine ⟨[], (List.append_nil _).symm, Nat.zero_le _, List.nil_prefix, by simp, fun _ => ⟨still, ?_, Or.inr idle⟩⟩
        rw [issued]
        rfl
    · obtain ⟨mine, holds, issued⟩ := reached
      obtain ⟨processing, later, after, outcome, rfl, processed, looping⟩ := Session.bind going
      obtain ⟨kept, none⟩ := processClaim_holds mine _ _ processed holds
      have back := processClaim_givesBack mine _ _ middle processing outcome after processed trivial
      cases outcome with
      | error e =>
        cases looping with
        | done =>
          exact ⟨[], (List.append_nil _).symm, Nat.zero_le _, List.nil_prefix, by simp, fun none => by cases none⟩
      | ok result =>
        obtain ⟨lost, job, status⟩ := back result rfl
        obtain ⟨more, whole, worked⟩ := ih (results ++ [result]) (kept.free lost) looping
        have whom : issuedClaims settings ucd (claiming ++ (processing ++ later)) =
            claim :: issuedClaims settings ucd later := by
          rw [issuedClaims_append, issuedClaims_append, issued, none]
          rfl
        refine ⟨result :: more, by rw [whole, List.append_assoc]; rfl, Nat.succ_le_succ worked.bound, ?_, ?_, ?_⟩
        · rw [whom, List.map_cons, List.map_cons, job]
          exact (List.prefix_cons_inj _).mpr worked.claims
        · intro other member
          rcases List.mem_cons.mp member with rfl | inside
          · exact status
          · exact worked.ended other inside
        · intro stopped
          obtain ⟨released, count, ends⟩ := worked.whole stopped
          rw [whom, List.length_cons, List.length_cons, count]
          refine ⟨released, rfl, ends.imp (fun full => by rw [← count, full]) (fun idle => ?_)⟩
          exact (idle.append processing).append claiming

/-- The worker command beside any others. Its results are of its claims, in order, at most `maxJobs` of
them, and each job is settled or waits. If no exception leaves its loop, it has given back every lease it
took, and it has processed `maxJobs` jobs or left none that is due and unlocked. -/
theorem processSalesImports_settles (settings : Settings) (ucd : PyText.UnicodeDatabase) (drawn : Uuid → Prop)
    (workerId generated : String) (storage : Except String Unit) (files : SalesImportClaim → Download × LockWait)
    (maxJobs : Int) (store final : Store) (free : ∀ token, drawn token → Free store token) (trace : Trace)
    (worked : WorkerRun) (session : Session (answer settings ucd) (Draws drawn) (Apart drawn)
      (processSalesImports settings ucd workerId files maxJobs generated storage) store trace worked final) :
    (worked.results.length : Int) ≤ max maxJobs 0 ∧
    worked.results.map SalesImportProcessingResult.jobId <+:
      (issuedClaims settings ucd trace).map SalesImportClaim.jobId ∧
    (∀ result ∈ worked.results, result.status ∈ resultStatuses) ∧
    (worked.stopped = none → (∀ token, drawn token → Free final token) ∧
      worked.results.length = (issuedClaims settings ucd trace).length ∧
      ((worked.results.length : Int) = maxJobs ∨ Idle trace)) := by
  unfold processSalesImports at session
  by_cases few : maxJobs < 1
  · rw [if_pos few] at session
    cases session with
    | done => exact ⟨le_max_right _ _, List.nil_prefix, by simp, fun none => by cases none⟩
  · rw [if_neg few] at session
    cases storage with
    | error message =>
      cases session with
      | done => exact ⟨le_max_right _ _, List.nil_prefix, by simp, fun none => by cases none⟩
    | ok configured =>
      obtain ⟨more, whole, reached⟩ := claimedJobs_worked files maxJobs.toNat [] free session
      rw [List.nil_append] at whole
      have bound := reached.bound
      rw [whole]
      refine ⟨by omega, reached.claims, reached.ended, fun stopped => ?_⟩
      obtain ⟨released, count, ends⟩ := reached.whole stopped
      exact ⟨released, count, ends.imp (fun full => by omega) id⟩

end Commands

namespace Sample

/-- Before each transaction of the worker another enqueues the job once more. -/
def workerMoves : List (List Event × Environment) :=
  (List.range 12).map (fun elapsed =>
    ([(.enqueueImport 3 5, environment (1 + elapsed) 0 0)], environment (1 + elapsed) 7 11))

end Sample

/-- A worker that may take two jobs fails the only one, whose file is missing. -/
theorem processSalesImports_settles_sample :
    ∃ trace worked final, Session (answer Publication.Sample.settings PyText.asciiDatabase)
      (Draws (fun token => token = 7)) (Apart (fun token => token = 7))
      (processSalesImports Publication.Sample.settings PyText.asciiDatabase "worker"
        (fun _ => (Sample.missingObject, Sample.uncontended)) 2 "generated" (.ok ())) Sample.store trace worked final ∧
    worked.failedJobIds = [3] ∧ Free final 7 ∧ Idle trace := by
  have ends : ((processSalesImports Publication.Sample.settings PyText.asciiDatabase "worker"
      (fun _ => (Sample.missingObject, Sample.uncontended)) 2 "generated" (.ok ())).play
        (answer Publication.Sample.settings PyText.asciiDatabase) Sample.store Sample.workerMoves).map
          (fun played => (played.2.1.failedJobIds, played.2.1.results.length, played.2.1.stopped)) =
            some ([3], 1, none) := by decide +kernel
  obtain ⟨⟨trace, worked, final⟩, done, same⟩ := Option.map_eq_some_iff.mp ends
  simp only [Prod.mk.injEq] at same
  obtain ⟨failed, one, clean⟩ := same
  have foreign : ∀ move ∈ Sample.workerMoves, ∀ event ∈ move.1, Apart (fun token => token = 7) event := by
    simp [Sample.workerMoves, Apart, drawnToken]
  have mine : ∀ c : Call, ∀ move ∈ Sample.workerMoves, Draws (fun token => token = 7) (c, move.2) := by
    intro c move member token drawn
    obtain ⟨elapsed, _, rfl⟩ := List.mem_map.mp member
    cases c with
    | claimJob workerId leaseDuration => exact (Option.some.inj drawn).symm
    | _ => cases drawn
  have session := session_of_play foreign mine done
  obtain ⟨_, _, _, whole⟩ := processSalesImports_settles Publication.Sample.settings PyText.asciiDatabase
    (fun token => token = 7) "worker" "generated" (.ok ()) (fun _ => (Sample.missingObject, Sample.uncontended)) 2
    Sample.store final (fun token _ pk job found => by
      rw [unqueued_jobs (by simp [Unqueued, Sample.store]) pk] at found
      cases found) trace worked session
  obtain ⟨released, _, ends⟩ := whole clean
  exact ⟨trace, worked, final, session, failed, released 7 rfl, ends.resolve_left (by rw [one]; decide)⟩

end PharmaIntel.System
