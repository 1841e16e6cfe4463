import Mathlib
import PharmaIntel.Base.Run
import PharmaIntel.Transitions

/-! `enqueue_import` among the transitions of its intake, before a worker claims the job.
After a call every further call changes nothing. What the job ends as depends on the
intake's final status and file format, and also on whether the call that created the job
found the intake failed: only a waiting job is given the error of a failed storage. -/

namespace PharmaIntel.Enqueueing
open PharmaIntel.Base PharmaIntel.Models PharmaIntel.Queue PharmaIntel.Intake
open PharmaIntel.System (findImport_updateImport_same)

/-! ## Events -/

inductive Event where
  | call (maxAttempts : Nat) (now createdAt : Instant)
  | received (versionId : String) (now : Instant)
  | failed (failureCode : SalesImport.FailureCode) (now : Instant)

/-- The store after an event; one that raises leaves it as it is. -/
def after (pk : Uuid) (store : Store) : Event → Store
  | .call maxAttempts now createdAt =>
      ((enqueueImport pk maxAttempts now createdAt store).map Prod.snd).toOption.getD store
  | .received versionId now => (markReceived pk versionId now store).toOption.getD store
  | .failed failureCode now => (markFailed pk failureCode now store).toOption.getD store

/-- A call that is not refused for its `max_attempts`. -/
def Event.isCall : Event → Bool
  | .call maxAttempts _ _ => 1 ≤ maxAttempts && maxAttempts ≤ 32767
  | _ => false

/-- The same event on the intake itself. -/
def Event.applied (intake : SalesImport) : Event → SalesImport
  | .call maxAttempts now createdAt =>
      if 1 ≤ maxAttempts ∧ maxAttempts ≤ 32767 then
        withJob (enqueuedJob intake maxAttempts now createdAt) intake
      else intake
  | .received versionId now =>
      if blank : PyText.strip versionId = "" then intake
      else receivedImport ⟨PyText.strip versionId, blank⟩ now intake
  | .failed failureCode now => failedImport failureCode now intake

theorem findImport_after (pk : Uuid) {store : Store} {intake : SalesImport}
    (found : findImport store pk = some intake) (event : Event) :
    findImport (after pk store event) pk = some (event.applied intake) := by
  cases event with
  | call maxAttempts now createdAt =>
    rw [after, enqueueImport, Event.applied]
    by_cases bounds : 1 ≤ maxAttempts ∧ maxAttempts ≤ 32767
    · rw [if_neg (not_not.mpr bounds), if_pos bounds, found]
      dsimp only [Except.map, Except.toOption, Option.getD]
      rw [findImport_saveJob_same, found]
      rfl
    · rw [if_pos bounds, if_neg bounds]
      exact found
  | received versionId now =>
    rw [after, markReceived, Event.applied]
    by_cases blank : PyText.strip versionId = ""
    · rw [dif_pos blank, dif_pos blank]
      exact found
    · rw [dif_neg blank, dif_neg blank, found, Option.any_some]
      by_cases receiving : intake.status = .receiving
      · rw [if_pos (by simpa using receiving)]
        dsimp only [Except.toOption, Option.getD]
        rw [findImport_updateImport_same, found]
        rfl
      · rw [if_neg (by simpa using receiving), receivedImport, if_neg receiving]
        exact found
  | failed failureCode now =>
    rw [after, markFailed, Event.applied]
    by_cases blank : failureCode = .none
    · rw [if_pos blank, failedImport, if_neg (fun both => both.2 blank)]
      exact found
    · rw [if_neg blank, found, Option.any_some]
      by_cases receiving : intake.status = .receiving
      · rw [if_pos (by simpa using receiving)]
        dsimp only [Except.toOption, Option.getD]
        rw [findImport_updateImport_same, found]
        rfl
      · rw [if_neg (by simpa using receiving), failedImport, if_neg (fun both => receiving both.1)]
        exact found

theorem findImport_run (pk : Uuid) {store : Store} {intake : SalesImport}
    (found : findImport store pk = some intake) (events : List Event) :
    findImport (run (after pk) store events) pk = some (run Event.applied intake events) := by
  induction events generalizing store intake with
  | nil => exact found
  | cons event rest ih => exact ih (findImport_after pk found event)

/-- Only a transition out of `receiving` changes the status, and only once. -/
theorem applied_status (intake : SalesImport) (event : Event) (finished : intake.status ≠ .receiving) :
    (event.applied intake).status = intake.status := by
  cases event with
  | call maxAttempts now createdAt =>
    rw [Event.applied]
    split_ifs <;> rfl
  | received versionId now =>
    rw [Event.applied]
    split_ifs with blank
    · rfl
    · rw [receivedImport, if_neg finished]
  | failed failureCode now => rw [Event.applied, failedImport, if_neg (fun both => finished both.1)]

/-- A transition leaves the job alone. -/
theorem applied_processingJob (intake : SalesImport) {event : Event} (silent : event.isCall = false) :
    (event.applied intake).processingJob = intake.processingJob := by
  cases event with
  | call maxAttempts now createdAt =>
    have refused : ¬(1 ≤ maxAttempts ∧ maxAttempts ≤ 32767) := by simpa [Event.isCall] using silent
    rw [Event.applied, if_neg refused]
  | received versionId now =>
    rw [Event.applied]
    split_ifs with blank
    · rfl
    · rw [receivedImport]
      split_ifs <;> rfl
  | failed failureCode now =>
    rw [Event.applied, failedImport]
    split_ifs <;> rfl

@[simp] theorem applied_fileFormat (intake : SalesImport) (event : Event) :
    (event.applied intake).fileFormat = intake.fileFormat := by
  cases event with
  | call maxAttempts now createdAt =>
    rw [Event.applied]
    split_ifs <;> rfl
  | received versionId now =>
    rw [Event.applied]
    split_ifs with blank
    · rfl
    · rw [receivedImport]
      split_ifs <;> rfl
  | failed failureCode now =>
    rw [Event.applied, failedImport]
    split_ifs <;> rfl

/-! ## The fields of the job -/

/-- What is compared of two jobs. -/
structure JobOutcome where
  status : SalesImportJob.Status
  finished : Bool
  lastErrorCode : String
  lastErrorMessage : String
  deriving DecidableEq, Repr

def jobOutcome (job : SalesImportJob) : JobOutcome :=
  ⟨job.status, job.finishedAt.isSome, job.lastErrorCode, job.lastErrorMessage⟩

/-- The outcome by status and format; `late` when the creating call found the intake failed. -/
def settledOutcome (late : Bool) (status : SalesImport.Status) (fileFormat : SalesImport.FileFormat) :
    JobOutcome :=
  match status with
  | .receiving => ⟨.waitingForFile, false, "", ""⟩
  | .received => ⟨if fileFormat = .csv then .queued else .awaitingParser, false, "", ""⟩
  | .failed =>
      if late then ⟨.failed, true, "", ""⟩
      else ⟨.failed, true, "INTAKE_STORAGE_FAILED", "The original file was not stored successfully."⟩

/-- The job has caught up with its intake. -/
def Settled (late : Bool) (intake : SalesImport) : Prop :=
  (late = true → intake.status = .failed) ∧ ∃ job, intake.processingJob = some job ∧
    jobOutcome job = settledOutcome late intake.status intake.fileFormat

/-- The job has caught up, or waits for a file whose fate it has not been told. -/
def Tracked (late : Bool) (intake : SalesImport) : Prop :=
  Settled late intake ∨ late = false ∧ ∃ job, intake.processingJob = some job ∧
    jobOutcome job = ⟨.waitingForFile, false, "", ""⟩

/-- The call that creates the job settles it. -/
theorem call_creates {intake : SalesImport} (jobless : intake.processingJob = none) {event : Event}
    (call : event.isCall = true) :
    Settled (decide (intake.status = .failed)) (event.applied intake) := by
  cases event with
  | call maxAttempts now createdAt =>
    have bounds : 1 ≤ maxAttempts ∧ maxAttempts ≤ 32767 := by simpa [Event.isCall] using call
    rw [Event.applied, if_pos bounds, enqueuedJob, jobless]
    refine ⟨fun failed => of_decide_eq_true failed, _, rfl, ?_⟩
    cases status : intake.status <;> simp [withJob, jobOutcome, desiredStatus, settledOutcome, status]
  | received => cases call
  | failed => cases call

/-- A later call changes nothing once the job has caught up. -/
theorem call_keeps {late : Bool} {intake : SalesImport} (settled : Settled late intake) {event : Event}
    (call : event.isCall = true) : event.applied intake = intake := by
  obtain ⟨-, job, held, same⟩ := settled
  cases event with
  | call maxAttempts now createdAt =>
    have bounds : 1 ≤ maxAttempts ∧ maxAttempts ≤ 32767 := by simpa [Event.isCall] using call
    have unchanged : advanceWaitingJob job (desiredStatus intake now).1 now = job := by
      have status := congrArg JobOutcome.status same
      rw [jobOutcome] at status
      unfold advanceWaitingJob desiredStatus
      cases intakeStatus : intake.status with
      | receiving => simp
      | received =>
        rw [intakeStatus, settledOutcome] at status
        split_ifs at status ⊢ <;> simp_all
      | failed =>
        rw [intakeStatus, settledOutcome] at status
        split_ifs at status <;> simp_all
    rw [Event.applied, if_pos bounds, enqueuedJob, held]
    dsimp only
    rw [unchanged, withJob, ← held]
  | received => cases call
  | failed => cases call

/-- A call settles a job that was waiting. -/
theorem call_settles {late : Bool} {intake : SalesImport} (tracked : Tracked late intake) {event : Event}
    (call : event.isCall = true) : Settled late (event.applied intake) := by
  rcases tracked with settled | ⟨rfl, job, held, same⟩
  · rwa [call_keeps settled call]
  cases event with
  | call maxAttempts now createdAt =>
    have bounds : 1 ≤ maxAttempts ∧ maxAttempts ≤ 32767 := by simpa [Event.isCall] using call
    simp only [jobOutcome, JobOutcome.mk.injEq] at same
    obtain ⟨waiting, unfinished, code, message⟩ := same
    rw [Event.applied, if_pos bounds, enqueuedJob, held]
    refine ⟨by simp, _, rfl, ?_⟩
    cases status : intake.status with
    | receiving =>
      simp [withJob, advanceWaitingJob, desiredStatus, settledOutcome, jobOutcome, status, waiting,
        unfinished, code, message]
    | received =>
      by_cases csv : intake.fileFormat = .csv
      · simp [withJob, advanceWaitingJob, desiredStatus, settledOutcome, jobOutcome, status, waiting,
          unfinished, code, message, csv]
      · simp [withJob, advanceWaitingJob, desiredStatus, settledOutcome, jobOutcome, status, waiting,
          unfinished, code, message, csv]
    | failed =>
      simp [withJob, advanceWaitingJob, desiredStatus, settledOutcome, jobOutcome, status, waiting]
  | received => cases call
  | failed => cases call

/-- Every event keeps track of the job. -/
theorem applied_tracked {late : Bool} {intake : SalesImport} (tracked : Tracked late intake)
    (event : Event) : Tracked late (event.applied intake) := by
  by_cases call : event.isCall = true
  · exact .inl (call_settles tracked call)
  have sameJob := applied_processingJob intake (Bool.eq_false_of_not_eq_true call)
  rcases tracked with ⟨failed, job, held, same⟩ | ⟨early, job, held, waiting⟩
  · by_cases receiving : intake.status = .receiving
    · have early : late = false := by
        by_contra lateCall
        rw [failed (Bool.eq_true_of_not_eq_false lateCall)] at receiving
        cases receiving
      rw [receiving] at same
      exact .inr ⟨early, job, sameJob.trans held, same⟩
    · have sameStatus := applied_status intake event receiving
      refine .inl ⟨fun lateCall => sameStatus.trans (failed lateCall), job, sameJob.trans held, ?_⟩
      rw [sameStatus, applied_fileFormat]
      exact same
  · exact .inr ⟨early, job, sameJob.trans held, waiting⟩

theorem run_tracked {late : Bool} {intake : SalesImport} (tracked : Tracked late intake)
    (events : List Event) : Tracked late (run Event.applied intake events) :=
  run_invariant Event.applied (fun _ => True) (Tracked late)
    (fun _ event _ held => applied_tracked held event) intake tracked events (by simp)

/-! ## Runs -/

/-- The first call, the one that creates the job, finds the intake failed. -/
def foundFailed (intake : SalesImport) : List Event → Bool
  | [] => false
  | event :: rest =>
      if event.isCall then decide (intake.status = .failed) else foundFailed (event.applied intake) rest

/-- Until the first call there is no job; from then on the job is kept track of. -/
theorem run_jobless {intake : SalesImport} (jobless : intake.processingJob = none) (events : List Event) :
    ((run Event.applied intake events).processingJob = none ∧
      ∀ rest, foundFailed intake (events ++ rest) = foundFailed (run Event.applied intake events) rest) ∨
    (Tracked (foundFailed intake events) (run Event.applied intake events) ∧
      ∀ rest, foundFailed intake (events ++ rest) = foundFailed intake events) := by
  induction events generalizing intake with
  | nil => exact .inl ⟨jobless, fun _ => rfl⟩
  | cons event rest ih =>
    by_cases call : event.isCall = true
    · refine .inr ⟨?_, ?_⟩
      · rw [foundFailed, if_pos call, run_cons]
        exact run_tracked (.inl (call_creates jobless call)) rest
      · intro more
        rw [List.cons_append, foundFailed, if_pos call, foundFailed, if_pos call]
    · have silent := (applied_processingJob intake (Bool.eq_false_of_not_eq_true call)).trans jobless
      simp only [List.cons_append, foundFailed, if_neg call, run_cons]
      exact ih silent

/-- Once the job has caught up, only a transition out of `receiving` changes the intake. -/
theorem settled_applied {late : Bool} {intake : SalesImport} (settled : Settled late intake)
    (event : Event) : event.applied intake = intake ∨
      intake.status = .receiving ∧ (event.applied intake).status ≠ .receiving := by
  cases event with
  | call maxAttempts now createdAt =>
    by_cases accepted : Event.isCall (.call maxAttempts now createdAt) = true
    · exact .inl (call_keeps settled accepted)
    · have refused : ¬(1 ≤ maxAttempts ∧ maxAttempts ≤ 32767) := by simpa [Event.isCall] using accepted
      exact .inl (if_neg refused)
  | received versionId now =>
    rw [Event.applied]
    split_ifs with blank
    · exact .inl rfl
    · rw [receivedImport]
      split_ifs with receiving
      · exact .inr ⟨receiving, by simp⟩
      · exact .inl rfl
  | failed failureCode now =>
    rw [Event.applied, failedImport]
    split_ifs with receiving
    · exact .inr ⟨receiving.1, by simp⟩
    · exact .inl rfl

theorem run_status {intake : SalesImport} (finished : intake.status ≠ .receiving) (events : List Event) :
    (run Event.applied intake events).status ≠ .receiving :=
  run_invariant Event.applied (fun _ => True) (fun state => state.status ≠ .receiving)
    (fun state event _ held => by rwa [applied_status state event held]) intake finished events (by simp)

/-- Without a further transition a job that has caught up stays as it is. -/
theorem run_still {late : Bool} {intake : SalesImport} (settled : Settled late intake)
    {events : List Event} (still : intake.status = (run Event.applied intake events).status) :
    run Event.applied intake events = intake := by
  induction events with
  | nil => rfl
  | cons event rest ih =>
    rw [run_cons] at still ⊢
    rcases settled_applied settled event with same | ⟨receiving, left⟩
    · rw [same] at still ⊢
      exact ih still
    · exact absurd (still.symm.trans receiving) (run_status left rest)

/-- Some call comes after the last transition: it sees the intake's final status. -/
def CalledLast (intake : SalesImport) (events : List Event) : Prop :=
  ∃ front call back, events = front ++ call :: back ∧ call.isCall = true ∧
    (run Event.applied intake front).status = (run Event.applied intake events).status

/-- Where the last transition is followed by a call, the job ends caught up. -/
theorem run_settled {intake : SalesImport} (jobless : intake.processingJob = none)
    {events : List Event} (called : CalledLast intake events) :
    Settled (foundFailed intake events) (run Event.applied intake events) := by
  obtain ⟨front, call, back, rfl, accepted, final⟩ := called
  have sameStatus : (call.applied (run Event.applied intake front)).status =
      (run Event.applied intake front).status := by
    cases call with
    | call maxAttempts now createdAt =>
      rw [Event.applied]
      split_ifs <;> rfl
    | received => cases accepted
    | failed => cases accepted
  rw [run_append, run_cons] at final ⊢
  rw [← sameStatus] at final
  rcases run_jobless jobless front with ⟨none, later⟩ | ⟨tracked, later⟩
  · have settled := call_creates none accepted
    rw [later, foundFailed, if_pos accepted, run_still settled final]
    exact settled
  · have settled := call_settles tracked accepted
    rw [later, run_still settled final]
    exact settled

/-! ## Stores -/

/-- A run from an intake without a job, with a call after the last transition. -/
structure Enqueued (pk : Uuid) (store : Store) (events : List Event) (start final : SalesImport) :
    Prop where
  found : findImport store pk = some start
  jobless : start.processingJob = none
  called : CalledLast start events
  ends : findImport (run (after pk) store events) pk = some final

theorem Enqueued.settled {pk : Uuid} {store : Store} {events : List Event} {start final : SalesImport}
    (enqueued : Enqueued pk store events start final) : Settled (foundFailed start events) final := by
  have same := (findImport_run pk enqueued.found events).symm.trans enqueued.ends
  rw [← Option.some.inj same]
  exact run_settled enqueued.jobless enqueued.called

/-- Saving the job an intake already has changes nothing. -/
theorem saveJob_self {store : Store} {pk : Uuid} {intake : SalesImport} {job : SalesImportJob}
    (found : findImport store pk = some intake) (held : intake.processingJob = some job) :
    saveJob store pk job = store := by
  have unchanged : withJob job intake = intake := by
    rw [withJob, ← held]
  have same : updateBy SalesImport.id pk (withJob job) store.importTable.imports =
      store.importTable.imports := by
    rw [updateBy]
    conv_rhs => rw [← List.map_id store.importTable.imports]
    apply List.map_congr_left
    intro other member
    split_ifs with here
    · have located := ImportTable.find_of_mem member
      rw [here] at located
      obtain rfl : intake = other := Option.some.inj (found.symm.trans located)
      exact unchanged
    · rfl
  unfold saveJob updateImport ImportTable.update
  simp only [same]

/-- Further calls change nothing. -/
theorem Enqueued.idempotent {pk : Uuid} {store : Store} {events : List Event} {start final : SalesImport}
    (enqueued : Enqueued pk store events start final) {maxAttempts : Nat}
    (bounds : 1 ≤ maxAttempts ∧ maxAttempts ≤ 32767) (now createdAt : Instant) :
    ∃ job, final.processingJob = some job ∧
      enqueueImport pk maxAttempts now createdAt (run (after pk) store events) =
        .ok (job, run (after pk) store events) := by
  have settled := enqueued.settled
  obtain ⟨job, held, -⟩ := settled.2
  have call : Event.isCall (.call maxAttempts now createdAt) = true := by simpa [Event.isCall] using bounds
  have kept := call_keeps settled call
  rw [Event.applied, if_pos bounds] at kept
  have same : enqueuedJob final maxAttempts now createdAt = job := by
    have jobs := congrArg SalesImport.processingJob kept
    rw [held] at jobs
    exact Option.some.inj jobs
  refine ⟨job, held, ?_⟩
  rw [enqueueImport, if_neg (not_not.mpr bounds), enqueued.ends]
  dsimp only
  rw [same, saveJob_self enqueued.ends held]

theorem settledOutcome_eq_iff {first second : Bool} {status : SalesImport.Status}
    {fileFormat : SalesImport.FileFormat} (firstFailed : first = true → status = .failed)
    (secondFailed : second = true → status = .failed) :
    settledOutcome first status fileFormat = settledOutcome second status fileFormat ↔ first = second := by
  by_cases failed : status = .failed
  · subst failed
    cases first <;> cases second <;> simp [settledOutcome]
  · have neither : first = false ∧ second = false :=
      ⟨Bool.eq_false_of_not_eq_true fun late => failed (firstFailed late),
        Bool.eq_false_of_not_eq_true fun late => failed (secondFailed late)⟩
    simp [neither.1, neither.2]

/-- After a call that follows the last transition there is a job, and further calls change
nothing; two runs that end in the same status and format agree on the job's outcome just
when both or neither of them created the job of an intake that had already failed. -/
theorem enqueue_confluent_iff {pk other : Uuid} {store otherStore : Store}
    {events otherEvents : List Event} {start final otherStart otherFinal : SalesImport}
    (first : Enqueued pk store events start final)
    (second : Enqueued other otherStore otherEvents otherStart otherFinal)
    (sameStatus : final.status = otherFinal.status)
    (sameFormat : final.fileFormat = otherFinal.fileFormat) :
    ∃ job otherJob, final.processingJob = some job ∧ otherFinal.processingJob = some otherJob ∧
      (∀ maxAttempts now createdAt, 1 ≤ maxAttempts ∧ maxAttempts ≤ 32767 →
        enqueueImport pk maxAttempts now createdAt (run (after pk) store events) =
          .ok (job, run (after pk) store events)) ∧
      (jobOutcome job = jobOutcome otherJob ↔
        foundFailed start events = foundFailed otherStart otherEvents) := by
  obtain ⟨firstFailed, job, held, outcome⟩ := first.settled
  obtain ⟨secondFailed, otherJob, otherHeld, otherOutcome⟩ := second.settled
  rw [← sameStatus] at secondFailed otherOutcome
  rw [← sameFormat] at otherOutcome
  refine ⟨job, otherJob, held, otherHeld, ?_, ?_⟩
  · intro maxAttempts now createdAt bounds
    obtain ⟨kept, keptHeld, unchanged⟩ := first.idempotent bounds now createdAt
    rw [Option.some.inj (keptHeld.symm.trans held)] at unchanged
    exact unchanged
  · rw [outcome, otherOutcome]
    exact settledOutcome_eq_iff firstFailed secondFailed

/-! ## Both orders of one file -/

namespace Sample

def intake : SalesImport :=
  { Publication.Sample.intake [] with
    storageVersionId := "", status := .receiving, receivedAt := none, processingJob := none }

def store : Store :=
  { System.Sample.store with
    importTable := ⟨[intake], List.nodup_singleton _, List.nodup_singleton _,
      List.forall_mem_singleton.mpr (Or.inl ⟨rfl, rfl, rfl, rfl, rfl⟩)⟩ }

/-- The job is created while the file is still being received. -/
def calledBefore (transition : Event) : List Event := [.call 5 0 0, transition, .call 5 2 2]

/-- Nothing is enqueued before the transition. -/
def calledAfter (transition : Event) : List Event := [transition, .call 5 2 2]

theorem enqueued_before (transition : Event) :
    Enqueued 3 store (calledBefore transition) intake
      (run Event.applied intake (calledBefore transition)) where
  found := rfl
  jobless := rfl
  called := ⟨[.call 5 0 0, transition], .call 5 2 2, [], rfl, rfl, rfl⟩
  ends := findImport_run 3 rfl _

theorem enqueued_after (transition : Event) :
    Enqueued 3 store (calledAfter transition) intake
      (run Event.applied intake (calledAfter transition)) where
  found := rfl
  jobless := rfl
  called := ⟨[transition], .call 5 2 2, [], rfl, rfl, rfl⟩
  ends := findImport_run 3 rfl _

end Sample

/-- Received, the file is queued in either order. -/
theorem enqueue_confluent_iff_sample :
    ∃ job otherJob : SalesImportJob,
      (run Event.applied Sample.intake (Sample.calledBefore (.received "v1" 1))).processingJob = some job ∧
      (run Event.applied Sample.intake (Sample.calledAfter (.received "v1" 1))).processingJob =
        some otherJob ∧ jobOutcome job = jobOutcome otherJob := by
  obtain ⟨job, otherJob, held, otherHeld, -, agree⟩ :=
    enqueue_confluent_iff (Sample.enqueued_before (.received "v1" 1))
      (Sample.enqueued_after (.received "v1" 1)) (by decide) (by decide)
  exact ⟨job, otherJob, held, otherHeld, agree.mpr (by decide)⟩

/-- Failed, its job carries the storage error only where it was created before. -/
theorem enqueue_order_visible :
    ∃ final otherFinal job otherJob,
      Enqueued 3 Sample.store (Sample.calledBefore (.failed .storageError 1)) Sample.intake final ∧
      Enqueued 3 Sample.store (Sample.calledAfter (.failed .storageError 1)) Sample.intake otherFinal ∧
      final.status = otherFinal.status ∧ final.fileFormat = otherFinal.fileFormat ∧
      final.processingJob = some job ∧ otherFinal.processingJob = some otherJob ∧
      job.lastErrorCode = "INTAKE_STORAGE_FAILED" ∧ otherJob.lastErrorCode = "" :=
  ⟨_, _, _, _, Sample.enqueued_before _, Sample.enqueued_after _, rfl, rfl, rfl, rfl, rfl, rfl⟩

end PharmaIntel.Enqueueing
