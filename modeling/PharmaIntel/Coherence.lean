import Mathlib
import PharmaIntel.Programs
import PharmaIntel.QueueInvariant

/-! An intake and its job move together: what the job's status says of the stored object
holds in every committed state, whatever entry points are interleaved. -/

namespace PharmaIntel.System
open PharmaIntel.Base PharmaIntel.Models PharmaIntel.Queue PharmaIntel.Intake PharmaIntel.Publication

/-- The statuses a job has only for a stored object that can be read. -/
def needsFile : SalesImportJob.Status → Bool
  | .queued | .processing | .retryWait | .published | .rejected => true
  | _ => false

/-- A stored object that the row parser can read. -/
structure Readable (intake : SalesImport) : Prop where
  received : intake.status = .received
  csv : intake.fileFormat = .csv
  version : intake.storageVersionId ≠ ""

structure IntakeCoherent (intake : SalesImport) (job : SalesImportJob) : Prop where
  receiving_iff : intake.status = .receiving ↔ job.status = .waitingForFile
  failed : intake.status = .failed → job.status = .failed
  awaiting : intake.status = .received → intake.fileFormat = .xlsx → job.status = .awaitingParser
  readable : needsFile job.status = true → Readable intake

/-- Every intake has its one job, and the two agree. -/
def Coherent (store : Store) : Prop :=
  ∀ intake ∈ store.importTable.imports, ∃ job, intake.processingJob = some job ∧ IntakeCoherent intake job

/-! ## Steps -/

theorem received_version {intake : SalesImport} (consistent : intake.MetadataConsistent)
    (received : intake.status = .received) : intake.storageVersionId ≠ "" := by
  rcases consistent with ⟨receiving, _⟩ | ⟨_, _, _, _, version⟩ | ⟨failed, _⟩
  · rw [received] at receiving
    cases receiving
  · exact version
  · rw [received] at failed
    cases failed

/-- A readable file fits every job but one that still waits for it. -/
theorem Readable.coherent {intake : SalesImport} {job : SalesImportJob} (readable : Readable intake)
    (working : job.status ≠ .waitingForFile) : IntakeCoherent intake job where
  receiving_iff := by simp [readable.received, working]
  failed := by simp [readable.received]
  awaiting := by simp [readable.csv]
  readable := fun _ => readable

theorem isDue_needsFile {now : Instant} {job : SalesImportJob} (due : isDue now job = true) :
    needsFile job.status = true := by
  rcases isDue_status due with status | status | status <;> rw [status] <;> rfl

/-- Only a job that waits for its file advances with its intake; every other step starts
from a job that needs the file or from a requeue that has looked at it. -/
theorem jobStep_source {scope : Scope} {intake : SalesImport} {job next : SalesImportJob}
    (step : JobStep scope intake job next) :
    (∃ now, next = advanceWaitingJob job (desiredStatus intake now).1 now) ∨
      (needsFile job.status = true ∨ requeueRefusal intake job = none) ∧ next.status ≠ .waitingForFile := by
  have held : ∀ {leaseToken now attempt}, HoldsLease job leaseToken now attempt →
      needsFile job.status = true := fun lease => by simp [lease.processing, needsFile]
  cases step with
  | waited now => exact Or.inl ⟨now, rfl⟩
  | requeued additionalAttempts queuedAt positive within allowed => exact Or.inr ⟨Or.inr allowed, by simp [requeuedJob]⟩
  | exhausted now released due => exact Or.inr ⟨Or.inl (isDue_needsFile due), by simp [markExhausted]⟩
  | claimed workerId now expiry draw released due =>
    exact Or.inr ⟨Or.inl (isDue_needsFile due), by simp [claimedJob]⟩
  | renewed leaseToken now expiry attempt lease =>
    exact Or.inr ⟨Or.inl (held lease), by simp [saveAttempt, lease.processing]⟩
  | phased leaseToken now attempt phase lease =>
    exact Or.inr ⟨Or.inl (held lease), by simp [saveAttempt, lease.processing]⟩
  | parsed leaseToken now expiry attempt batch lease =>
    exact Or.inr ⟨Or.inl (held lease), by simp [saveAttempt, lease.processing]⟩
  | retried leaseToken now attempt errorCode errorMessage delay lease =>
    refine Or.inr ⟨Or.inl (held lease), ?_⟩
    change (retriedJob job errorCode errorMessage now delay).status ≠ _
    unfold retriedJob
    split_ifs <;> simp
  | finished leaseToken now finishedAt attempt changed status outcome counts errorCode errorMessage lease
      same terminal =>
    refine Or.inr ⟨Or.inl (held lease), ?_⟩
    change status ≠ _
    rintro rfl
    cases terminal

/-- Enqueueing an intake again changes nothing of a coherent job. -/
theorem advanceWaitingJob_coherent {intake : SalesImport} {job : SalesImportJob}
    (coherent : IntakeCoherent intake job) (now : Instant) :
    advanceWaitingJob job (desiredStatus intake now).1 now = job := by
  unfold advanceWaitingJob
  split_ifs with advance fail
  · have receiving := coherent.receiving_iff.mpr advance.1
    simp [desiredStatus, receiving] at advance
  · have receiving := coherent.receiving_iff.mpr fail.1
    simp [desiredStatus, receiving] at fail
  · rfl

theorem jobStep_coherent {scope : Scope} {intake : SalesImport} {job next : SalesImportJob}
    (consistent : intake.MetadataConsistent) (step : JobStep scope intake job next)
    (coherent : IntakeCoherent intake job) : IntakeCoherent intake next := by
  rcases jobStep_source step with ⟨now, rfl⟩ | ⟨source, working⟩
  · rw [advanceWaitingJob_coherent coherent now]
    exact coherent
  · rcases source with needs | allowed
    · exact (coherent.readable needs).coherent working
    · obtain ⟨_, received, csv, _⟩ := requeueRefusal_none allowed
      exact Readable.coherent ⟨received, csv, received_version consistent received⟩ working

/-- An intake is coherent with the job it holds. -/
def Holds (intake : SalesImport) : Prop :=
  ∃ job, intake.processingJob = some job ∧ IntakeCoherent intake job

theorem holds_withJob {intake : SalesImport} {job : SalesImportJob} (coherent : IntakeCoherent intake job) :
    Holds (withJob job intake) :=
  ⟨job, rfl, ⟨coherent.receiving_iff, coherent.failed, coherent.awaiting,
    fun needs => ⟨(coherent.readable needs).received, (coherent.readable needs).csv,
      (coherent.readable needs).version⟩⟩⟩

/-- A received file queues its waiting job, or parks it until its format has a parser. -/
theorem received_coherent {intake : SalesImport} {job : SalesImportJob} (version : VersionId)
    (now createdAt : Instant) (receiving : intake.status = .receiving)
    (held : intake.processingJob = some job) (waiting : job.status = .waitingForFile) :
    IntakeCoherent (receivedImport version now intake)
      (enqueuedJob (receivedImport version now intake) defaultMaxAttempts now createdAt) := by
  have changed : (receivedImport version now intake).status = .received ∧
      (receivedImport version now intake).storageVersionId = version.text := by
    rw [receivedImport, if_pos receiving]
    exact ⟨rfl, rfl⟩
  rw [enqueuedJob, receivedImport_processingJob, held]
  generalize receivedImport version now intake = file at changed
  obtain ⟨received, stored⟩ := changed
  cases format : file.fileFormat with
  | csv =>
    refine Readable.coherent ⟨received, format, stored ▸ version.nonempty⟩ ?_
    simp [advanceWaitingJob, desiredStatus, received, format, waiting]
  | xlsx =>
    have parked : (advanceWaitingJob job (desiredStatus file now).1 now).status = .awaitingParser := by
      simp [advanceWaitingJob, desiredStatus, received, format, waiting]
    exact ⟨by simp [received, parked], by simp [received], fun _ _ => parked, by simp [parked, needsFile]⟩

theorem abandoned_coherent {intake : SalesImport} {job : SalesImportJob}
    {failureCode : SalesImport.FailureCode} (now createdAt : Instant) (receiving : intake.status = .receiving)
    (coded : failureCode ≠ .none) (held : intake.processingJob = some job)
    (waiting : job.status = .waitingForFile) :
    IntakeCoherent (failedImport failureCode now intake)
      (enqueuedJob (failedImport failureCode now intake) defaultMaxAttempts now createdAt) := by
  have changed : (failedImport failureCode now intake).status = .failed := by
    rw [failedImport, if_pos ⟨receiving, coded⟩]
  rw [enqueuedJob, failedImport_processingJob, held]
  generalize failedImport failureCode now intake = file at changed
  have failed : (advanceWaitingJob job (desiredStatus file now).1 now).status = .failed := by
    simp [advanceWaitingJob, desiredStatus, changed, waiting]
  exact ⟨by simp [changed, failed], fun _ => failed, by simp [changed], by simp [failed, needsFile]⟩

theorem intakeStep_holds {scope : Scope} {intake next : SalesImport} (consistent : intake.MetadataConsistent)
    (step : IntakeStep scope intake next) (holds : Holds intake) : Holds next := by
  obtain ⟨job, held, coherent⟩ := holds
  cases step with
  | worked other after known step =>
    obtain rfl : other = job := Option.some.inj (known.symm.trans held)
    exact holds_withJob (jobStep_coherent consistent step coherent)
  | enqueued maxAttempts now createdAt bounds =>
    rw [enqueuedJob, held]
    dsimp only
    rw [advanceWaitingJob_coherent coherent now]
    exact holds_withJob coherent
  | received change version now createdAt receiving proves =>
    have waiting := coherent.receiving_iff.mp receiving
    apply holds_withJob
    rcases proves with same | ⟨kmsKeyArn, same⟩
    · rw [same]
      exact received_coherent version now createdAt receiving held waiting
    · rw [same]
      exact received_coherent version now createdAt ((provenImport_status _ _).trans receiving)
        ((provenImport_processingJob _ _).trans held) waiting
  | abandoned failureCode now createdAt receiving coded =>
    exact holds_withJob (abandoned_coherent now createdAt receiving coded held
      (coherent.receiving_iff.mp receiving))
  | proven kmsKeyArn finished =>
    refine ⟨job, (provenImport_processingJob _ _).trans held, ?_⟩
    unfold provenImport
    split_ifs
    · exact ⟨coherent.receiving_iff, coherent.failed, coherent.awaiting,
        fun needs => ⟨(coherent.readable needs).received, (coherent.readable needs).csv,
          (coherent.readable needs).version⟩⟩
    · exact coherent
  | objectFailed failureCode now other after received permanent known failed step =>
    apply holds_withJob
    rw [objectFailedImport, if_pos ⟨received, permanent⟩]
    exact ⟨by simp [failed], fun _ => failed, by simp, by simp [failed, needsFile]⟩

theorem created_holds {intake : SalesImport} (now createdAt : Instant) (receiving : intake.status = .receiving)
    (jobless : intake.processingJob = none) :
    Holds (withJob (enqueuedJob intake defaultMaxAttempts now createdAt) intake) := by
  apply holds_withJob
  rw [enqueuedJob, jobless, desiredStatus, receiving]
  exact ⟨by simp [receiving], by simp [receiving], by simp [receiving], by simp [needsFile]⟩

theorem coherent_step {scope : Scope} {store next : Store} (evolves : Evolves scope store next)
    (coherent : Coherent store) : Coherent next := by
  intro intake member
  have moves := evolves intake.id
  have after : findImport next intake.id = some intake := ImportTable.find_of_mem member
  rw [after] at moves
  cases before : findImport store intake.id with
  | none =>
    rw [before] at moves
    cases moves with
    | created origin now createdAt receiving jobless => exact created_holds now createdAt receiving jobless
  | some origin =>
    rw [before] at moves
    have inside := (ImportTable.find_some before).1
    cases moves with
    | still => exact coherent intake inside
    | moved _ _ step => exact intakeStep_holds (store.importTable.consistent origin inside) step (coherent origin inside)

theorem run_coherent (settings : Settings) (ucd : PyText.UnicodeDatabase) (start : Store)
    (coherent : Coherent start) (events : List Event) : Coherent (run (step settings ucd) start events) :=
  run_invariant (step settings ucd) (fun _ => True) Coherent
    (fun store event _ => coherent_step (step_evolves settings ucd store event (within_all event)))
    start coherent events (fun _ _ => trivial)

/-! ## Interleaved entry points -/

/-- The entry points of intake and processing, with everything storage does for them. -/
inductive EntryPoint where
  | receive (draft : IntakeDraft) (stored : Option String)
  | reconcile (graceMinutes : Int) (now : Instant) (verify : SalesImport → StorageCheck)
  | backfill (pk : Uuid) (discover : SalesImport → Except String DiscoveredKmsProvenance)
  | claimNext (workerId : String) (leaseDuration : Duration)
  | process (claim : SalesImportClaim) (download : Download) (wait : LockWait)
  | requeue (jobId : Uuid) (additionalAttempts : Nat)

section Runs
variable (settings : Settings) (ucd : PyText.UnicodeDatabase)

/-- An entry point as a process that ends with its answer or its exception. -/
def EntryPoint.program : EntryPoint → Program (fun c : Call => Except PyError c.Reply) Unit
  | receive draft stored =>
      (fun _ => ()) <$> (receiveSalesImport id ucd draft.sourceSystem draft.sha256 (pure (draft, pure stored))).run
  | reconcile graceMinutes now verify =>
      (fun _ => ()) <$> (reconcileSalesImports id (fun intake => pure (verify intake)) graceMinutes now).run
  | backfill pk discover =>
      (fun _ => ()) <$> (backfillSalesImportKms id (fun intake => pure (discover intake)) pk).run
  | claimNext workerId leaseDuration => (fun _ => ()) <$> (claimNextJob workerId leaseDuration).run
  | process claim download wait => (fun _ => ()) <$> (processClaim settings ucd claim download wait).run
  | requeue jobId additionalAttempts => (fun _ => ()) <$> (transact (.requeueJob jobId additionalAttempts)).run

/-- The database after a schedule of the transactions of some entry points. -/
def interleaved (start : Store) (entries : List EntryPoint) (schedule : List (Nat × Environment)) : Store :=
  (run (Pool.step (answer settings ucd)) ⟨start, entries.map (EntryPoint.program settings ucd)⟩ schedule).state

theorem interleaved_coherent (start : Store) (coherent : Coherent start) (entries : List EntryPoint)
    (schedule : List (Nat × Environment)) : Coherent (interleaved settings ucd start entries schedule) := by
  refine Pool.invariant (answer settings ucd) (P := fun _ => True) Coherent ?_ _
    (fun program _ => Program.all_true program) coherent schedule
  intro store event _ holds
  exact coherent_step (step_evolves settings ucd store event (within_all event)) holds

/-- In every committed state intakes and jobs agree, no claim hands out a job without a
readable file, and an active file is imported once. -/
theorem intakes_coherent (start : Store) (coherent : Coherent start) (entries : List EntryPoint)
    (schedule : List (Nat × Environment)) :
    Coherent (interleaved settings ucd start entries schedule) ∧
      (∀ env workerId leaseDuration issued next,
        execute settings ucd env (.claimJob workerId leaseDuration)
            (interleaved settings ucd start entries schedule) = .ok (some issued, next) →
          ∃ intake, findImport (interleaved settings ucd start entries schedule) issued.jobId = some intake ∧
            issued.salesImportId = intake.id ∧ Readable intake) ∧
      ∀ first ∈ (interleaved settings ucd start entries schedule).importTable.imports,
        ∀ second ∈ (interleaved settings ucd start entries schedule).importTable.imports,
          first.isActive = true → second.isActive = true → first.fileKey = second.fileKey → first = second := by
  have holds := interleaved_coherent settings ucd start coherent entries schedule
  refine ⟨holds, ?_, ?_⟩
  · intro env workerId leaseDuration issued next done
    rcases claimJob_ok done with ⟨impossible, _⟩ | ⟨other, same, ⟨ending⟩⟩
    · cases impossible
    · obtain rfl : issued = other := Option.some.inj same
      obtain ⟨member, _⟩ := ImportTable.find_some ending.due.found
      obtain ⟨job, held, agrees⟩ := holds ending.intake member
      obtain rfl : job = ending.job := Option.some.inj (held.symm.trans ending.due.held)
      have job_eq : issued.jobId = ending.intake.id := congrArg SalesImportClaim.jobId ending.claim_eq
      refine ⟨ending.intake, ?_, issued.one_to_one.trans job_eq,
        agrees.readable (isDue_needsFile ending.due.due)⟩
      rw [job_eq]
      exact ending.due.found
  · intro first firstMember second secondMember firstActive secondActive same
    exact List.inj_on_of_nodup_map (ImportTable.active_nodup _)
      (List.mem_filter.mpr ⟨firstMember, firstActive⟩) (List.mem_filter.mpr ⟨secondMember, secondActive⟩) same

end Runs

/-- A job in processing whose object is gone, while an operator asks for another attempt. -/
theorem intakes_coherent_sample :
    Coherent (interleaved Publication.Sample.settings PyText.asciiDatabase
      (Publication.Sample.store FactTable.empty [])
      [.process Publication.Sample.claim ⟨0, .error (.notFoundError "The version is gone.")⟩ ⟨0, true⟩,
        .requeue 3 1]
      [(0, Sample.environment 1 0 0), (0, Sample.environment 2 0 0), (0, Sample.environment 3 0 0),
        (0, Sample.environment 4 0 0), (1, Sample.environment 5 0 0)]) := by
  refine (intakes_coherent Publication.Sample.settings PyText.asciiDatabase
    (Publication.Sample.store FactTable.empty []) ?_ _ _).1
  intro intake member
  rw [List.mem_singleton.mp member]
  exact ⟨_, rfl, Readable.coherent ⟨rfl, rfl, by decide⟩ (by decide)⟩

end PharmaIntel.System
