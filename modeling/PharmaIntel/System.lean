import Mathlib
import PharmaIntel.Base.Program
import PharmaIntel.Intake
import PharmaIntel.Publication

/-! The database as its clients see it: every call is one transaction, answered from the
committed store under what its environment supplies. -/

namespace PharmaIntel.System
open PharmaIntel.Base PharmaIntel.Models PharmaIntel.Queue PharmaIntel.Intake PharmaIntel.Publication

/-- What a transaction takes from outside: the clocks, random values, the rows other
transactions hold, its snapshot, and a failure of the database itself. -/
structure Environment where
  now : Instant
  createdAt : Instant
  finishedAt : Instant
  draw : ClaimDraw
  locked : List Uuid
  snapshot : Snapshot
  fault : Option PyError

def Environment.times (env : Environment) : PublicationTimes := ⟨env.now, env.createdAt, env.finishedAt⟩

inductive Call where
  | findActiveImport (sourceSystem sha256 : String)
  | findUnfinishedImports (createdBefore : Instant)
  | readImport (pk : Uuid)
  | createImport (draft : IntakeDraft)
  | enqueueImport (pk : Uuid) (maxAttempts : Nat)
  | completeReceiving (pk : Uuid) (versionId : String)
  | abandonReceiving (pk : Uuid) (failureCode : SalesImport.FailureCode)
  | recordProvenance (pk : Uuid) (kmsKeyArn versionId : String)
  | markExhaustedBatch
  | claimJob (workerId : WorkerId) (leaseDuration : Duration)
  | readCounts (jobId : Uuid)
  | heartbeatJob (jobId leaseToken : Uuid) (leaseDuration : Duration)
  | advanceAttemptPhase (jobId leaseToken : Uuid) (phase : SalesImportAttempt.Phase)
  | recordParseBatch (claim : SalesImportClaim) (batch : Staging.ParseBatch)
  | publishOnce (claim : SalesImportClaim)
  | scheduleRetry (jobId leaseToken : Uuid) (errorCode errorMessage : String)
      (baseDelay maximumDelay : Duration)
  | completeJob (jobId leaseToken : Uuid) (status : SalesImportJob.Status)
      (counts : Option SalesImportJobCounts) (errorCode errorMessage : String)
  | completeStoredObjectFailure (claim : SalesImportClaim) (failureCode : SalesImport.FailureCode)
      (errorCode errorMessage : String)
  | requeueJob (jobId : Uuid) (additionalAttempts : Nat)

@[reducible] def Call.Reply : Call → Type
  | .findActiveImport _ _ => Option SalesImport
  | .findUnfinishedImports _ => List SalesImport
  | .readImport _ => SalesImport
  | .createImport _ | .enqueueImport _ _ | .completeReceiving _ _ | .abandonReceiving _ _ => SalesImportJob
  | .recordProvenance _ _ _ => Unit
  | .markExhaustedBatch => Nat
  | .claimJob _ _ => Option SalesImportClaim
  | .readCounts _ => SalesImportJobCounts
  | .heartbeatJob _ _ _ => Instant
  | .advanceAttemptPhase _ _ _ | .recordParseBatch _ _ => Unit
  | .publishOnce _ => SalesImportProcessingResult
  | .scheduleRetry _ _ _ _ _ _ | .completeJob _ _ _ _ _ _ | .completeStoredObjectFailure _ _ _ _
  | .requeueJob _ _ => SalesImportJob

/-- The lease a call presents. -/
def Call.lease : Call → Option (Uuid × Uuid)
  | .heartbeatJob jobId leaseToken _ | .advanceAttemptPhase jobId leaseToken _
  | .scheduleRetry jobId leaseToken _ _ _ _ | .completeJob jobId leaseToken _ _ _ _ =>
      some (jobId, leaseToken)
  | .recordParseBatch claim _ | .publishOnce claim | .completeStoredObjectFailure claim _ _ _ =>
      some (claim.jobId, claim.leaseToken)
  | _ => none

/-- An answer that changes nothing. -/
def answered {α : Type} (value : Option α) (store : Store) : Outcome α :=
  match value with
  | none => .error .doesNotExist
  | some value => .ok (value, store)

section Execution
variable (settings : Settings) (ucd : PyText.UnicodeDatabase)

/-- One transaction that the database itself does not fail. -/
def execute (env : Environment) : (c : Call) → Store → Outcome c.Reply
  | .findActiveImport sourceSystem sha256, store => .ok (existingActiveImport sourceSystem sha256 store, store)
  | .findUnfinishedImports createdBefore, store =>
      .ok (store.importTable.imports.filter (fun intake =>
        intake.status = .receiving && decide (intake.createdAt < createdBefore)), store)
  | .readImport pk, store => answered (findImport store pk) store
  | .createImport draft, store => createImport ucd draft env.now env.createdAt store
  | .enqueueImport pk maxAttempts, store => enqueueImport pk maxAttempts env.now env.createdAt store
  | .completeReceiving pk versionId, store => completeReceiving pk versionId env.now env.createdAt store
  | .abandonReceiving pk failureCode, store => abandonReceiving pk failureCode env.now env.createdAt store
  | .recordProvenance pk kmsKeyArn versionId, store =>
      recordProvenance pk kmsKeyArn versionId env.now env.createdAt store
  | .markExhaustedBatch, store => markExhaustedBatch env.now env.locked store
  | .claimJob workerId leaseDuration, store =>
      claimJob workerId leaseDuration env.now env.draw env.locked store
  | .readCounts jobId, store => (currentCounts jobId store).map (fun counts => (counts, store))
  | .heartbeatJob jobId leaseToken leaseDuration, store =>
      heartbeatJob jobId leaseToken leaseDuration env.now store
  | .advanceAttemptPhase jobId leaseToken phase, store =>
      advanceAttemptPhase jobId leaseToken phase env.now store
  | .recordParseBatch claim batch, store => recordParseBatch claim batch env.now store
  | .publishOnce claim, store => publishOnce settings env.snapshot claim env.times store
  | .scheduleRetry jobId leaseToken errorCode errorMessage baseDelay maximumDelay, store =>
      scheduleRetry jobId leaseToken errorCode errorMessage baseDelay maximumDelay env.now store
  | .completeJob jobId leaseToken status counts errorCode errorMessage, store =>
      completeJob jobId leaseToken status counts errorCode errorMessage env.now store
  | .completeStoredObjectFailure claim failureCode errorCode errorMessage, store =>
      completeStoredObjectFailure claim failureCode errorCode errorMessage env.now store
  | .requeueJob jobId additionalAttempts, store => requeueJob jobId additionalAttempts env.now store

/-- The answer to a call and the store after it; a failed transaction is rolled back. -/
def answer (env : Environment) (c : Call) (store : Store) : Except PyError c.Reply × Store :=
  match env.fault with
  | some e => (.error e, store)
  | none =>
      match execute settings ucd env c store with
      | .error e => (.error e, store)
      | .ok (reply, next) => (.ok reply, next)

abbrev Event := Call × Environment

/-- The committed store after one transaction. -/
def step (store : Store) (event : Event) : Store := (answer settings ucd event.2 event.1 store).2

/-- A committed change is one of the executed call. -/
theorem step_cases (store : Store) (event : Event) :
    step settings ucd store event = store ∨ ∃ reply,
      execute settings ucd event.2 event.1 store = .ok (reply, step settings ucd store event) := by
  unfold step answer
  cases event.2.fault with
  | some e => exact Or.inl rfl
  | none =>
    cases done : execute settings ucd event.2 event.1 store with
    | error e => exact Or.inl rfl
    | ok result => exact Or.inr ⟨result.1, rfl⟩

theorem answer_ok {env : Environment} {c : Call} {store next : Store} {reply : c.Reply}
    (done : answer settings ucd env c store = (.ok reply, next)) :
    execute settings ucd env c store = .ok (reply, next) := by
  unfold answer at done
  cases fault : env.fault with
  | some e => simp [fault] at done
  | none =>
    cases run : execute settings ucd env c store with
    | error e => simp [fault, run] at done
    | ok result =>
      simp only [fault, run, Prod.mk.injEq, Except.ok.injEq] at done
      rw [← done.1, ← done.2]

theorem answer_error {env : Environment} {c : Call} {store : Store} {e : PyError}
    (failed : (answer settings ucd env c store).1 = .error e) :
    (answer settings ucd env c store).2 = store := by
  unfold answer at failed ⊢
  cases fault : env.fault with
  | some e => rfl
  | none =>
    cases run : execute settings ucd env c store with
    | error e => rfl
    | ok result => simp [fault, run] at failed

theorem answer_read (env : Environment) {c : Call}
    (reads : (∃ pk, c = .readImport pk) ∨ ∃ jobId, c = .readCounts jobId) (store : Store) :
    (answer settings ucd env c store).2 = store := by
  unfold answer
  cases env.fault with
  | some e => rfl
  | none =>
    rcases reads with ⟨pk, rfl⟩ | ⟨jobId, rfl⟩
    · cases found : findImport store pk <;> simp [execute, answered, found]
    · cases found : currentCounts jobId store <;> simp [execute, Except.map, found]

end Execution

/-- A program of transactions. -/
abbrev Transaction (α : Type) := Fallible PyError Call.Reply α

def transact (c : Call) : Transaction c.Reply := request c

/-! ## An environment for worked instances -/

namespace Sample

def workerId : WorkerId where
  text := "worker"
  stripped := (by decide : PyText.strip "worker" = "worker") ▸ PyText.strip_stripped "worker"
  nonempty := by decide
  limit := by decide

def environment (now : Instant) (leaseToken attemptId : Uuid) : Environment where
  now := now
  createdAt := now
  finishedAt := now
  draw := ⟨leaseToken, attemptId⟩
  locked := []
  snapshot := ⟨FactTable.empty, Validation.Sample.master⟩
  fault := none

/-- A received file that has not been queued. -/
def store : Store where
  importTable := ⟨[{ Publication.Sample.intake [] with processingJob := none }], List.nodup_singleton _,
    List.nodup_singleton _, by simp [SalesImport.MetadataConsistent, Publication.Sample.intake]⟩
  factTable := FactTable.empty
  master := Validation.Sample.master

end Sample

end PharmaIntel.System
