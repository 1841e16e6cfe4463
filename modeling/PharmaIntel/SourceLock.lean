import Mathlib
import PharmaIntel.Base.Run
import PharmaIntel.PublicationSteps
import PharmaIntel.System

/-! Workers that publish one source. Each polls for the source's session lock, renews its
lease, publishes in a repeatable-read transaction and gives the lock up; a scheduler
interleaves their statements. -/

namespace PharmaIntel.SourceLock
open PharmaIntel.Base PharmaIntel.Models PharmaIntel.Queue PharmaIntel.Validation
  PharmaIntel.Publication PharmaIntel.System

/-- An open transaction: which turn of the retry loop it is, its clocks and the snapshot its
first query has taken, and the worker's own import in that snapshot. -/
structure OpenTransaction where
  attemptNumber : Nat
  env : Environment
  seen : Option SalesImport

abbrev WorkerOutcome := Except PyError SalesImportProcessingResult

/-- What a worker has come to in `_publish_staged_rows`. -/
inductive Stage where
  /-- About to poll the lock. -/
  | waiting
  /-- About to renew its lease between two polls. -/
  | beating
  /-- Holding the lock and about to renew its lease. -/
  | acquired
  | ready (attemptNumber : Nat)
  | opened (txn : OpenTransaction)
  | locked (txn : OpenTransaction) (rows : LockedRows)
  | validated (txn : OpenTransaction) (rows : LockedRows) (checked : ValidationState)
  | concluded (txn : OpenTransaction) (rows : LockedRows) (conclusion : Conclusion)
  | releasing (outcome : WorkerOutcome)
  | ended (outcome : WorkerOutcome)

structure Worker where
  claim : SalesImportClaim
  sourceSystem : String
  stage : Stage := .waiting
  /-- The facts it has committed. -/
  inserted : List SalesValues := []

/-- The database, the advisory locks and the workers, numbered by their sessions. `order` and
`history` only record who got the lock, and which transactions have ended, in that order. -/
structure World where
  store : Store
  locks : Locks Int
  workers : List Worker
  order : List Nat := []
  history : List (Nat × Event) := []

/-- What a step takes from outside: its clock, whether the wait has timed out or a heartbeat
is due, a failure of the database, and whether the session gives up its lock: by
`pg_advisory_unlock`, or because its connection is lost. -/
structure Tick where
  env : Environment
  timedOut : Bool
  heartbeatDue : Bool
  failure : Option String
  freed : Bool

/-- What the step of a worker does: it moves on, gets the lock, or ends a transaction. -/
inductive Effect where
  | moves (stage : Stage) (freed : Bool)
  | acquires
  | transacts (event : Event) (store : Store) (stage : Stage) (inserted : List SalesValues) (freed : Bool)

/-! ## Steps -/

def timeout : PyError := .databaseError "Timed out waiting to publish another import from this source."

/-- What PostgreSQL raises on a lock of a row that has changed since the snapshot. -/
def serializationFailure : String := "could not serialize access due to concurrent update"

def heartbeatEvent (tick : Tick) (claim : SalesImportClaim) : Event :=
  (.heartbeatJob claim.jobId claim.leaseToken defaultLeaseDuration,
    { tick.env with fault := tick.failure.map .databaseError })

def publicationEvent (claim : SalesImportClaim) (env : Environment) (fault : Option PyError) : Event :=
  (.publishOnce claim, { env with fault := fault })

/-- One turn of the polling loop. -/
def poll (tick : Tick) (holder : Option Nat) : Effect :=
  match tick.failure with
  | some message => .moves (.ended (.error (.databaseError message))) false
  | none =>
      match holder with
      | none => .acquires
      | some _ =>
          if tick.timedOut then .moves (.ended (.error timeout)) false
          else .moves (if tick.heartbeatDue then .beating else .waiting) false

/-- `_publish_staged_rows` runs `_publish_once` a second time after a violation of the
unique key of the facts. -/
def afterError (attemptNumber : Nat) (e : PyError) : Stage :=
  if attemptNumber = 0 ∧ e = .integrityError "business_data_sales_source_unique" then .ready 1
  else .releasing (.error e)

section Steps
variable (settings : Settings) (ucd : PyText.UnicodeDatabase) (tick : Tick) (store : Store)
  (claim : SalesImportClaim)

/-- `heartbeat_job`, a transaction of its own. -/
def beat (next : Stage) (failed : PyError → Stage) : Effect :=
  match answer settings ucd (heartbeatEvent tick claim).2 (heartbeatEvent tick claim).1 store with
  | (.error e, after) => .transacts (heartbeatEvent tick claim) after (failed e) [] tick.freed
  | (.ok _, after) => .transacts (heartbeatEvent tick claim) after next [] false

/-- A statement of the publication: the database fails it, it raises, or the worker goes on.
An exception rolls the transaction back. -/
def statement (attemptNumber : Nat) (env : Environment) (failure : Option String)
    (next : Except PyError Stage) : Effect :=
  match failure with
  | some message => .transacts (publicationEvent claim env (some (.databaseError message))) store
      (.releasing (.error (.databaseError message))) [] tick.freed
  | none =>
      match next with
      | .error e => .transacts (publicationEvent claim env none) store (afterError attemptNumber e) [] false
      | .ok stage => .moves stage false

/-- The first query takes the snapshot. -/
def openTransaction (attemptNumber : Nat) : Effect :=
  let env := { tick.env with snapshot := snapshotOf store }
  statement tick store claim attemptNumber env tick.failure
    (.ok (.opened ⟨attemptNumber, env, findImport store claim.jobId⟩))

def lockLiveClaim (txn : OpenTransaction) : Effect :=
  let changed := txn.seen.bind SalesImport.processingJob ≠ findJob store claim.jobId
  statement tick store claim txn.attemptNumber txn.env
    (if changed then some serializationFailure else tick.failure)
    ((lockClaim claim txn.env.now store).map (.locked txn))

def validate (txn : OpenTransaction) (rows : LockedRows) : Effect :=
  statement tick store claim txn.attemptNumber txn.env tick.failure
    (match validateRows settings txn.env.snapshot rows with
    | .error e => .error e
    | .ok (.rejected conclusion) => .ok (.concluded txn rows conclusion)
    | .ok (.sound checked) => .ok (.validated txn rows checked))

def insert (txn : OpenTransaction) (rows : LockedRows) (checked : ValidationState) : Effect :=
  let env := { txn.env with createdAt := tick.env.createdAt }
  statement tick store claim txn.attemptNumber env tick.failure
    ((insertRows settings txn.env.snapshot rows checked env.createdAt store).map
      (.concluded { txn with env := env } rows))

def commit (txn : OpenTransaction) (rows : LockedRows) (conclusion : Conclusion) : Effect :=
  let env := { txn.env with finishedAt := tick.env.finishedAt }
  match tick.failure, commitRows claim rows conclusion env.createdAt env.finishedAt store with
  | none, .ok (result, next) => .transacts (publicationEvent claim env none) next (.releasing (.ok result))
      conclusion.inserts false
  | failure, outcome => statement tick store claim txn.attemptNumber env failure
      (outcome.map (fun done => .releasing (.ok done.1)))

end Steps

section Machine
variable (settings : Settings) (ucd : PyText.UnicodeDatabase) (lockKey : String → Int)

/-- The next statement of a worker; after the end only its connection can close. -/
def effect (tick : Tick) (world : World) (worker : Worker) : Effect :=
  match worker.stage with
  | .waiting => poll tick (world.locks (lockKey worker.sourceSystem))
  | .beating => beat settings ucd tick world.store worker.claim .waiting (fun e => .ended (.error e))
  | .acquired =>
      beat settings ucd tick world.store worker.claim (.ready 0) (fun e => .releasing (.error e))
  | .ready attemptNumber => openTransaction tick world.store worker.claim attemptNumber
  | .opened txn => lockLiveClaim tick world.store worker.claim txn
  | .locked txn rows => validate settings tick world.store worker.claim txn rows
  | .validated txn rows checked => insert settings tick world.store worker.claim txn rows checked
  | .concluded txn rows conclusion => commit tick world.store worker.claim txn rows conclusion
  | .releasing outcome | .ended outcome => .moves (.ended outcome) tick.freed

def freeLock (world : World) (i : Nat) (worker : Worker) (freed : Bool) : Locks Int :=
  if freed then world.locks.giveUp (lockKey worker.sourceSystem) i else world.locks

def World.apply (world : World) (i : Nat) (worker : Worker) : Effect → World
  | .moves stage freed => { world with
      locks := freeLock lockKey world i worker freed
      workers := world.workers.set i { worker with stage := stage } }
  | .acquires => { world with
      locks := world.locks.grant (lockKey worker.sourceSystem) i
      workers := world.workers.set i { worker with stage := .acquired }
      order := world.order ++ [i] }
  | .transacts event store stage inserted freed => { world with
      store := store
      locks := freeLock lockKey world i worker freed
      workers := world.workers.set i
        { worker with stage := stage, inserted := worker.inserted ++ inserted }
      history := world.history ++ [(i, event)] }

/-- The chosen worker makes its next step. -/
def step (world : World) (choice : Nat × Tick) : World :=
  match world.workers[choice.1]? with
  | none => world
  | some worker => world.apply lockKey choice.1 worker (effect settings ucd lockKey choice.2 world worker)

/-- A database and workers that have not polled yet; nobody holds a lock. -/
def opening (start : Store) (workers : List Worker) : World := ⟨start, fun _ => none, workers, [], []⟩

end Machine

end PharmaIntel.SourceLock
