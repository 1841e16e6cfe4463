import Mathlib
import PharmaIntel.QueueRules
import PharmaIntel.SourceLock

/-! What a worker can do at each step while its knowledge stands, and what the others' steps
leave of that knowledge: nothing but a commit changes facts, and only the holder of the lock
commits. -/

namespace PharmaIntel.SourceLock
open PharmaIntel.Base PharmaIntel.Models PharmaIntel.Queue PharmaIntel.Validation
  PharmaIntel.Publication PharmaIntel.System

/-! ## Staged rows -/

/-- The unique keys of the staged rows of every attempt. -/
def RowsDistinct (store : Store) : Prop :=
  ∀ pk job, findJob store pk = some job → ∀ attempt ∈ job.attempts,
    (attempt.stagedRows.map SalesImportStagedRow.rowNumber).Nodup ∧
      (attempt.stagedRows.map SalesImportStagedRow.sourceRecordId).Nodup

/-- Saving an attempt whose rows keep their numbers and ids. -/
theorem rowsDistinct_saved {store base : Store} {jobId : Uuid} {job changed : SalesImportJob}
    {attempt saved : SalesImportAttempt} (distinct : RowsDistinct store)
    (found : findJob store jobId = some job) (member : attempt ∈ job.attempts)
    (same : base.importTable = store.importTable) (attempts : changed.attempts = job.attempts)
    (numbers : saved.stagedRows.map SalesImportStagedRow.rowNumber =
      attempt.stagedRows.map SalesImportStagedRow.rowNumber)
    (ids : saved.stagedRows.map SalesImportStagedRow.sourceRecordId =
      attempt.stagedRows.map SalesImportStagedRow.sourceRecordId) :
    RowsDistinct (saveJob base jobId (saveAttempt changed saved)) := by
  have jobs_same : ∀ pk, findJob base pk = findJob store pk := by
    intro pk
    unfold findJob findImport
    rw [same]
  intro pk other located later inside
  by_cases here : pk = jobId
  · subst here
    obtain ⟨intake, imported, _⟩ := findJob_import ((jobs_same pk).trans found)
    rw [findJob_saveJob_same imported] at located
    rw [← Option.some.inj located] at inside
    rcases mem_updateBy inside with ⟨kept, _⟩ | ⟨_, _, _, rfl⟩
    · exact distinct pk job found later (attempts ▸ kept)
    · rw [numbers, ids]
      exact distinct pk job found attempt member
  · rw [findJob_saveJob_other _ _ here, jobs_same] at located
    exact distinct pk other located later inside

/-! ## What a heartbeat leaves alone -/

section Heartbeats
variable (settings : Settings) (ucd : PyText.UnicodeDatabase) (store : Store)
  (jobId leaseToken : Uuid) (leaseDuration : Duration) (env : Environment)

/-- A heartbeat fails, or renews the live lease it presents. -/
theorem heartbeat_cases :
    System.step settings ucd store (.heartbeatJob jobId leaseToken leaseDuration, env) = store ∨
      ∃ job attempt, LiveClaim store jobId leaseToken env.now job attempt ∧
        System.step settings ucd store (.heartbeatJob jobId leaseToken leaseDuration, env) =
          saveJob store jobId (saveAttempt
            { job with heartbeatAt := some env.now, leaseExpiresAt := some (env.now + leaseDuration) }
            { attempt with heartbeatAt := env.now }) := by
  rcases System.step_cases settings ucd store (.heartbeatJob jobId leaseToken leaseDuration, env) with
    same | ⟨reply, done⟩
  · exact Or.inl same
  · right
    exact heartbeatJob_ok done

/-- Only the row of the renewed lease changes. -/
structure Renews (store next : Store) (jobId leaseToken : Uuid) : Prop where
  facts : next.factTable = store.factTable
  master : next.master = store.master
  others : ∀ pk, (∀ job, pk = jobId → findJob store pk = some job → job.leaseToken ≠ some leaseToken) →
    findImport next pk = findImport store pk
  rows : RowsDistinct store → RowsDistinct next

theorem heartbeat_renews :
    Renews store (System.step settings ucd store (.heartbeatJob jobId leaseToken leaseDuration, env))
      jobId leaseToken := by
  rcases heartbeat_cases settings ucd store jobId leaseToken leaseDuration env with
    same | ⟨job, attempt, live, same⟩
  · rw [same]
    exact ⟨rfl, rfl, fun _ _ => rfl, id⟩
  · rw [same]
    refine ⟨rfl, rfl, ?_, ?_⟩
    · intro pk foreign
      by_cases here : pk = jobId
      · exact absurd live.token (foreign job here (here ▸ live.found))
      · exact findImport_saveJob_other store _ here
    · intro distinct
      exact rowsDistinct_saved distinct live.found live.member rfl rfl rfl rfl

end Heartbeats

/-! ## What a stage knows -/

/-- The worker holds the lock and its transaction has not ended. -/
def Stage.inside : Stage → Bool
  | .acquired | .ready _ | .opened _ | .locked _ _ | .validated _ _ _ | .concluded _ _ _ => true
  | .waiting | .beating | .releasing _ | .ended _ => false

/-- The worker has not got the lock yet. -/
def Stage.polling : Stage → Bool
  | .waiting | .beating => true
  | _ => false

def Stage.outcome : Stage → Option WorkerOutcome
  | .releasing outcome | .ended outcome => some outcome
  | _ => none

/-- The turn of the retry loop; zero before it. -/
def Stage.attemptNumber : Stage → Nat
  | .ready attemptNumber => attemptNumber
  | .opened txn | .locked txn _ | .validated txn _ _ | .concluded txn _ _ => txn.attemptNumber
  | _ => 0

/-- A transaction of the first turn whose snapshot shows the committed tables. -/
structure Current (store : Store) (txn : OpenTransaction) : Prop where
  first : txn.attemptNumber = 0
  snapshot : txn.env.snapshot = snapshotOf store

/-- What a worker has found out still holds of the database. -/
def Stands (settings : Settings) (store : Store) (claim : SalesImportClaim) : Stage → Prop
  | .ready attemptNumber => attemptNumber = 0
  | .opened txn => Current store txn
  | .locked txn rows => Current store txn ∧ lockClaim claim txn.env.now store = .ok rows
  | .validated txn rows checked => Current store txn ∧ lockClaim claim txn.env.now store = .ok rows ∧
      validateRows settings txn.env.snapshot rows = .ok (.sound checked)
  | .concluded txn rows conclusion => Current store txn ∧ lockClaim claim txn.env.now store = .ok rows ∧
      conclude settings txn.env.snapshot rows txn.env.createdAt store = .ok conclusion
  | _ => True

theorem Stands.outside {settings : Settings} {claim : SalesImportClaim} {stage : Stage}
    (outside : stage.inside = false) (store : Store) : Stands settings store claim stage := by
  cases stage with
  | waiting => trivial
  | beating => trivial
  | releasing outcome => trivial
  | ended outcome => trivial
  | _ => cases outside

theorem Stands.first {settings : Settings} {store : Store} {claim : SalesImportClaim} {stage : Stage}
    (stands : Stands settings store claim stage) : stage.attemptNumber = 0 := by
  cases stage with
  | ready attemptNumber => exact stands
  | opened txn => exact Current.first stands
  | locked txn rows => exact Current.first stands.1
  | validated txn rows checked => exact Current.first stands.1
  | concluded txn rows conclusion => exact Current.first stands.1
  | _ => rfl

/-- A heartbeat under another token changes nothing a worker relies on. -/
theorem Stands.renewed {settings : Settings} {store next : Store} {jobId leaseToken : Uuid}
    {claim : SalesImportClaim} {stage : Stage} (stands : Stands settings store claim stage)
    (renews : Renews store next jobId leaseToken) (apart : claim.leaseToken ≠ leaseToken) :
    Stands settings next claim stage := by
  have shown : snapshotOf next = snapshotOf store := by
    rw [snapshotOf, snapshotOf, renews.facts, renews.master]
  have current : ∀ {txn}, Current store txn → Current next txn :=
    fun known => ⟨known.first, known.snapshot.trans shown.symm⟩
  have locked : ∀ {txn : OpenTransaction} {rows}, lockClaim claim txn.env.now store = .ok rows →
      lockClaim claim txn.env.now next = .ok rows := by
    intro txn rows held
    have live := lockClaim_ok held
    rw [lockClaim_congr (renews.others claim.jobId ?_)]
    · exact held
    · intro job _ found
      obtain rfl : job = rows.job := Option.some.inj (found.symm.trans live.found)
      intro token
      exact apart (Option.some.inj (live.token.symm.trans token))
  cases stage with
  | ready attemptNumber => exact stands
  | opened txn => exact current stands
  | locked txn rows => exact ⟨current stands.1, locked stands.2⟩
  | validated txn rows checked => exact ⟨current stands.1, locked stands.2.1, stands.2.2⟩
  | concluded txn rows conclusion =>
    refine ⟨current stands.1, locked stands.2.1, ?_⟩
    rw [conclude_congr renews.facts]
    exact stands.2.2
  | _ => trivial

/-! ## What a step can do -/

/-- A committed publication: its facts are new, and come behind the others. -/
structure Adds (store next : Store) (inserts : List SalesValues) : Prop where
  fresh : ∀ values ∈ inserts, values.key ∉ store.factTable.facts.map SalesTransaction.key
  facts : next.factTable.facts.map SalesTransaction.values =
    store.factTable.facts.map SalesTransaction.values ++ inserts

/-- The job of a result carries it, and no lease any more. -/
def Finished (store : Store) (result : SalesImportProcessingResult) : Prop :=
  ∃ job, findJob store result.jobId = some job ∧ job.leaseToken = none ∧ job.status = result.status ∧
    job.counts = result.counts

/-- A committed publication finishes the job its claim has leased, and no other. -/
structure Finishes (store next : Store) (claim : SalesImportClaim) (result : SalesImportProcessingResult) :
    Prop where
  leased : ∃ job, findJob store claim.jobId = some job ∧ job.leaseToken = some claim.leaseToken
  same : result.jobId = claim.jobId
  finished : Finished next result
  others : ∀ pk, pk ≠ claim.jobId → findImport next pk = findImport store pk

/-- The steps of a worker whose knowledge stands: outside a transaction it moves on, and a
transaction ends as it would alone. -/
inductive Turn (settings : Settings) (ucd : PyText.UnicodeDatabase) (store : Store)
    (holder : Option Nat) (claim : SalesImportClaim) (stage : Stage) : Effect → Prop where
  | moved (next : Stage) (freed : Bool) (stays : next.inside = true → stage.inside = true ∧ freed = false)
      (polls : next.polling = true → stage.polling = true) (stands : Stands settings store claim next)
      (kept : stage.outcome = none ∨ next.outcome = stage.outcome)
      (unanswered : ∀ result, next.outcome = some (.ok result) → stage.outcome = some (.ok result)) :
      Turn settings ucd store holder claim stage (.moves next freed)
  | acquired (waits : stage = .waiting) (free : holder = none) :
      Turn settings ucd store holder claim stage .acquires
  | beaten (env : Environment) (leaseDuration : Duration) (next : Stage) (freed : Bool)
      (stays : next.inside = true → stage.inside = true ∧ freed = false)
      (polls : next.polling = true → stage.polling = true)
      (stands : ∀ after, Stands settings after claim next) (running : stage.outcome = none)
      (unanswered : ∀ result, next.outcome ≠ some (.ok result)) :
      Turn settings ucd store holder claim stage (.transacts
        (.heartbeatJob claim.jobId claim.leaseToken leaseDuration, env)
        (System.step settings ucd store (.heartbeatJob claim.jobId claim.leaseToken leaseDuration, env))
        next [] freed)
  | aborted (env : Environment) (e : PyError) (freed : Bool) (holds : stage.inside = true)
      (running : stage.outcome = none) (snapshot : env.snapshot = snapshotOf store)
      (failed : answer settings ucd env (.publishOnce claim) store = (.error e, store))
      (other : e ≠ .integrityError "business_data_sales_source_unique") :
      Turn settings ucd store holder claim stage
        (.transacts (.publishOnce claim, env) store (.releasing (.error e)) [] freed)
  | committed (env : Environment) (result : SalesImportProcessingResult) (next : Store)
      (inserts : List SalesValues) (holds : stage.inside = true) (running : stage.outcome = none)
      (snapshot : env.snapshot = snapshotOf store)
      (done : answer settings ucd env (.publishOnce claim) store = (.ok result, next))
      (adds : Adds store next inserts) (rows : RowsDistinct next)
      (finishes : Finishes store next claim result) :
      Turn settings ucd store holder claim stage
        (.transacts (.publishOnce claim, env) next (.releasing (.ok result)) inserts false)

section Turns
variable {settings : Settings} {ucd : PyText.UnicodeDatabase} {tick : Tick} {store : Store}
  {claim : SalesImportClaim} {stage : Stage} {holder : Option Nat}

theorem publication_failed {env : Environment} {e : PyError}
    (failed : publishOnce settings env.snapshot claim env.times store = .error e) :
    answer settings ucd (publicationEvent claim env none).2 (.publishOnce claim) store = (.error e, store) := by
  have ran : execute settings ucd (publicationEvent claim env none).2 (.publishOnce claim) store =
      .error e := failed
  unfold answer
  rw [ran]
  rfl

theorem publication_done {env : Environment} {result : SalesImportProcessingResult} {next : Store}
    (done : publishOnce settings env.snapshot claim env.times store = .ok (result, next)) :
    answer settings ucd (publicationEvent claim env none).2 (.publishOnce claim) store = (.ok result, next) := by
  have ran : execute settings ucd (publicationEvent claim env none).2 (.publishOnce claim) store =
      .ok (result, next) := done
  unfold answer
  rw [ran]
  rfl

theorem beat_turn {next : Stage} {failed : PyError → Stage} (running : stage.outcome = none)
    (goes : next.inside = true → stage.inside = true) (polls : next.polling = true → stage.polling = true)
    (ends : ∀ e, (failed e).inside = false ∧ (failed e).polling = false)
    (goesOn : next.outcome = none) (fails : ∀ e, (failed e).outcome = some (.error e))
    (stands : ∀ after, Stands settings after claim next) :
    Turn settings ucd store holder claim stage (beat settings ucd tick store claim next failed) := by
  unfold beat
  have same : (answer settings ucd (heartbeatEvent tick claim).2 (heartbeatEvent tick claim).1 store).2 =
      System.step settings ucd store (heartbeatEvent tick claim) := rfl
  split
  · rename_i e after replied
    rw [replied] at same
    dsimp only at same
    rw [same]
    refine .beaten _ _ _ _ ?_ ?_ (fun after => Stands.outside (ends e).1 after) running ?_
    · intro entered
      rw [(ends e).1] at entered
      cases entered
    · intro again
      rw [(ends e).2] at again
      cases again
    · intro result answered
      rw [fails e] at answered
      cases answered
  · rename_i expiry after replied
    rw [replied] at same
    dsimp only at same
    rw [same]
    refine .beaten _ _ _ _ (fun entered => ⟨goes entered, rfl⟩) polls stands running ?_
    intro result answered
    rw [goesOn] at answered
    cases answered

/-- A statement in a transaction of the first turn. -/
theorem statement_turn {env : Environment} {failure : Option String} {next : Except PyError Stage}
    (holds : stage.inside = true) (running : stage.outcome = none)
    (snapshot : env.snapshot = snapshotOf store)
    (raises : ∀ e, next = .error e →
      publishOnce settings env.snapshot claim env.times store = .error e ∧
        e ≠ .integrityError "business_data_sales_source_unique")
    (goes : ∀ later, failure = none → next = .ok later →
      Stands settings store claim later ∧ later.polling = false ∧ later.outcome = none) :
    Turn settings ucd store holder claim stage (statement tick store claim 0 env failure next) := by
  unfold statement
  cases failure with
  | some message => exact .aborted _ _ _ holds running snapshot rfl (by simp)
  | none =>
    cases next with
    | error e =>
      obtain ⟨failed, other⟩ := raises e rfl
      dsimp only
      rw [afterError, if_neg (fun violated => other violated.2)]
      exact .aborted _ _ _ holds running snapshot (publication_failed failed) other
    | ok later =>
      obtain ⟨stands, onward, open_still⟩ := goes later rfl rfl
      refine .moved later false (fun _ => ⟨holds, rfl⟩) ?_ stands (Or.inl running) ?_
      · intro again
        rw [onward] at again
        cases again
      · intro result answered
        rw [open_still] at answered
        cases answered

/-- The rows of a locked claim have distinct numbers and ids. -/
theorem locked_distinct (distinct : RowsDistinct store) {startedAt : Instant} {rows : LockedRows}
    (locked : lockClaim claim startedAt store = .ok rows) (createdAt : Instant) :
    ∃ conclusion, conclude settings (snapshotOf store) rows createdAt store = .ok conclusion ∧
      Concludes rows createdAt store conclusion := by
  have live := lockClaim_ok locked
  obtain ⟨numbers, ids⟩ := distinct _ _ live.found _ live.member
  exact conclude_current settings store rows createdAt numbers ids

theorem lockLiveClaim_turn {txn : OpenTransaction} (current : Current store txn) :
    Turn settings ucd store holder claim (.opened txn) (lockLiveClaim tick store claim txn) := by
  unfold lockLiveClaim
  dsimp only
  rw [current.first]
  refine statement_turn rfl rfl current.snapshot ?_ ?_
  · intro e failed
    cases locked : lockClaim claim txn.env.now store with
    | ok rows => simp [locked, Except.map] at failed
    | error cause =>
      simp only [locked, Except.map, Except.error.injEq] at failed
      subst failed
      exact ⟨publishOnce_unlocked locked, lockClaim_error locked⟩
  · intro later _ moved
    cases locked : lockClaim claim txn.env.now store with
    | error e => simp [locked, Except.map] at moved
    | ok rows =>
      simp only [locked, Except.map, Except.ok.injEq] at moved
      subst moved
      exact ⟨⟨current, locked⟩, rfl, rfl⟩

theorem validate_turn {txn : OpenTransaction} {rows : LockedRows} (distinct : RowsDistinct store)
    (current : Current store txn) (locked : lockClaim claim txn.env.now store = .ok rows) :
    Turn settings ucd store holder claim (.locked txn rows) (validate settings tick store claim txn rows) := by
  unfold validate
  rw [current.first]
  obtain ⟨conclusion, concluded, _⟩ := @locked_distinct settings _ _ distinct _ _ locked txn.env.createdAt
  rw [← current.snapshot] at concluded
  unfold conclude at concluded
  cases verdict : validateRows settings txn.env.snapshot rows with
  | error e => simp [verdict] at concluded
  | ok verdict_ok =>
    refine statement_turn rfl rfl current.snapshot ?_ ?_
    · intro e failed
      cases verdict_ok <;> cases failed
    · intro later _ moved
      cases verdict_ok with
      | rejected rejection =>
        injection moved with moved
        subst moved
        refine ⟨⟨current, locked, ?_⟩, rfl, rfl⟩
        unfold conclude
        rw [verdict]
      | sound checked =>
        injection moved with moved
        subst moved
        exact ⟨⟨current, locked, verdict⟩, rfl, rfl⟩

theorem insert_turn {txn : OpenTransaction} {rows : LockedRows} {checked : ValidationState}
    (distinct : RowsDistinct store) (current : Current store txn)
    (locked : lockClaim claim txn.env.now store = .ok rows)
    (sound : validateRows settings txn.env.snapshot rows = .ok (.sound checked)) :
    Turn settings ucd store holder claim (.validated txn rows checked)
      (insert settings tick store claim txn rows checked) := by
  unfold insert
  dsimp only
  rw [current.first]
  obtain ⟨conclusion, concluded, _⟩ := @locked_distinct settings _ _ distinct _ _ locked tick.env.createdAt
  rw [← current.snapshot] at concluded
  have inserted : insertRows settings txn.env.snapshot rows checked tick.env.createdAt store =
      .ok conclusion := by
    unfold conclude at concluded
    rwa [sound] at concluded
  rw [inserted]
  refine statement_turn rfl rfl current.snapshot ?_ ?_
  · intro e failed
    cases failed
  · intro later _ moved
    injection moved with moved
    subst moved
    exact ⟨⟨⟨rfl, current.snapshot⟩, locked, concluded⟩, rfl, rfl⟩

theorem commit_turn {txn : OpenTransaction} {rows : LockedRows} {conclusion : Conclusion}
    (distinct : RowsDistinct store) (current : Current store txn)
    (locked : lockClaim claim txn.env.now store = .ok rows)
    (concluded : conclude settings txn.env.snapshot rows txn.env.createdAt store = .ok conclusion) :
    Turn settings ucd store holder claim (.concluded txn rows conclusion)
      (commit tick store claim txn rows conclusion) := by
  have live := lockClaim_ok locked
  obtain ⟨other, same, concludes⟩ := @locked_distinct settings _ _ distinct _ _ locked txn.env.createdAt
  rw [← current.snapshot, concluded] at same
  obtain rfl : conclusion = other := Except.ok.inj same
  obtain ⟨table, inserted⟩ := concludes.inserted
  obtain ⟨added, grown, stored, _, fresh⟩ := FactTable.insertAll_ok inserted
  have committed : commitRows claim rows conclusion txn.env.createdAt tick.env.finishedAt store =
      .ok (⟨claim.jobId, conclusion.status, conclusion.counts⟩,
        saveJob { store with factTable := table } claim.jobId (saveAttempt
          (finishedJob rows.job conclusion.status conclusion.counts conclusion.errorCode
            conclusion.errorMessage tick.env.finishedAt)
          (finishedAttempt conclusion.attempt conclusion.status conclusion.outcome conclusion.counts
            conclusion.errorCode conclusion.errorMessage tick.env.finishedAt))) := by
    rw [commitRows, inserted]
    dsimp only
    rw [finishLockedJob, concludes.accepted]
  unfold commit
  dsimp only
  rw [committed, current.first]
  cases failure : tick.failure with
  | some message =>
    refine statement_turn rfl rfl current.snapshot ?_ ?_
    · intro e failed
      cases failed
    · intro later sound
      cases sound
  | none =>
    refine .committed _ _ _ _ rfl rfl current.snapshot (publication_done ?_) ⟨fresh, ?_⟩ ?_
      ⟨⟨rows.job, live.found, live.token⟩, rfl, ?_, ?_⟩
    · rw [← committed]
      exact publishOnce_concluded locked concluded
    · change table.facts.map SalesTransaction.values = _
      rw [grown, List.map_append, stored]
    · exact rowsDistinct_saved distinct live.found live.member rfl rfl
        (concludes.staged _ (fun _ _ => rfl) (fun _ _ => rfl))
        (concludes.staged _ (fun _ _ => rfl) (fun _ _ => rfl))
    · obtain ⟨intake, imported, _⟩ := findJob_import live.found
      exact ⟨_, findJob_saveJob_same imported _, rfl, rfl, rfl⟩
    · intro pk apart
      exact findImport_saveJob_other _ _ apart

/-- Every step of a worker whose knowledge stands. -/
theorem effect_turn {lockKey : String → Int} {world : World} {worker : Worker}
    (distinct : RowsDistinct world.store)
    (stands : Stands settings world.store worker.claim worker.stage) :
    Turn settings ucd world.store (world.locks (lockKey worker.sourceSystem)) worker.claim worker.stage
      (effect settings ucd lockKey tick world worker) := by
  unfold effect
  cases here : worker.stage with
  | waiting =>
    dsimp only
    unfold poll
    cases tick.failure with
    | some message =>
      exact .moved _ _ (by simp [Stage.inside]) (fun _ => rfl) trivial (Or.inl rfl) (by simp [Stage.outcome])
    | none =>
      cases world.locks (lockKey worker.sourceSystem) with
      | none => exact .acquired rfl rfl
      | some holder =>
        dsimp only
        split_ifs <;> exact .moved _ _ (by simp [Stage.inside]) (fun _ => rfl) trivial (Or.inl rfl)
          (by simp [Stage.outcome])
  | beating =>
    exact beat_turn rfl (by simp [Stage.inside]) (fun _ => rfl) (fun _ => ⟨rfl, rfl⟩) rfl (fun _ => rfl)
      (fun _ => trivial)
  | acquired =>
    exact beat_turn rfl (fun _ => rfl) (by simp [Stage.polling]) (fun _ => ⟨rfl, rfl⟩) rfl (fun _ => rfl)
      (fun _ => rfl)
  | ready attemptNumber =>
    rw [here] at stands
    obtain rfl : attemptNumber = 0 := stands
    dsimp only
    unfold openTransaction
    refine statement_turn rfl rfl rfl ?_ ?_
    · intro e failed
      cases failed
    · intro later _ moved
      injection moved with moved
      subst moved
      exact ⟨⟨rfl, rfl⟩, rfl, rfl⟩
  | opened txn =>
    rw [here] at stands
    exact lockLiveClaim_turn stands
  | locked txn rows =>
    rw [here] at stands
    exact validate_turn distinct stands.1 stands.2
  | validated txn rows checked =>
    rw [here] at stands
    exact insert_turn distinct stands.1 stands.2.1 stands.2.2
  | concluded txn rows conclusion =>
    rw [here] at stands
    exact commit_turn distinct stands.1 stands.2.1 stands.2.2
  | releasing outcome =>
    exact .moved _ _ (by simp [Stage.inside]) (by simp [Stage.polling]) trivial (Or.inr rfl)
      (fun _ answered => answered)
  | ended outcome =>
    exact .moved _ _ (by simp [Stage.inside]) (fun again => again) trivial (Or.inr rfl)
      (fun _ answered => answered)

end Turns

/-! ## The world after a step -/

def Effect.stage : Effect → Stage
  | .moves stage _ | .transacts _ _ stage _ _ => stage
  | .acquires => .acquired

def Effect.inserted : Effect → List SalesValues
  | .transacts _ _ _ inserted _ => inserted
  | _ => []

def Effect.after (store : Store) : Effect → Store
  | .transacts _ after _ _ _ => after
  | _ => store

def Effect.entries (i : Nat) : Effect → List (Nat × Event)
  | .transacts event _ _ _ _ => [(i, event)]
  | _ => []

/-- The worker after its step. -/
def Worker.took (worker : Worker) (effect : Effect) : Worker :=
  { worker with stage := effect.stage, inserted := worker.inserted ++ effect.inserted }

section Apply
variable (lockKey : String → Int) (world : World) (i : Nat) (worker : Worker) (effect : Effect)

@[simp] theorem apply_workers :
    (world.apply lockKey i worker effect).workers = world.workers.set i (worker.took effect) := by
  cases effect <;> simp [World.apply, Worker.took, Effect.stage, Effect.inserted]

@[simp] theorem apply_store :
    (world.apply lockKey i worker effect).store = effect.after world.store := by
  cases effect <;> rfl

@[simp] theorem apply_history :
    (world.apply lockKey i worker effect).history = world.history ++ effect.entries i := by
  cases effect <;> simp [World.apply, Effect.entries]

end Apply

/-! ## The team under its lock -/

section Team
variable {settings : Settings} {ucd : PyText.UnicodeDatabase} {lockKey : String → Int}
  {sourceSystem : String} {world : World} {i : Nat} {worker : Worker} {effect : Effect}

/-- The workers hold claims of their own, and whoever is inside holds the lock of the source. -/
structure Team (lockKey : String → Int) (sourceSystem : String) (world : World) : Prop where
  sources : ∀ worker ∈ world.workers, worker.sourceSystem = sourceSystem
  tokens : (world.workers.map (fun worker => worker.claim.leaseToken)).Nodup
  guarded : Guarded world.locks (lockKey sourceSystem) (fun worker => worker.stage.inside = true) world.workers

theorem Team.alone (team : Team lockKey sourceSystem world) {j : Nat} {other : Worker}
    (here : world.workers[i]? = some worker) (there : world.workers[j]? = some other)
    (inside : worker.stage.inside = true) (otherInside : other.stage.inside = true) : i = j :=
  team.guarded.unique here there inside otherInside

theorem Team.apart (team : Team lockKey sourceSystem world) {j : Nat} {other : Worker}
    (here : world.workers[i]? = some worker) (there : world.workers[j]? = some other) (apart : j ≠ i) :
    other.claim.leaseToken ≠ worker.claim.leaseToken := by
  intro same
  have bounded : j < (world.workers.map (fun worker => worker.claim.leaseToken)).length := by
    rw [List.length_map]
    exact (List.getElem?_eq_some_iff.mp there).1
  apply apart
  apply (List.getElem?_inj bounded team.tokens).mp
  rw [List.getElem?_map, List.getElem?_map, here, there]
  exact congrArg some same

theorem Team.step (team : Team lockKey sourceSystem world) (here : world.workers[i]? = some worker)
    (turn : Turn settings ucd world.store (world.locks (lockKey worker.sourceSystem)) worker.claim
      worker.stage effect) : Team lockKey sourceSystem (world.apply lockKey i worker effect) := by
  have source : worker.sourceSystem = sourceSystem := team.sources worker (List.mem_of_getElem? here)
  have freed_or : ∀ (freed : Bool), (effect.stage.inside = true → worker.stage.inside = true ∧ freed = false) →
      Guarded (freeLock lockKey world i worker freed) (lockKey sourceSystem)
        (fun worker => worker.stage.inside = true) (world.workers.set i (worker.took effect)) := by
    intro freed stays
    unfold freeLock
    cases freed with
    | false => exact team.guarded.set here (fun entered => (stays entered).1)
    | true =>
      rw [if_pos rfl, source]
      apply team.guarded.giveUp
      intro entered
      cases (stays entered).2
  refine ⟨?_, ?_, ?_⟩
  · intro other member
    rw [apply_workers] at member
    rcases List.mem_or_eq_of_mem_set member with old | rfl
    · exact team.sources other old
    · exact source
  · rw [apply_workers, List.map_set]
    have same : (world.workers.map (fun worker => worker.claim.leaseToken)).set i
        (worker.took effect).claim.leaseToken =
          world.workers.map (fun worker => worker.claim.leaseToken) := by
      apply List.ext_getElem?
      intro j
      rw [List.getElem?_set]
      split_ifs with equal bounded
      · subst equal
        rw [List.getElem?_map, here]
        rfl
      · subst equal
        symm
        rw [List.getElem?_eq_none_iff]
        omega
      · rfl
    rw [same]
    exact team.tokens
  · rw [apply_workers]
    cases turn with
    | moved next freed stays => exact freed_or freed stays
    | acquired waits free =>
      rw [source] at free
      change Guarded (world.locks.grant (lockKey worker.sourceSystem) i) _ _ _
      rw [source]
      exact team.guarded.grant free
    | beaten env leaseDuration next freed stays => exact freed_or freed stays
    | aborted env e freed => exact freed_or freed (by simp [Effect.stage, Stage.inside])
    | committed => exact freed_or false (by simp [Effect.stage, Stage.inside])

/-! ## What the workers know and have committed -/

theorem Adds.keys {store next : Store} {inserts : List SalesValues} (adds : Adds store next inserts) :
    next.factTable.facts.map SalesTransaction.key =
      store.factTable.facts.map SalesTransaction.key ++ inserts.map SalesValues.key := by
  have keyed : ∀ facts : List SalesTransaction,
      facts.map SalesTransaction.key = (facts.map SalesTransaction.values).map SalesValues.key := by
    intro facts
    rw [List.map_map]
    rfl
  rw [keyed, adds.facts, List.map_append, keyed]

structure Known (settings : Settings) (world : World) : Prop where
  rows : RowsDistinct world.store
  stands : ∀ (j : Nat) (worker : Worker), world.workers[j]? = some worker →
    Stands settings world.store worker.claim worker.stage
  stored : ∀ worker ∈ world.workers, ∀ values ∈ worker.inserted,
    values.key ∈ world.store.factTable.facts.map SalesTransaction.key
  keys : ∀ (j k : Nat) (first second : Worker), j ≠ k → world.workers[j]? = some first →
    world.workers[k]? = some second → ∀ values ∈ first.inserted, ∀ other ∈ second.inserted, values.key ≠ other.key

theorem Turn.rows {store : Store} {holder : Option Nat} {claim : SalesImportClaim} {stage : Stage}
    (turn : Turn settings ucd store holder claim stage effect) (rows : RowsDistinct store) :
    RowsDistinct (effect.after store) := by
  cases turn with
  | moved => exact rows
  | acquired => exact rows
  | beaten env leaseDuration => exact (heartbeat_renews settings ucd store _ _ leaseDuration env).rows rows
  | aborted => exact rows
  | committed env result next inserts holds running snapshot done adds later => exact later

/-- What is inserted is new, and stays. -/
theorem Turn.keys {store : Store} {holder : Option Nat} {claim : SalesImportClaim} {stage : Stage}
    (turn : Turn settings ucd store holder claim stage effect) :
    (effect.after store).factTable.facts.map SalesTransaction.key =
        store.factTable.facts.map SalesTransaction.key ++ effect.inserted.map SalesValues.key ∧
      ∀ values ∈ effect.inserted, values.key ∉ store.factTable.facts.map SalesTransaction.key := by
  cases turn with
  | moved => exact ⟨(List.append_nil _).symm, by simp [Effect.inserted]⟩
  | acquired => exact ⟨(List.append_nil _).symm, by simp [Effect.inserted]⟩
  | beaten env leaseDuration =>
    refine ⟨?_, by simp [Effect.inserted]⟩
    change (System.step settings ucd store _).factTable.facts.map _ = _
    rw [(heartbeat_renews settings ucd store _ _ leaseDuration env).facts]
    exact (List.append_nil _).symm
  | aborted => exact ⟨(List.append_nil _).symm, by simp [Effect.inserted]⟩
  | committed env result next inserts holds running snapshot done adds => exact ⟨adds.keys, adds.fresh⟩

/-- The other workers' knowledge survives a step. -/
theorem Turn.others (team : Team lockKey sourceSystem world) (here : world.workers[i]? = some worker)
    {holder : Option Nat} (turn : Turn settings ucd world.store holder worker.claim worker.stage effect)
    {j : Nat} {other : Worker} (there : world.workers[j]? = some other) (apart : j ≠ i)
    (stands : Stands settings world.store other.claim other.stage) :
    Stands settings (effect.after world.store) other.claim other.stage := by
  cases turn with
  | moved => exact stands
  | acquired => exact stands
  | beaten env leaseDuration =>
    exact stands.renewed (heartbeat_renews settings ucd world.store _ _ leaseDuration env)
      (team.apart here there apart)
  | aborted => exact stands
  | committed env result next inserts holds =>
    cases inside : other.stage.inside with
    | false => exact Stands.outside inside _
    | true => exact absurd (team.alone there here inside holds) apart

theorem Turn.own {store : Store} {holder : Option Nat} {claim : SalesImportClaim} {stage : Stage}
    (turn : Turn settings ucd store holder claim stage effect) :
    Stands settings (effect.after store) claim effect.stage := by
  cases turn with
  | moved next freed stays polls stands => exact stands
  | acquired => trivial
  | beaten env leaseDuration next freed stays polls stands => exact stands _
  | aborted => trivial
  | committed => trivial

theorem Known.step (known : Known settings world) (team : Team lockKey sourceSystem world)
    (here : world.workers[i]? = some worker) {holder : Option Nat}
    (turn : Turn settings ucd world.store holder worker.claim worker.stage effect) :
    Known settings (world.apply lockKey i worker effect) := by
  obtain ⟨grown, fresh⟩ := turn.keys
  have member := List.mem_of_getElem? here
  have before : ∀ other ∈ world.workers, ∀ values ∈ other.inserted,
      values.key ∈ (effect.after world.store).factTable.facts.map SalesTransaction.key := by
    intro other inside values listed
    rw [grown]
    exact List.mem_append_left _ (known.stored other inside values listed)
  have apart : ∀ k second, k ≠ i → world.workers[k]? = some second →
      ∀ values ∈ (worker.took effect).inserted, ∀ other ∈ second.inserted, values.key ≠ other.key := by
    intro k second differs there values listed other held same
    rcases List.mem_append.mp listed with old | new
    · exact known.keys i k worker second differs.symm here there values old other held same
    · apply fresh values new
      rw [same]
      exact known.stored second (List.mem_of_getElem? there) other held
  refine ⟨?_, ?_, ?_, ?_⟩
  · rw [apply_store]
    exact turn.rows known.rows
  · intro j other there
    rw [apply_workers] at there
    rw [apply_store]
    rcases getElem?_set_cases there with ⟨_, rfl⟩ | ⟨differs, kept⟩
    · exact turn.own
    · exact turn.others team here kept differs (known.stands j other kept)
  · intro other inside values listed
    rw [apply_workers] at inside
    rw [apply_store]
    rcases List.mem_or_eq_of_mem_set inside with old | rfl
    · exact before other old values listed
    · rcases List.mem_append.mp listed with old | new
      · exact before worker member values old
      · rw [grown]
        exact List.mem_append_right _ (List.mem_map_of_mem new)
  · intro j k first second differs there other
    rw [apply_workers] at there other
    rcases getElem?_set_cases there with ⟨firstHere, rfl⟩ | ⟨firstApart, firstKept⟩
    · rcases getElem?_set_cases other with ⟨secondHere, _⟩ | ⟨secondApart, secondKept⟩
      · exact absurd (firstHere.trans secondHere.symm) differs
      · exact apart k second secondApart secondKept
    · rcases getElem?_set_cases other with ⟨_, rfl⟩ | ⟨_, secondKept⟩
      · intro values listed later held same
        exact apart j first firstApart firstKept later held values listed same.symm
      · exact known.keys j k first second differs firstKept secondKept

end Team

end PharmaIntel.SourceLock
