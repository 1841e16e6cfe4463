import Mathlib
import PharmaIntel.FileCustody

/-! The reconciliation command: what it reports is what it did, and it passes over no upload
that it found unfinished unless it says so. -/

namespace PharmaIntel.Custody
open PharmaIntel.Base PharmaIntel.Models PharmaIntel.Queue PharmaIntel.Intake PharmaIntel.System PharmaIntel.Storage

/-! ## Settled intakes -/

def Known (store : Store) (pk : Uuid) : Prop := ∃ intake, findImport store pk = some intake

/-- The intake no longer waits for its file. -/
def Settled (store : Store) (pk : Uuid) : Prop :=
  ∃ intake, findImport store pk = some intake ∧ intake.status ≠ .receiving

theorem intakeStep_settled {scope : Scope} {intake next : SalesImport} (step : IntakeStep scope intake next)
    (finished : intake.status ≠ .receiving) : next.status ≠ .receiving := by
  cases step with
  | worked | enqueued => exact finished
  | received _ _ _ _ receiving => exact absurd receiving finished
  | abandoned _ _ _ receiving => exact absurd receiving finished
  | proven kmsKeyArn => exact (provenImport_status kmsKeyArn intake).symm ▸ finished
  | objectFailed failureCode now =>
    change (objectFailedImport failureCode now intake).status ≠ .receiving
    unfold objectFailedImport
    split_ifs
    · simp
    · exact finished

section Runs
variable {settings : Settings} {ucd : PyText.UnicodeDatabase} {store : Store} {pk : Uuid}

variable (settings ucd) in
theorem known_run (known : Known store pk) (events : List System.Event) :
    Known (run (afterCall (System.answer settings ucd)) store events) pk := by
  refine run_invariant (afterCall (System.answer settings ucd)) (fun _ => True) (fun store => Known store pk) ?_ store
    known events (fun _ _ => trivial)
  rintro before event _ ⟨intake, found⟩
  have moves := step_evolves settings ucd before event (within_all event) pk
  rw [found] at moves
  generalize reached : findImport (step settings ucd before event) pk = after at moves
  cases moves with
  | still => exact ⟨intake, reached⟩
  | moved _ next _ => exact ⟨next, reached⟩

theorem settled_run (settled : Settled store pk) (events : List System.Event) :
    Settled (run (afterCall (System.answer settings ucd)) store events) pk := by
  refine run_invariant (afterCall (System.answer settings ucd)) (fun _ => True) (fun store => Settled store pk) ?_ store
    settled events (fun _ _ => trivial)
  rintro before event _ ⟨intake, found, finished⟩
  have moves := step_evolves settings ucd before event (within_all event) pk
  rw [found] at moves
  generalize reached : findImport (step settings ucd before event) pk = after at moves
  cases moves with
  | still => exact ⟨intake, reached, finished⟩
  | moved _ next step => exact ⟨next, reached, intakeStep_settled step finished⟩

end Runs

/-! ## The transactions that settle an intake -/

section Transactions
variable {store : Store} {pk : Uuid} {now createdAt : Instant}

theorem enqueueImport_default (known : Known store pk) :
    ∃ job next, enqueueImport pk defaultMaxAttempts now createdAt store = .ok (job, next) := by
  obtain ⟨intake, found⟩ := known
  unfold enqueueImport
  rw [if_neg (by decide), found]
  exact ⟨_, _, rfl⟩

theorem known_updateImport (known : Known store pk) (change : SalesImport → SalesImport) (stable : Stable change) :
    Known (updateImport store pk change stable) pk := by
  obtain ⟨intake, found⟩ := known
  exact ⟨change intake, by rw [findImport_updateImport_same, found, Option.map_some]⟩

/-- An intake that is known but does not wait is settled. -/
theorem settled_of_refused (known : Known store pk)
    (refused : (findImport store pk).any (fun intake => intake.status = .receiving) ≠ true) : Settled store pk := by
  obtain ⟨intake, found⟩ := known
  rw [found, Option.any_some] at refused
  exact ⟨intake, found, fun waits => refused (decide_eq_true waits)⟩

theorem completeReceiving_settles {versionId : String} {value : SalesImportJob} {next : Store}
    (done : completeReceiving pk versionId now createdAt store = .ok (value, next)) : Settled next pk := by
  obtain ⟨version, intake, _, receiving, after, _, _⟩ := completeReceiving_ok done
  refine ⟨_, after, ?_⟩
  change (receivedImport version now intake).status ≠ .receiving
  rw [receivedImport, if_pos receiving]
  simp

theorem completeReceiving_refused {versionId : String} {e : PyError} (known : Known store pk)
    (named : PyText.strip versionId ≠ "")
    (failed : completeReceiving pk versionId now createdAt store = .error e) :
    isRuntimeError e = true ∧ Settled store pk := by
  unfold completeReceiving markReceived at failed
  rw [dif_neg named] at failed
  by_cases receiving : (findImport store pk).any (fun intake => intake.status = .receiving) = true
  · rw [if_pos receiving] at failed
    obtain ⟨job, next, enqueued⟩ := @enqueueImport_default _ _ now createdAt
      (known_updateImport known (receivedImport ⟨PyText.strip versionId, named⟩ now) (receivedImport_stable _ now))
    dsimp only at failed
    rw [enqueued] at failed
    cases failed
  · rw [if_neg receiving] at failed
    obtain rfl := Except.error.inj failed
    exact ⟨rfl, settled_of_refused known receiving⟩

theorem abandonReceiving_settles {failureCode : SalesImport.FailureCode} {value : SalesImportJob} {next : Store}
    (done : abandonReceiving pk failureCode now createdAt store = .ok (value, next)) : Settled next pk := by
  unfold abandonReceiving markFailed at done
  split at done
  · cases done
  · rename_i middle marked
    split_ifs at marked with coded receiving
    injection marked with same
    subst same
    obtain ⟨intake, found, status⟩ := Option.any_eq_true _ _ |>.mp receiving
    obtain ⟨_, after, located, rfl⟩ := enqueueImport_ok done
    rw [findImport_updateImport_same, found, Option.map_some, Option.some.injEq] at located
    subst located
    refine ⟨_, by rw [findImport_saveJob_same, findImport_updateImport_same, found]; rfl, ?_⟩
    change (failedImport failureCode now intake).status ≠ .receiving
    rw [failedImport, if_pos ⟨by simpa using status, coded⟩]
    simp

theorem abandonReceiving_refused {failureCode : SalesImport.FailureCode} {e : PyError} (known : Known store pk)
    (coded : failureCode ≠ .none) (failed : abandonReceiving pk failureCode now createdAt store = .error e) :
    isRuntimeError e = true ∧ Settled store pk := by
  unfold abandonReceiving markFailed at failed
  rw [if_neg coded] at failed
  by_cases receiving : (findImport store pk).any (fun intake => intake.status = .receiving) = true
  · rw [if_pos receiving] at failed
    obtain ⟨job, next, enqueued⟩ := @enqueueImport_default _ _ now createdAt
      (known_updateImport known (failedImport failureCode now) (failedImport_stable failureCode now))
    dsimp only at failed
    rw [enqueued] at failed
    cases failed
  · rw [if_neg receiving] at failed
    obtain rfl := Except.error.inj failed
    exact ⟨rfl, settled_of_refused known receiving⟩

end Transactions

/-! ## One intake -/

section Reconciling
variable {settings : Settings} {ucd : PyText.UnicodeDatabase} {pk : Uuid}

/-- The database refuses a transaction of its own accord only with its own errors. -/
def FaultyOnly (event : System.Event) : Prop := ∀ e, event.2.fault = some e → isDatabaseError e = true

variable (settings ucd) in
/-- The change of an intake that the call committed. -/
def settledBy (performed : Performed Call Environment Store) : Option (Uuid × Reconciled) :=
  match performed with
  | ⟨.completeReceiving pk versionId, env, store⟩ =>
      if (System.answer settings ucd env (.completeReceiving pk versionId) store).1.isOk then some (pk, .received)
      else none
  | ⟨.abandonReceiving pk failureCode, env, store⟩ =>
      if (System.answer settings ucd env (.abandonReceiving pk failureCode) store).1.isOk then some (pk, .failed)
      else none
  | _ => none

/-- What counts as settled by the command. -/
def isSettling (change : Uuid × Reconciled) : Bool := change.2 = .received || change.2 = .failed

variable (settings ucd) in
/-- The outcome for an intake tells what became of it. -/
def Reconciles (pk : Uuid) (checked : StorageCheck) (trace : List (Performed Call Environment Store))
    (outcome : Except PyError Reconciled) (store : Store) : Prop :=
  match outcome with
  | .error e => isDatabaseError e = true
  | .ok result => (result = .deferred ↔ checked = .unavailable) ∧ (result ≠ .deferred → Settled store pk) ∧
      trace.filterMap (settledBy settings ucd) = [(pk, result)].filter isSettling

theorem isDatabaseError_fault {e : PyError} (faulty : isDatabaseError e = true) : isRuntimeError e = false := by
  cases e with
  | integrityError | databaseError => rfl
  | _ => cases faulty

variable (settings ucd) in
/-- A transaction answers with a fault, with its own refusal or with its result. -/
theorem answer_cases (env : Environment) (c : Call) (store : Store) :
    (∃ e, env.fault = some e ∧ System.answer settings ucd env c store = (.error e, store)) ∨
      (∃ e, execute settings ucd env c store = .error e ∧
        System.answer settings ucd env c store = (.error e, store)) ∨
      ∃ reply next, execute settings ucd env c store = .ok (reply, next) ∧
        System.answer settings ucd env c store = (.ok reply, next) := by
  unfold System.answer
  cases env.fault with
  | some e => exact Or.inl ⟨e, rfl, rfl⟩
  | none =>
    cases execute settings ucd env c store with
    | error e => exact Or.inr (Or.inl ⟨e, rfl, rfl⟩)
    | ok result => exact Or.inr (Or.inr ⟨result.1, result.2, rfl, rfl⟩)

variable {own others : System.Event → Prop} {store final : Store} {trace : List (Performed Call Environment Store)}

theorem transact_ends {c : Call} {answered : Except PyError c.Reply}
    (session : Session (System.answer settings ucd) own others (transact c).run store trace answered final) :
    ∃ events env, own (c, env) ∧
      trace = [⟨c, env, run (afterCall (System.answer settings ucd)) store events⟩] ∧
      System.answer settings ucd env c (run (afterCall (System.answer settings ucd)) store events) =
        (answered, final) := by
  cases session with
  | call events env foreign mine later =>
    cases later
    exact ⟨events, env, mine, rfl, rfl⟩

/-- What `unlessFinished` makes of the answer to its transaction. -/
def unlessRuntime {γ : Type} (result : Reconciled) : Except PyError γ → Except PyError Reconciled
  | .ok _ => .ok result
  | .error e => if isRuntimeError e = true then .ok .skipped else .error e

theorem unlessFinished_ends {result : Reconciled} {transaction : Transaction SalesImportJob}
    {outcome : Except PyError Reconciled}
    (session : Session (System.answer settings ucd) own others (unlessFinished result transaction).run store trace
      outcome final) :
    ∃ answered, Session (System.answer settings ucd) own others transaction.run store trace answered final ∧
      outcome = unlessRuntime result answered := by
  obtain ⟨earlier, later, middle, inner, rfl, begun, ended⟩ := Session.bind session
  obtain ⟨first, second, between, answered, rfl, called, returned⟩ := Session.bind begun
  cases answered with
  | ok job =>
    cases returned
    cases ended
    rw [List.append_nil, List.append_nil]
    exact ⟨.ok job, called, rfl⟩
  | error e =>
    cases returned
    by_cases runtime : isRuntimeError e = true
    · dsimp only at ended
      rw [if_pos runtime] at ended
      cases ended
      rw [List.append_nil, List.append_nil]
      exact ⟨.error e, called, (if_pos runtime).symm⟩
    · dsimp only at ended
      rw [if_neg runtime] at ended
      cases ended
      rw [List.append_nil, List.append_nil]
      exact ⟨.error e, called, (if_neg runtime).symm⟩

/-- One settling transaction and how the command goes on from its answer. -/
theorem concluded_reconciles {c : Call} {env : Environment} {answered : Except PyError c.Reply} {result : Reconciled}
    (checked : StorageCheck) (reachable : checked ≠ .unavailable) (settling : isSettling (pk, result) = true)
    (healthy : FaultyOnly (c, env))
    (counted : settledBy settings ucd ⟨c, env, store⟩ =
      if (System.answer settings ucd env c store).1.isOk then some (pk, result) else none)
    (settles : ∀ reply next, execute settings ucd env c store = .ok (reply, next) → Settled next pk)
    (refused : ∀ e, execute settings ucd env c store = .error e → isRuntimeError e = true ∧ Settled store pk)
    (answers : System.answer settings ucd env c store = (answered, final)) :
    Reconciles settings ucd pk checked [⟨c, env, store⟩] (unlessRuntime result answered) final := by
  have kept : result ≠ .deferred := fun same => by
    rw [same] at settling
    cases settling
  rcases answer_cases settings ucd env c store with
    ⟨e, fault, same⟩ | ⟨e, failed, same⟩ | ⟨reply, next, done, same⟩
  · obtain ⟨rfl, rfl⟩ := Prod.mk.inj (same.symm.trans answers)
    have faulty := healthy e fault
    rw [unlessRuntime, isDatabaseError_fault faulty, if_neg (by decide)]
    exact faulty
  · rw [same] at counted
    obtain ⟨rfl, rfl⟩ := Prod.mk.inj (same.symm.trans answers)
    obtain ⟨runtime, settled⟩ := refused e failed
    rw [unlessRuntime, if_pos runtime]
    refine ⟨iff_of_false (by decide) reachable, fun _ => settled, ?_⟩
    rw [List.filterMap_cons_none counted, List.filterMap_nil]
    rfl
  · rw [same] at counted
    obtain ⟨rfl, rfl⟩ := Prod.mk.inj (same.symm.trans answers)
    refine ⟨iff_of_false kept reachable, fun _ => settles reply next done, ?_⟩
    rw [List.filterMap_cons_some counted, List.filterMap_nil, List.filter_cons_of_pos settling, List.filter_nil]

/-- A settling transaction, whatever the others did before it. -/
theorem reconcileImport_reconciles {checked : StorageCheck} {outcome : Except PyError Reconciled}
    (healthy : ∀ event, own event → FaultyOnly event) (known : Known store pk)
    (named : ∀ versionId, checked = .stored versionId → PyText.strip versionId ≠ "")
    (session : Session (System.answer settings ucd) own others (reconcileImport pk checked).run store trace outcome
      final) : Reconciles settings ucd pk checked trace outcome final := by
  cases checked with
  | unavailable =>
    cases session
    exact ⟨iff_of_true rfl rfl, fun kept => absurd rfl kept, rfl⟩
  | stored versionId =>
    obtain ⟨answered, called, rfl⟩ := unlessFinished_ends session
    obtain ⟨events, env, mine, rfl, answers⟩ := transact_ends (c := .completeReceiving pk versionId) called
    refine concluded_reconciles (.stored versionId) (by simp) rfl (healthy _ mine) rfl
      (fun _ _ done => completeReceiving_settles done)
      (fun _ failed => completeReceiving_refused (known_run settings ucd known events) (named versionId rfl) failed)
      answers
  | notFound =>
    obtain ⟨answered, called, rfl⟩ := unlessFinished_ends session
    obtain ⟨events, env, mine, rfl, answers⟩ := transact_ends (c := .abandonReceiving pk .objectMissing) called
    exact concluded_reconciles .notFound (by decide) rfl (healthy _ mine) rfl
      (fun _ _ done => abandonReceiving_settles done)
      (fun _ failed => abandonReceiving_refused (known_run settings ucd known events) (by decide) failed) answers
  | verificationFailed =>
    obtain ⟨answered, called, rfl⟩ := unlessFinished_ends session
    obtain ⟨events, env, mine, rfl, answers⟩ := transact_ends (c := .abandonReceiving pk .verificationFailed) called
    exact concluded_reconciles .verificationFailed (by decide) rfl (healthy _ mine) rfl
      (fun _ _ done => abandonReceiving_settles done)
      (fun _ failed => abandonReceiving_refused (known_run settings ucd known events) (by decide) failed) answers

end Reconciling

/-! ## The whole command -/

section Command
variable {σ ι β : Type} {answer : ι → (c : S3Call) → σ → c.Answer β × σ} {settings : Settings}
  {ucd : PyText.UnicodeDatabase} {own others : (S3Call ⊕ Call) × (ι × Environment) → Prop} {state final : σ × Store}
  {trace : List (Performed (S3Call ⊕ Call) (ι × Environment) (σ × Store))}

variable (settings ucd) in
/-- The changes of intakes that a command committed, in order. -/
def settledChanges (trace : List (Performed (S3Call ⊕ Call) (ι × Environment) (σ × Store))) :
    List (Uuid × Reconciled) :=
  (trace.filterMap Performed.atSecond).filterMap (settledBy settings ucd)

theorem settledChanges_append (first second : List (Performed (S3Call ⊕ Call) (ι × Environment) (σ × Store))) :
    settledChanges settings ucd (first ++ second) =
      settledChanges settings ucd first ++ settledChanges settings ucd second := by
  rw [settledChanges, settledChanges, settledChanges, List.filterMap_append, List.filterMap_append]

/-- A version that passed the check has a name. -/
theorem verifyStored_named {request : VersionRequest} {start last : σ} {calls : List (Performed S3Call ι σ)}
    {versionId : String}
    (session : Session answer (fun _ => True) (fun _ => True) (verifyStored request) start calls (.ok versionId) last) :
    PyText.strip versionId ≠ "" := by
  obtain ⟨_, stored, _, _, _, _, _, validated⟩ := verifyStored_validates session
  obtain ⟨same, named, _⟩ := validated.version
  rwa [PyText.strip_of_stripped (same ▸ PyText.strip_stripped _)]

theorem inStorage_ends {α : Type} {program : S3Program β α} {outcome : Except PyError α}
    (session : Session (services answer settings ucd) own others (inStorage program).run state trace outcome final) :
    ∃ value, outcome = .ok value ∧ trace.filterMap Performed.atSecond = [] ∧
      (∃ events, final.2 = run (afterCall (System.answer settings ucd)) state.2 events) ∧
      ∃ calls, Session answer (fun _ => True) (fun _ => True) program state.1 calls value final.1 := by
  obtain ⟨first, second, middle, value, rfl, called, ended⟩ := Session.bind session
  obtain ⟨unseen, ⟨events, _, reached⟩, calls, alone⟩ := Session.ofFirst called
  cases ended
  exact ⟨value, rfl, by rw [List.append_nil, unseen], ⟨events, reached⟩, calls, alone⟩

/-- The check of an intake changes nothing in the database, and names the version that it reports. -/
theorem checkedInStorage_ends {intake : SalesImport} {outcome : Except PyError StorageCheck}
    (session : Session (services answer settings ucd) own others (checkedInStorage intake).run state trace outcome
      final) :
    ∃ checked, outcome = .ok checked ∧ trace.filterMap Performed.atSecond = [] ∧
      (∃ events, final.2 = run (afterCall (System.answer settings ucd)) state.2 events) ∧
      ∀ versionId, checked = .stored versionId → PyText.strip versionId ≠ "" := by
  obtain ⟨first, second, middle, _, rfl, checking, ended⟩ := Session.bind session
  obtain ⟨checked, rfl, unseen, reached, _, verified⟩ := inStorage_ends checking
  cases ended
  refine ⟨storageCheck checked, rfl, by rw [List.append_nil, unseen], reached, ?_⟩
  intro versionId stored
  cases checked with
  | error failure => cases failure <;> cases stored
  | ok found =>
    obtain rfl := StorageCheck.stored.inj stored
    exact verifyStored_named verified

/-- One intake after another: what the later ones do leaves the earlier ones settled. -/
theorem reconcileEach_ends (healthy : ∀ event, OnSecond own event → FaultyOnly event) (imports : List SalesImport)
    {outcome : Except PyError (List Reconciled)} (known : ∀ intake ∈ imports, Known state.2 intake.id)
    (session : Session (services answer settings ucd) own others
      (reconcileEach inDatabase checkedInStorage imports : FileProgram β (List Reconciled)).run state trace outcome
        final) :
    match outcome with
    | .error e => isDatabaseError e = true
    | .ok results =>
        List.Forall₂ (fun intake result => result ≠ .deferred → Settled final.2 intake.id) imports results ∧
          settledChanges settings ucd trace = ((imports.map SalesImport.id).zip results).filter isSettling := by
  induction imports generalizing state trace outcome final with
  | nil =>
    cases session
    exact ⟨.nil, rfl⟩
  | cons intake rest ih =>
    obtain ⟨first, more, middle, _, rfl, checking, reconciling⟩ := Session.bind session
    obtain ⟨checked, rfl, unseen, ⟨before, reached⟩, named⟩ := checkedInStorage_ends checking
    obtain ⟨second, third, between, reconciled, rfl, mine, others⟩ := Session.bind reconciling
    have here := Session.ofSecond mine
    have later := known_run settings ucd (known intake List.mem_cons_self) before
    rw [← reached] at later
    have reconciles := reconcileImport_reconciles healthy later named here
    cases reconciled with
    | error e =>
      cases others
      exact reconciles
    | ok result =>
      obtain ⟨_, settled, counted⟩ := reconciles
      obtain ⟨fourth, last, after, results, rfl, rested, ended⟩ := Session.bind others
      obtain ⟨events, onward⟩ := (Session.reached here).2
      have onwards : ∀ other ∈ rest, Known between.2 other.id := by
        intro other member
        rw [onward, reached]
        have standing := known_run settings ucd (known other (List.mem_cons_of_mem _ member)) before
        exact known_run settings ucd standing events
      have ends := ih onwards rested
      cases results with
      | error e =>
        cases ended
        exact ends
      | ok results =>
        cases ended
        obtain ⟨settledLater, countedLater⟩ := ends
        obtain ⟨afterwards, ended⟩ := (Session.reached rested).2
        refine ⟨.cons (fun kept => ?_) settledLater, ?_⟩
        · rw [ended, services, run_beside_second]
          exact settled_run (settled kept) _
        · rw [settledChanges_append, settledChanges_append, List.append_nil, settledChanges, unseen, List.filterMap_nil,
            List.nil_append, countedLater]
          exact (congrArg (· ++ ((rest.map SalesImport.id).zip results).filter isSettling) counted).trans
            (List.filter_append [(intake.id, result)] _).symm

/-- The intakes that wait for their file since before the cutoff, oldest first. -/
def unfinishedBefore (cutoff : Instant) (store : Store) : List SalesImport :=
  (store.importTable.imports.filter (fun intake =>
    intake.status = .receiving && decide (intake.createdAt < cutoff))).mergeSort
      (fun first second => first.createdAt ≤ second.createdAt)

/-- The end of the command, once every intake is done. -/
theorem report_ends {results : List Reconciled} {outcome : Except PyError String}
    (session : Session (services answer settings ucd) own others
      (if 0 < results.count .deferred then throw (.commandError (reconciliationSummary results ++
          " S3 could not be reached; run reconciliation again after storage recovers."))
        else return reconciliationSummary results : FileProgram β String).run state trace outcome final) :
    trace = [] ∧ final = state ∧ outcome = if .deferred ∈ results then
        .error (.commandError (reconciliationSummary results ++
          " S3 could not be reached; run reconciliation again after storage recovers."))
      else .ok (reconciliationSummary results) := by
  by_cases deferred : .deferred ∈ results
  · rw [if_pos (List.count_pos_iff.mpr deferred)] at session
    cases session
    exact ⟨rfl, rfl, (if_pos deferred).symm⟩
  · rw [if_neg (List.count_pos_iff.not.mpr deferred)] at session
    cases session
    exact ⟨rfl, rfl, (if_neg deferred).symm⟩

end Command

namespace Sample

def draft : IntakeDraft := request.created Storage.Sample.storage PyText.asciiDatabase "sales.csv"

/-- An upload has put its file and stops; another begins within the grace period. -/
def interrupted : List ((S3Call ⊕ Call) × (Unit × Environment)) :=
  [(.inr (.createImport draft), ((), System.Sample.environment 5 0 0)),
    (.inl (.putObject (request.upload.object Storage.Sample.storage "ungWv48Bz+pBQUDeXa4iI7ADYaOWF3qctBD/YfIAFa0="
      Storage.Sample.abc)), ((), System.Sample.environment 6 0 0)),
    (.inr (.createImport { draft with id := 4, sourceSystem := "CRM", storageKey := "later" }),
      ((), System.Sample.environment 50000000 0 0))]

def moves : List (List ((S3Call ⊕ Call) × (Unit × Environment)) × (Unit × Environment)) :=
  (interrupted, ((), System.Sample.environment 100000001 0 0)) ::
    List.replicate 2 ([], ((), System.Sample.environment 100000002 0 0))

/-- What a look at the unfinished intakes finds. -/
def found {σ : Type} (performed : Performed (S3Call ⊕ Call) (Unit × Environment) (σ × Store)) : Option (List Uuid) :=
  match performed.call with
  | .inr (.findUnfinishedImports cutoff) =>
      some ((unfinishedBefore cutoff performed.before.2).map (fun intake => intake.id))
  | _ => none

end Sample

end PharmaIntel.Custody
