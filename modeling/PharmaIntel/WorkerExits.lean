import Mathlib
import PharmaIntel.Base.Session
import PharmaIntel.Fencing
import PharmaIntel.Overlap
import PharmaIntel.StagedFile
import PharmaIntel.Storable

/-! How `process_claim` ends while other workers go on: their calls may let the claim's
lease expire, take the job over and finish it between any two of its transactions. -/

namespace PharmaIntel.System
open PharmaIntel.Base PharmaIntel.Models PharmaIntel.Constraints PharmaIntel.Queue PharmaIntel.Intake
  PharmaIntel.Publication

/-! ## The claim among other workers -/

/-- A call of another worker: it knows and draws other tokens, and stages some file. -/
structure Foreign (claim : SalesImportClaim) (event : Event) : Prop where
  lease : event.1.lease ≠ some (claim.jobId, claim.leaseToken)
  token : drawnToken event ≠ some claim.leaseToken
  staged : StagedBatches [event]

/-- The claim's attempt runs under the job's lease and has staged these rows. -/
structure Holding (claim : SalesImportClaim) (rows : List SalesImportStagedRow) (job : SalesImportJob) :
    Prop where
  token : job.leaseToken = some claim.leaseToken
  attempt : ∃ past last, job.attempts = past ++ [last] ∧ last.id = claim.attemptId ∧
    last.leaseToken = claim.leaseToken ∧ last.outcome = .running ∧ last.stagedRows = rows

/-- The job is no longer leased to the claim, or its attempt still runs. -/
def Standing (claim : SalesImportClaim) (rows : List SalesImportStagedRow) (job : SalesImportJob) : Prop :=
  job.leaseToken ≠ some claim.leaseToken ∨ Holding claim rows job

/-- What the worker can rely on before each of its calls. -/
structure Keeps (claim : SalesImportClaim) (rows : List SalesImportStagedRow) (store : Store) : Prop where
  sound : ∀ pk job, findJob store pk = some job → JobInvariant job
  job : ∃ job, findJob store claim.jobId = some job ∧ Standing claim rows job

/-- A job of a call without a lease: no batch is recorded for it. -/
def unleased (token : Uuid) : Scope := ⟨fun _ => False, fun _ => True, fun drawn => drawn ≠ token⟩

section Steps
variable {claim : SalesImportClaim} {rows later : List SalesImportStagedRow} {intake : SalesImport}
  {job next : SalesImportJob}

/-- A change of the claim's attempt that leaves it running. -/
theorem holding_save {leaseToken : Uuid} {now : Instant} {attempt changed : SalesImportAttempt}
    {changedJob : SalesImportJob} (invariants : JobInvariant job)
    (lease : HoldsLease job leaseToken now attempt) (holding : Holding claim rows job)
    (kept : changedJob.attempts = job.attempts ∧ changedJob.leaseToken = job.leaseToken)
    (same : changed.id = attempt.id ∧ changed.leaseToken = attempt.leaseToken ∧
      changed.outcome = attempt.outcome)
    (staged : attempt.stagedRows = rows → changed.stagedRows = later) :
    Holding claim later (saveAttempt changedJob changed) := by
  obtain ⟨past, whole, closed, held, number⟩ := invariants.last lease
  obtain ⟨earlier, last, split, id, lastToken, running, lastRows⟩ := holding.attempt
  obtain ⟨rfl, equal⟩ := List.append_inj' (whole.symm.trans split) rfl
  obtain rfl := List.singleton_injective equal
  have after : (saveAttempt changedJob changed).attempts = past ++ [changed] :=
    saveAttempt_last (kept.1 ▸ invariants.ids) (kept.1.trans whole) same.1
  exact ⟨kept.2.trans holding.token, past, changed, after, same.1.trans id, same.2.1.trans lastToken,
    same.2.2.trans running, staged lastRows⟩

/-- A step of a call without a lease ends the claim's lease or leaves its attempt alone. -/
theorem jobStep_standing (step : JobStep (unleased claim.leaseToken) intake job next)
    (invariants : JobInvariant job) (standing : Standing claim rows job) : Standing claim rows next := by
  by_cases held : next.leaseToken = some claim.leaseToken
  · have token := jobStep_token (fun _ => id) step held
    have holding := standing.resolve_left (not_not.mpr token)
    right
    cases step with
    | waited now =>
      unfold advanceWaitingJob
      split_ifs <;> exact ⟨holding.token, holding.attempt⟩
    | requeued | exhausted => cases held
    | claimed workerId now expiry draw released due left release within =>
      exact absurd (Option.some.inj held) within
    | renewed leaseToken now expiry attempt lease =>
      exact holding_save invariants lease holding ⟨rfl, rfl⟩ ⟨rfl, rfl, rfl⟩ id
    | phased leaseToken now attempt phase lease =>
      exact holding_save invariants lease holding ⟨rfl, rfl⟩ ⟨rfl, rfl, rfl⟩ id
    | parsed leaseToken now expiry attempt batch lease within => exact within.elim
    | retried leaseToken now attempt errorCode errorMessage delay lease =>
      change (retriedJob job errorCode errorMessage now delay).leaseToken = _ at held
      unfold retriedJob at held
      split_ifs at held <;> cases held
    | finished => cases held
  · exact Or.inl held

end Steps

section Runs
variable {settings : Settings} {ucd : PyText.UnicodeDatabase} {claim : SalesImportClaim}
  {rows : List SalesImportStagedRow}

theorem sound_step {store : Store} {event : Event} (staged : StagedBatches [event])
    (sound : ∀ pk job, findJob store pk = some job → JobInvariant job) :
    ∀ pk job, findJob (step settings ucd store event) pk = some job → JobInvariant job :=
  (step_evolves settings ucd store event (staged_within staged event List.mem_cons_self)).jobs
    (fun _ _ => newJob_invariant) (fun _ _ _ _ => jobStep_invariant (fun _ => id)) sound

theorem foreign_without {event : Event} (foreign : Foreign claim event) :
    event.Within (without claim.leaseToken) := by
  obtain ⟨c, env⟩ := event
  cases c with
  | claimJob workerId leaseDuration => exact fun same => foreign.token (congrArg some same)
  | _ => trivial

theorem foreign_unleased {event : Event} (foreign : Foreign claim event) (free : event.1.lease = none) :
    event.Within (unleased claim.leaseToken) := by
  obtain ⟨c, env⟩ := event
  cases c with
  | claimJob workerId leaseDuration => exact fun same => foreign.token (congrArg some same)
  | recordParseBatch other batch => cases free
  | _ => trivial

/-- Other workers can end the claim's lease, but not use it. -/
theorem foreign_keeps : Undisturbed (answer settings ucd) (Foreign claim) (Keeps claim rows) := by
  intro store event foreign keeps
  change Keeps claim rows (step settings ucd store event)
  refine ⟨sound_step foreign.staged keeps.sound, ?_⟩
  obtain ⟨job, found, standing⟩ := keeps.job
  have invariants := keeps.sound _ job found
  cases presents : event.1.lease with
  | none =>
    obtain ⟨after, located, rfl | ⟨intake, stepped⟩⟩ :=
      (step_evolves settings ucd store event (foreign_unleased foreign presents)).job found
    · exact ⟨after, located, standing⟩
    · exact ⟨after, located, jobStep_standing stepped invariants standing⟩
  | some lease =>
    obtain ⟨jobId, leaseToken⟩ := lease
    rcases step_cases settings ucd store event with same | ⟨reply, done⟩
    · rw [same]
      exact ⟨job, found, standing⟩
    · obtain ⟨reached⟩ := execute_leased presents done
      by_cases here : jobId = claim.jobId
      · subst here
        have apart : leaseToken ≠ claim.leaseToken := by
          rintro rfl
          exact foreign.lease presents
        obtain rfl : reached.job = job := Option.some.inj (reached.found.symm.trans found)
        have lost : reached.job.leaseToken ≠ some claim.leaseToken := by
          rw [reached.lease.token]
          exact fun same => apart (Option.some.inj same)
        obtain ⟨after, located, rfl | ⟨intake, stepped⟩⟩ :=
          (step_evolves settings ucd store event (foreign_without foreign)).job found
        · exact ⟨_, located, standing⟩
        · exact ⟨after, located, Or.inl (fun held => lost (jobStep_token (fun _ => id) stepped held))⟩
      · refine ⟨job, ?_, standing⟩
        rw [findJob, reached.elsewhere _ (Ne.symm here)]
        exact found

/-- The job is no longer leased to the claim. -/
def LeaseLost (claim : SalesImportClaim) (store : Store) : Prop :=
  ∀ pk job, findJob store pk = some job → pk = claim.jobId → job.leaseToken ≠ some claim.leaseToken

theorem foreign_lost : Undisturbed (answer settings ucd) (Foreign claim) (LeaseLost claim) := by
  intro store event foreign lost
  refine (step_evolves settings ucd store event (foreign_without foreign)).jobs ?_ ?_ lost
  · intro pk job isNew _
    simp [(newJob_attempts isNew).2]
  · exact fun pk intake job next step before here held => before here (jobStep_token (fun _ => id) step held)

def Present (claim : SalesImportClaim) (store : Store) : Prop := ∃ job, findJob store claim.jobId = some job

theorem foreign_present : Undisturbed (answer settings ucd) (Foreign claim) (Present claim) := by
  rintro store event _ ⟨job, found⟩
  obtain ⟨after, located, _⟩ := (step_evolves settings ucd store event (within_all event)).job found
  exact ⟨after, located⟩

/-! ## The worker's own transactions -/

def IsLost (e : PyError) : Prop := ∃ message, e = .claimLost message

theorem fenced_error {α : Type} {store : Store} {jobId leaseToken : Uuid} {now : Instant} {e : PyError}
    {body : SalesImportJob → SalesImportAttempt → Outcome α}
    (sound : ∀ pk job, findJob store pk = some job → JobInvariant job)
    (failed : fenced jobId leaseToken now store body = .error e) :
    IsLost e ∨ ∃ job attempt, lockedLiveClaim jobId leaseToken now store = .ok (job, attempt) ∧
      body job attempt = .error e := by
  unfold fenced at failed
  cases locked : lockedLiveClaim jobId leaseToken now store with
  | ok pair =>
    rw [locked] at failed
    exact Or.inr ⟨pair.1, pair.2, rfl, failed⟩
  | error other =>
    rw [locked] at failed
    obtain rfl := Except.error.inj failed
    unfold lockedLiveClaim at locked
    split at locked
    · exact Or.inl ⟨_, (Except.error.inj locked).symm⟩
    · rename_i job filtered
      obtain ⟨found, conditions⟩ := Option.filter_eq_some_iff.mp filtered
      simp only [Bool.and_eq_true, decide_eq_true_eq] at conditions
      split at locked
      · rename_i missing
        cases (sound jobId job found).leases with
        | idle status => exact absurd conditions.1.1 status
        | leased past last status whole closed running token =>
          have here := List.find?_eq_none.mp missing last (by simp [whole])
          have same : last.leaseToken = leaseToken := Option.some.inj (token.symm.trans conditions.1.2)
          simp [same, running] at here
      · cases locked

theorem Keeps.live {store : Store} {now : Instant} {job : SalesImportJob} {attempt : SalesImportAttempt}
    (keeps : Keeps claim rows store) (live : LiveClaim store claim.jobId claim.leaseToken now job attempt) :
    JobInvariant job ∧ Holding claim rows job ∧ attempt.id = claim.attemptId ∧ attempt.stagedRows = rows := by
  obtain ⟨other, found, standing⟩ := keeps.job
  obtain rfl : other = job := Option.some.inj (found.symm.trans live.found)
  have invariants := keeps.sound _ other found
  have holding := standing.resolve_left (not_not.mpr live.token)
  obtain ⟨past, whole, _⟩ := invariants.last live.toHoldsLease
  obtain ⟨earlier, last, split, id, _, _, staged⟩ := holding.attempt
  obtain ⟨_, equal⟩ := List.append_inj' (whole.symm.trans split) rfl
  obtain rfl := List.singleton_injective equal
  exact ⟨invariants, holding, id, staged⟩

theorem Keeps.saved {store next : Store} {now : Instant} {job changedJob : SalesImportJob}
    {attempt changed : SalesImportAttempt} {later : List SalesImportStagedRow}
    (keeps : Keeps claim rows store) (live : LiveClaim store claim.jobId claim.leaseToken now job attempt)
    (done : next = saveJob store claim.jobId (saveAttempt changedJob changed))
    (kept : changedJob.attempts = job.attempts ∧ changedJob.leaseToken = job.leaseToken)
    (same : changed.id = attempt.id ∧ changed.leaseToken = attempt.leaseToken ∧
      changed.outcome = attempt.outcome)
    (staged : attempt.stagedRows = rows → changed.stagedRows = later)
    (sound : ∀ pk job, findJob next pk = some job → JobInvariant job) : Keeps claim later next := by
  obtain ⟨invariants, holding, _⟩ := keeps.live live
  obtain ⟨intake, located, _⟩ := findJob_import live.found
  subst done
  exact ⟨sound, _, findJob_saveJob_same located _,
    Or.inr (holding_save invariants live.toHoldsLease holding kept same staged)⟩

theorem execute_sound {env : Environment} {c : Call} {store next : Store} {reply : c.Reply}
    (staged : StagedBatches [(c, env)]) (sound : ∀ pk job, findJob store pk = some job → JobInvariant job)
    (done : execute settings ucd env c store = .ok (reply, next)) :
    ∀ pk job, findJob next pk = some job → JobInvariant job :=
  (execute_evolves (staged_within staged (c, env) List.mem_cons_self) done).jobs
    (fun _ _ => newJob_invariant) (fun _ _ _ _ => jobStep_invariant (fun _ => id)) sound

end Runs

/-! ## The exits -/

def Call.writesRecords : Call → Bool
  | .recordParseBatch _ _ | .publishOnce _ => true
  | _ => false

/-- The database does not fail, though it may refuse records that its columns cannot hold. -/
def Undisrupted (event : Event) : Prop :=
  ∀ e, event.2.fault = some e → event.1.writesRecords = true ∧ isDatabaseError e = true

/-- The transactions of one worker. -/
abbrev Trace := List (Performed Call Environment Store)

/-- Whenever the worker fails the stored object, it finds the intake still received. -/
def Unspoiled (claim : SalesImportClaim) (trace : Trace) : Prop :=
  ∀ performed ∈ trace, ∀ failureCode errorCode errorMessage,
    performed.call = .completeStoredObjectFailure claim failureCode errorCode errorMessage →
      ∃ intake, findImport performed.before claim.jobId = some intake ∧ intake.status = .received

theorem unspoiled_append (claim : SalesImportClaim) (before after : Trace) :
    Unspoiled claim (before ++ after) ↔ Unspoiled claim before ∧ Unspoiled claim after := by
  simp only [Unspoiled, List.mem_append, or_imp, forall_and]

theorem unspoiled_single (claim : SalesImportClaim) {c : Call} (env : Environment) (store : Store)
    (other : ∀ failureCode errorCode errorMessage,
      c ≠ .completeStoredObjectFailure claim failureCode errorCode errorMessage) :
    Unspoiled claim [⟨c, env, store⟩] := by
  intro performed member failureCode errorCode errorMessage same
  rw [List.mem_singleton.mp member] at same
  exact absurd same (other failureCode errorCode errorMessage)

section Rules
variable (settings : Settings) (ucd : PyText.UnicodeDatabase) (claim : SalesImportClaim)

/-- The transaction that ended the worker's lease gave the job this status. -/
def Committed (status : SalesImportJob.Status) (trace : Trace) : Prop :=
  ∃ performed ∈ trace, performed.call.lease = some (claim.jobId, claim.leaseToken) ∧ ∃ job,
    findJob (answer settings ucd performed.input performed.call performed.before).2 claim.jobId = some job ∧
      job.status = status ∧ status ≠ .processing

/-- A part of the worker that meets no spoiled intake: what its trace, its value or its
exception and the final store satisfy. -/
def Worked {α : Type} (P : Store → Prop) (program : Transaction α) (V : Trace → α → Store → Prop)
    (E : PyError → Store → Prop) : Prop :=
  Meets (answer settings ucd) Undisrupted (Foreign claim) P program (fun trace outcome store =>
    Unspoiled claim trace ∧ match outcome with
      | .ok value => V trace value store
      | .error e => E e store)

/-- The exceptions that `process_claim` turns into a retry, or a lost claim. -/
def Interrupted (e : PyError) (store : Store) : Prop :=
  IsLost e ∨ isDatabaseError e = true ∧ ∃ rows, Keeps claim rows store

variable {settings ucd claim} {α β : Type} {P : Store → Prop} {V : Trace → α → Store → Prop}
  {E : PyError → Store → Prop}

theorem committed_append {status : SalesImportJob.Status} (before : Trace) {after : Trace}
    (committed : Committed settings ucd claim status after) :
    Committed settings ucd claim status (before ++ after) := by
  obtain ⟨performed, member, facts⟩ := committed
  exact ⟨performed, List.mem_append_right before member, facts⟩

theorem committed_prepend {status : SalesImportJob.Status} {before : Trace} (after : Trace)
    (committed : Committed settings ucd claim status before) :
    Committed settings ucd claim status (before ++ after) := by
  obtain ⟨performed, member, facts⟩ := committed
  exact ⟨performed, List.mem_append_left after member, facts⟩

theorem worked_pure {value : α} (holds : ∀ store, P store → V [] value store) :
    Worked settings ucd claim P (pure value) V E :=
  meets_pure (fun store before => ⟨by simp [Unspoiled], holds store before⟩)

theorem worked_throw {e : PyError} (holds : ∀ store, P store → E e store) :
    Worked settings ucd claim P (throw e) V E :=
  meets_throw (fun store before => ⟨by simp [Unspoiled], holds store before⟩)

theorem Worked.imp {program : Transaction α} {S : Store → Prop} {V' : Trace → α → Store → Prop}
    {E' : PyError → Store → Prop} (worked : Worked settings ucd claim P program V E)
    (stronger : ∀ store, S store → P store) (values : ∀ trace value store, V trace value store →
      V' trace value store) (errors : ∀ e store, E e store → E' e store) :
    Worked settings ucd claim S program V' E' := by
  refine Meets.imp worked stronger ?_
  rintro trace outcome store ⟨unspoiled, holds⟩
  refine ⟨unspoiled, ?_⟩
  cases outcome with
  | ok value => exact values trace value store holds
  | error e => exact errors e store holds

theorem worked_bind {program : Transaction α} {f : α → Transaction β} {T : α → Trace → β → Store → Prop}
    {W : Trace → β → Store → Prop} (first : Worked settings ucd claim P program V E)
    (second : ∀ value, Worked settings ucd claim (fun store => ∃ trace, V trace value store) (f value)
      (T value) E)
    (joined : ∀ before value middle trace result store, V before value middle → T value trace result store →
      W (before ++ trace) result store) :
    Worked settings ucd claim P (program >>= f) W E := by
  refine meets_bind first (fun value => ?_) ?_ ?_ (S := fun value trace outcome store =>
    Unspoiled claim trace ∧ match outcome with
      | .ok result => T value trace result store
      | .error e => E e store)
  · refine Meets.imp (second value) ?_ (fun _ _ _ reached => reached)
    rintro store ⟨trace, _, holds⟩
    exact ⟨trace, holds⟩
  · exact fun _ _ _ failed => failed
  · rintro before value middle trace outcome store ⟨clean, reached⟩ ⟨later, holds⟩
    refine ⟨(unspoiled_append claim before trace).mpr ⟨clean, later⟩, ?_⟩
    cases outcome with
    | ok result => exact joined before value middle trace result store reached holds
    | error e => exact holds

/-- A call of the worker that is not the failure of its stored object. -/
theorem worked_call {c : Call} {V : Trace → c.Reply → Store → Prop}
    (other : ∀ failureCode errorCode errorMessage,
      c ≠ .completeStoredObjectFailure claim failureCode errorCode errorMessage)
    (undisturbed : Undisturbed (answer settings ucd) (Foreign claim) P)
    (done : ∀ env store reply next, P store → answer settings ucd env c store = (.ok reply, next) →
      V [⟨c, env, store⟩] reply next)
    (failed : ∀ env store e, P store → execute settings ucd env c store = .error e → E e store)
    (refused : c.writesRecords = true → ∀ e store, P store → isDatabaseError e = true → E e store) :
    Worked settings ucd claim P (transact c) V E := by
  refine meets_request undisturbed ?_
  intro store env mine before
  refine ⟨unspoiled_single claim env store other, ?_⟩
  cases outcome : (answer settings ucd env c store).1 with
  | ok reply => exact done env store reply _ before (Prod.ext outcome rfl)
  | error e =>
    rw [answer_error settings ucd outcome]
    unfold answer at outcome
    cases fault : env.fault with
    | some raised =>
      rw [fault] at outcome
      obtain rfl := Except.error.inj outcome
      obtain ⟨writes, database⟩ := mine raised fault
      exact refused writes raised store before database
    | none =>
      rw [fault] at outcome
      cases result : execute settings ucd env c store with
      | ok pair => simp [result] at outcome
      | error raised =>
        rw [result] at outcome
        obtain rfl := Except.error.inj outcome
        exact failed env store raised before result

/-- Nothing that is stated of the trace is lost by what was performed before. -/
theorem worked_then {program : Transaction α} {f : α → Transaction β} {W : Trace → β → Store → Prop}
    (first : Worked settings ucd claim P program V E)
    (second : ∀ value, Worked settings ucd claim (fun store => ∃ trace, V trace value store) (f value) W E)
    (extend : ∀ before trace result store, W trace result store → W (before ++ trace) result store) :
    Worked settings ucd claim P (program >>= f) W E :=
  worked_bind first second (fun before _ _ trace result store _ => extend before trace result store)

theorem worked_eachOf {body : β → Transaction Unit} {items : List β} {I : List β → Store → Prop}
    (each : ∀ past item rest, past ++ item :: rest = items →
      Worked settings ucd claim (I past) (body item) (fun _ _ => I (past ++ [item])) E) :
    Worked settings ucd claim (I []) (eachOf body items) (fun _ _ => I items) E := by
  have suffix : ∀ rest past, past ++ rest = items →
      Worked settings ucd claim (I past) (eachOf body rest) (fun _ _ => I items) E := by
    intro rest
    induction rest with
    | nil =>
      intro past whole
      rw [List.append_nil] at whole
      subst whole
      exact worked_pure (fun _ holds => holds)
    | cons item rest ih =>
      intro past whole
      refine worked_then (each past item rest whole) (fun _ => ?_) (fun _ _ _ _ holds => holds)
      refine (ih (past ++ [item]) (by simpa using whole)).imp ?_ (fun _ _ _ holds => holds) (fun _ _ failed => failed)
      rintro store ⟨_, holds⟩
      exact holds
  exact suffix items [] rfl

theorem worked_tryCatch {program : Transaction α} {handler : PyError → Transaction α}
    {V' : PyError → Trace → α → Store → Prop} {W : Trace → α → Store → Prop} {E' : PyError → Store → Prop}
    (first : Worked settings ucd claim P program V E)
    (second : ∀ e, Worked settings ucd claim (E e) (handler e) (V' e) E')
    (values : ∀ trace value store, V trace value store → W trace value store)
    (joined : ∀ e before trace result store, V' e trace result store → W (before ++ trace) result store) :
    Worked settings ucd claim P (tryCatch program handler) W E' := by
  refine meets_tryCatch first (fun e => ?_) ?_ ?_ (S := fun e trace outcome store =>
    Unspoiled claim trace ∧ match outcome with
      | .ok result => V' e trace result store
      | .error raised => E' raised store)
  · refine Meets.imp (second e) ?_ (fun _ _ _ reached => reached)
    rintro store ⟨trace, _, holds⟩
    exact holds
  · exact fun trace value store ⟨clean, holds⟩ => ⟨clean, values trace value store holds⟩
  · rintro before e middle trace outcome store ⟨clean, _⟩ ⟨later, holds⟩
    refine ⟨(unspoiled_append claim before trace).mpr ⟨clean, later⟩, ?_⟩
    cases outcome with
    | ok result => exact joined e before trace result store holds
    | error raised => exact holds

end Rules

/-! ## Parts of the worker -/

section Parts
variable (settings : Settings) (ucd : PyText.UnicodeDatabase) (claim : SalesImportClaim)
  (rows : List SalesImportStagedRow)

theorem phase_worked (phase : SalesImportAttempt.Phase) :
    Worked settings ucd claim (Keeps claim rows)
      (transact (.advanceAttemptPhase claim.jobId claim.leaseToken phase))
      (fun _ _ => Keeps claim rows) (Interrupted claim) := by
  refine worked_call (by simp) foreign_keeps ?_ ?_ (by simp [Call.writesRecords])
  · intro env store reply next keeps answered
    have done := answer_ok settings ucd answered
    have sound := execute_sound (by simp [StagedBatches]) keeps.sound done
    obtain ⟨job, attempt, live, saved⟩ := fenced_ok done
    injection saved with saved
    injection saved with _ saved
    exact keeps.saved live saved.symm ⟨rfl, rfl⟩ ⟨rfl, rfl, rfl⟩ id sound
  · intro env store e keeps failed
    rcases fenced_error keeps.sound failed with lost | ⟨job, attempt, _, raised⟩
    · exact Or.inl lost
    · cases raised

theorem heartbeat_worked :
    Worked settings ucd claim (Keeps claim rows) (heartbeat claim) (fun _ _ => Keeps claim rows)
      (Interrupted claim) := by
  have positive : 0 < defaultLeaseDuration := by decide
  refine worked_then (V := fun _ _ => Keeps claim rows) (worked_call (by simp) foreign_keeps ?_ ?_
    (by simp [Call.writesRecords])) (fun _ => worked_pure ?_) (fun _ _ _ _ keeps => keeps)
  · intro env store reply next keeps answered
    have done := answer_ok settings ucd answered
    have sound := execute_sound (by simp [StagedBatches]) keeps.sound done
    change heartbeatJob claim.jobId claim.leaseToken defaultLeaseDuration env.now store = _ at done
    obtain ⟨job, attempt, live, saved⟩ := heartbeatJob_ok done
    exact keeps.saved live saved ⟨rfl, rfl⟩ ⟨rfl, rfl, rfl⟩ id sound
  · intro env store e keeps failed
    change heartbeatJob claim.jobId claim.leaseToken defaultLeaseDuration env.now store = _ at failed
    rw [heartbeatJob, validateDuration_ok positive] at failed
    rcases fenced_error keeps.sound failed with lost | ⟨job, attempt, _, raised⟩
    · exact Or.inl lost
    · cases raised
  · rintro store ⟨_, keeps⟩
    exact keeps

theorem heartbeats_worked (count : Nat) :
    Worked settings ucd claim (Keeps claim rows) (heartbeats claim count) (fun _ _ => Keeps claim rows)
      (Interrupted claim) :=
  worked_eachOf (I := fun _ => Keeps claim rows) (fun _ _ _ _ => heartbeat_worked settings ucd claim rows)

theorem record_worked {batch : Staging.ParseBatch}
    (staged : ∃ settings ucd stream, batch ∈ Staging.batches settings ucd stream) :
    Worked settings ucd claim (Keeps claim rows) (transact (.recordParseBatch claim batch))
      (fun _ _ => Keeps claim (rows ++ batch.stagedRows)) (Interrupted claim) := by
  refine worked_call (by simp) foreign_keeps ?_ ?_ (fun _ e store keeps database =>
    Or.inr ⟨database, rows, keeps⟩)
  · intro env store reply next keeps answered
    have done := answer_ok settings ucd answered
    have sound := execute_sound (by simpa [StagedBatches] using staged) keeps.sound done
    obtain ⟨job, attempt, live, saved⟩ := fenced_ok done
    split_ifs at saved
    injection saved with saved
    injection saved with _ saved
    exact keeps.saved live saved.symm ⟨rfl, rfl⟩ ⟨rfl, rfl, rfl⟩ (fun same => congrArg (· ++ _) same) sound
  · intro env store e keeps failed
    rcases fenced_error keeps.sound failed with lost | ⟨job, attempt, _, raised⟩
    · exact Or.inl lost
    · split_ifs at raised
      exact Or.inl ⟨_, (Except.error.inj raised).symm⟩

/-- The counters pass the checks of a status, or the claim is lost before they are looked at. -/
def Accepted (counts : SalesImportJobCounts) (status : SalesImportJob.Status) (store : Store) : Prop :=
  (∃ rows, Keeps claim rows store) ∧ (validateFor counts status = .ok () ∨ LeaseLost claim store)

theorem foreign_held : Undisturbed (answer settings ucd) (Foreign claim) (fun store =>
    ∃ rows, Keeps claim rows store) :=
  fun store event foreign ⟨rows, keeps⟩ => ⟨rows, foreign_keeps store event foreign keeps⟩

/-- A fenced completion with accepted counters fails only on a lost claim. -/
theorem completeJob_error {status : SalesImportJob.Status} {outcome : SalesImportAttempt.Outcome}
    {counts : SalesImportJobCounts} {errorCode errorMessage : String} {now : Instant} {store : Store} {e : PyError}
    (terminal : terminalOutcome status = some outcome) (accepted : Accepted claim counts status store)
    (failed : completeJob claim.jobId claim.leaseToken status (some counts) errorCode errorMessage now store =
      .error e) : IsLost e := by
  obtain ⟨⟨rows, keeps⟩, accepted⟩ := accepted
  unfold completeJob at failed
  rw [terminal] at failed
  rcases fenced_error keeps.sound failed with lost | ⟨job, attempt, locked, raised⟩
  · exact lost
  · have live := lockedLiveClaim_ok locked
    rcases accepted with passes | lost
    · simp only [Option.getD_some, passes] at raised
      cases raised
    · exact absurd live.token (lost _ job live.found rfl)

/-- A fenced completion commits the status it answers. -/
theorem completeJob_committed {status : SalesImportJob.Status} {outcome : SalesImportAttempt.Outcome}
    {counts : Option SalesImportJobCounts} {errorCode errorMessage : String} {now : Instant}
    {store next : Store} {job : SalesImportJob} (terminal : terminalOutcome status = some outcome)
    (done : completeJob claim.jobId claim.leaseToken status counts errorCode errorMessage now store =
      .ok (job, next)) : findJob next claim.jobId = some job ∧ job.status ≠ .processing := by
  obtain ⟨before, found, same, saved, _⟩ := @completeJob_ok Scope.all _ _ _ _ _ _ _ _ _ _ done
  obtain ⟨intake, located, _⟩ := findJob_import found
  rw [saved, same]
  exact ⟨findJob_saveJob_same located job, (terminal_facts terminal).2.1⟩

theorem complete_worked {status : SalesImportJob.Status} {outcome : SalesImportAttempt.Outcome}
    (terminal : terminalOutcome status = some outcome) (counts : SalesImportJobCounts)
    (errorCode errorMessage : String) :
    Worked settings ucd claim (Accepted claim counts status)
      (transact (.completeJob claim.jobId claim.leaseToken status (some counts) errorCode errorMessage))
      (fun trace job _ => Committed settings ucd claim job.status trace) (fun e _ => IsLost e) := by
  refine worked_call (by simp) ?_ ?_ ?_ (by simp [Call.writesRecords])
  · rintro store event foreign ⟨held, accepted⟩
    exact ⟨foreign_held settings ucd claim store event foreign held,
      accepted.imp_right (foreign_lost store event foreign)⟩
  · intro env store reply next _ answered
    obtain ⟨found, ended⟩ := completeJob_committed claim terminal (answer_ok settings ucd answered)
    refine ⟨_, List.mem_singleton.mpr rfl, rfl, reply, ?_, rfl, ended⟩
    rw [answered]
    exact found
  · exact fun env store e accepted failed => completeJob_error claim terminal accepted failed

/-- The counters of a claim that still holds its job describe a job in processing. -/
theorem counts_accepted {store : Store} {job : SalesImportJob} (keeps : Keeps claim rows store)
    (found : findJob store claim.jobId = some job) : Accepted claim job.counts .failed store := by
  refine ⟨⟨rows, keeps⟩, ?_⟩
  by_cases held : job.leaseToken = some claim.leaseToken
  · left
    have invariants := keeps.sound _ job found
    have processing : job.status = .processing := by
      by_contra idle
      rw [(JobValid.unleased invariants.valid idle).1] at held
      cases held
    exact (validateFor_ok _ _).mpr (CountsValid.unpublished (JobValid.processingCounts invariants.valid processing)
      id (by simp) (by simp))
  · right
    rintro pk other located rfl
    obtain rfl : other = job := Option.some.inj (located.symm.trans found)
    exact held

theorem completeFailure_worked (errorCode errorMessage : String) :
    Worked settings ucd claim (fun store => ∃ rows, Keeps claim rows store)
      (completeFailure claim errorCode errorMessage)
      (fun trace result _ => Committed settings ucd claim result.status trace) (fun e _ => IsLost e) := by
  refine worked_then (V := fun _ counts => Accepted claim counts .failed) ?_ (fun counts => ?_)
    (fun before _ _ _ => committed_append before)
  · refine worked_call (by simp) (foreign_held settings ucd claim) ?_ ?_ (by simp [Call.writesRecords])
    · rintro env store reply next ⟨rows, keeps⟩ answered
      have done := answer_ok settings ucd answered
      obtain ⟨job, found, _⟩ := keeps.job
      simp only [execute, currentCounts, found, Except.map, Except.ok.injEq, Prod.mk.injEq] at done
      rw [← done.1, ← done.2]
      exact counts_accepted claim rows keeps found
    · rintro env store e ⟨rows, keeps⟩ failed
      obtain ⟨job, found, _⟩ := keeps.job
      simp [execute, currentCounts, found, Except.map] at failed
  · refine worked_bind ((complete_worked settings ucd claim rfl counts errorCode errorMessage).imp ?_
      (fun _ _ _ committed => committed) (fun _ _ lost => lost)) (fun job => worked_pure
        (V := fun _ result _ => result.status = job.status) (fun _ _ => rfl)) ?_
    · rintro store ⟨_, accepted⟩
      exact accepted
    · intro before job _ trace result _ committed same
      rw [same]
      exact committed_prepend trace committed

theorem scheduleRetry_ok {jobId leaseToken : Uuid} {errorCode errorMessage : String}
    {baseDelay maximumDelay : Duration} {now : Instant} {store next : Store} {value : SalesImportJob}
    (done : scheduleRetry jobId leaseToken errorCode errorMessage baseDelay maximumDelay now store =
      .ok (value, next)) : findJob next jobId = some value ∧ value.status ≠ .processing := by
  obtain ⟨job, attempt, live, saved⟩ := fenced_ok done
  obtain ⟨intake, located, _⟩ := findJob_import live.found
  cases valid : validateFor job.counts .failed with
  | error e => simp [valid] at saved
  | ok passed =>
    cases left : delayIfLeft job baseDelay maximumDelay with
    | error e => simp [valid, left] at saved
    | ok delay =>
      simp only [valid, left, Except.ok.injEq, Prod.mk.injEq] at saved
      obtain ⟨rfl, rfl⟩ := saved
      refine ⟨findJob_saveJob_same located _, ?_⟩
      change (retriedJob job errorCode errorMessage now delay).status ≠ _
      unfold retriedJob
      split_ifs <;> simp

/-- The counters and the attempts of a job in processing allow a retry. -/
theorem scheduleRetry_error {store : Store} {now : Instant} {errorCode errorMessage : String} {e : PyError}
    (keeps : Keeps claim rows store)
    (failed : scheduleRetry claim.jobId claim.leaseToken errorCode errorMessage defaultRetryBaseDelay
      defaultRetryMaxDelay now store = .error e) : IsLost e := by
  rcases fenced_error keeps.sound failed with lost | ⟨job, attempt, locked, raised⟩
  · exact lost
  · exfalso
    have live := lockedLiveClaim_ok locked
    obtain ⟨invariants, _⟩ := keeps.live live
    have valid : validateFor job.counts .failed = .ok () := (validateFor_ok _ _).mpr
      (CountsValid.unpublished (JobValid.processingCounts invariants.valid live.processing) id (by simp) (by simp))
    have started : 1 ≤ job.attemptCount := by
      have members := congrArg List.length invariants.numbers
      rw [List.length_map, List.length_range'] at members
      have some := List.length_pos_of_mem live.member
      omega
    have delay : ∃ delay, delayIfLeft job defaultRetryBaseDelay defaultRetryMaxDelay = .ok delay := by
      have base : 0 < defaultRetryBaseDelay := by decide
      have maximum : 0 < defaultRetryMaxDelay := by decide
      unfold delayIfLeft retryDelay
      rw [if_neg (by omega : ¬job.attemptCount < 1), validateDuration_ok base, validateDuration_ok maximum]
      by_cases spent : job.maxAttempts ≤ job.attemptCount
      · exact ⟨0, by rw [if_pos spent]⟩
      · rw [if_neg spent]
        exact ⟨_, rfl⟩
    obtain ⟨delay, computed⟩ := delay
    simp [valid, computed] at raised

theorem scheduleProcessingRetry_worked (errorCode errorMessage : String) :
    Worked settings ucd claim (fun store => ∃ rows, Keeps claim rows store)
      (scheduleProcessingRetry claim errorCode errorMessage)
      (fun trace result _ => Committed settings ucd claim result.status trace) (fun e _ => IsLost e) := by
  refine worked_bind (V := fun trace job store => Committed settings ucd claim job.status trace ∧
      Present claim store) (T := fun job _ result _ => result.status = job.status) ?_ (fun job => ?_) ?_
  · refine worked_call (by simp) (foreign_held settings ucd claim) ?_ ?_ (by simp [Call.writesRecords])
    · intro env store reply next _ answered
      obtain ⟨found, ended⟩ := scheduleRetry_ok (answer_ok settings ucd answered)
      refine ⟨⟨_, List.mem_singleton.mpr rfl, rfl, reply, ?_, rfl, ended⟩, reply, found⟩
      rw [answered]
      exact found
    · rintro env store e ⟨rows, keeps⟩ failed
      exact scheduleRetry_error claim rows keeps failed
  · refine worked_then (P := fun store => ∃ trace, Committed settings ucd claim job.status trace ∧
      Present claim store) (V := fun _ _ _ => True) ?_ (fun counts => worked_pure (fun _ _ => rfl))
      (fun _ _ _ _ same => same)
    refine Worked.imp (P := Present claim) (V := fun _ _ _ => True) (E := fun _ _ => False) ?_
      (fun _ ⟨_, _, present⟩ => present) (fun _ _ _ _ => trivial) (fun _ _ impossible => impossible.elim)
    refine worked_call (by simp) foreign_present (fun _ _ _ _ _ _ => trivial) ?_ (by simp [Call.writesRecords])
    rintro env store e ⟨found, present⟩ failed
    simp [execute, currentCounts, present, Except.map] at failed
  · rintro before job middle trace result store ⟨committed, _⟩ same
    rw [same]
    exact committed_prepend trace committed

variable {rows} in
theorem publish_worked (numbers : (rows.map SalesImportStagedRow.rowNumber).Nodup)
    (ids : (rows.map SalesImportStagedRow.sourceRecordId).Nodup) :
    Worked settings ucd claim (Keeps claim rows) (transact (.publishOnce claim))
      (fun trace result _ => Committed settings ucd claim result.status trace)
      (fun e store => IsLost e ∨ isDatabaseError e = true ∧ Keeps claim rows store) := by
  refine worked_call (by simp) foreign_keeps ?_ ?_ (fun _ e store keeps database => Or.inr ⟨database, keeps⟩)
  · intro env store reply next keeps answered
    obtain ⟨ending, same⟩ := publishOnce_ok (answer_ok settings ucd answered)
    obtain ⟨intake, located, _⟩ := findJob_import ending.live.found
    subst same
    have found := @findJob_saveJob_same { store with factTable := ending.table } _ _ located (saveAttempt
      (finishedJob ending.job ending.status ending.counts ending.errorCode ending.errorMessage env.times.finishedAt)
      (finishedAttempt ending.changed ending.status ending.outcome ending.counts ending.errorCode
        ending.errorMessage env.times.finishedAt))
    rw [← ending.saved] at found
    have committed : ∃ job, findJob next claim.jobId = some job ∧ job.status = ending.status := ⟨_, found, rfl⟩
    obtain ⟨job, after, status⟩ := committed
    refine ⟨_, List.mem_singleton.mpr rfl, rfl, job, ?_, status, (terminal_facts ending.terminal).2.1⟩
    rw [answered]
    exact after
  · intro env store e keeps failed
    change publishOnce _ _ _ _ _ = _ at failed
    have refused := failed
    unfold publishOnce at refused
    rcases fenced_error keeps.sound refused with lost | ⟨job, attempt, locked, _⟩
    · exact Or.inl lost
    · have live := lockedLiveClaim_ok locked
      obtain ⟨_, _, id, staged⟩ := keeps.live live
      obtain ⟨intake, located, _⟩ := findJob_import live.found
      rcases publishOnce_settles settings env.snapshot env.times locked (by simp [claimMatches, id]) located
        (staged ▸ numbers) (staged ▸ ids) with ⟨result, next, done, _⟩ | ⟨raised, _⟩
      · rw [done] at failed
        cases failed
      · rw [raised] at failed
        obtain rfl := Except.error.inj failed
        exact Or.inr ⟨rfl, keeps⟩

variable {rows} in
theorem publishStagedRows_worked (numbers : (rows.map SalesImportStagedRow.rowNumber).Nodup)
    (ids : (rows.map SalesImportStagedRow.sourceRecordId).Nodup) (wait : LockWait) :
    Worked settings ucd claim (Keeps claim rows) (publishStagedRows claim wait)
      (fun trace result _ => Committed settings ucd claim result.status trace) (Interrupted claim) := by
  refine worked_then (heartbeats_worked settings ucd claim rows wait.heartbeats) (fun _ => ?_)
    (fun before _ _ _ => committed_append before)
  have publishes := publish_worked settings ucd claim numbers ids
  cases wait.acquired with
  | false => exact worked_throw (fun store ⟨_, keeps⟩ => Or.inr ⟨rfl, rows, keeps⟩)
  | true =>
    refine worked_then (V := fun _ _ => Keeps claim rows) ((heartbeat_worked settings ucd claim rows).imp
      (fun _ ⟨_, keeps⟩ => keeps) (fun _ _ _ keeps => keeps) (fun _ _ failed => failed)) (fun _ => ?_)
      (fun before _ _ _ => committed_append before)
    refine worked_tryCatch (publishes.imp (fun _ ⟨_, keeps⟩ => keeps) (fun _ _ _ committed => committed)
      (fun _ _ failed => failed)) (fun e => ?_) (fun _ _ _ committed => committed)
      (fun _ before _ _ _ => committed_append before)
    split_ifs with taken
    · refine publishes.imp ?_ (fun _ _ _ committed => committed) ?_
      · rintro store (⟨message, lost⟩ | ⟨_, keeps⟩)
        · rw [taken] at lost
          cases lost
        · exact keeps
      · exact fun e store failed => failed.imp_right (fun ⟨database, keeps⟩ => ⟨database, rows, keeps⟩)
    · exact worked_throw (fun store failed => failed.imp_right (fun ⟨database, keeps⟩ => ⟨database, rows, keeps⟩))

/-- The report of a rejected file passes the checks of a rejection. -/
theorem rejectedProgress_valid (stream : Csv.TextStream)
    (counted : 0 < (Staging.countedIssues settings ucd stream).length) :
    validateFor ((Staging.reported settings ucd stream (Staging.batches settings ucd stream).length).counts 0 0)
      .rejected = .ok () := by
  have facts := Staging.results_facts settings ucd stream
  have balanced := Staging.progressOf_balanced (Staging.results settings ucd stream)
  have covered := Staging.progressOf_covered _ facts.judged
  have issues : (Staging.contractIssues (Staging.results settings ucd stream)).length ≤
      (Staging.countedIssues settings ucd stream).length := by
    rw [Staging.countedIssues, List.length_append]
    exact Nat.le_add_right _ _
  rw [validateFor_ok, Staging.reported_whole]
  refine ⟨⟨balanced, le_trans covered issues⟩, Or.inr ⟨by simp, rfl, rfl⟩, fun _ => counted⟩

theorem acceptedRows_unique (stream : Csv.TextStream) :
    ((Staging.acceptedRows (Staging.results settings ucd stream)).map SalesImportStagedRow.rowNumber).Nodup ∧
      ((Staging.acceptedRows (Staging.results settings ucd stream)).map
        SalesImportStagedRow.sourceRecordId).Nodup := by
  have facts := Staging.results_facts settings ucd stream
  refine ⟨(facts.increasing.imp (fun less => less.ne)).sublist (Staging.acceptedRows_numbers _), ?_⟩
  rw [Staging.acceptedRows_ids]
  exact facts.ids

theorem stageFile_worked (stream : Csv.TextStream) :
    Worked settings ucd claim (Keeps claim []) (stageFile settings ucd claim stream)
      (fun _ staged store => Keeps claim (Staging.acceptedRows (Staging.results settings ucd stream)) store ∧
        (staged.2 = true → validateFor (staged.1.counts 0 0) .rejected = .ok ()))
      (Interrupted claim) := by
  obtain ⟨rejected, returned, flagged⟩ := Staging.stageCsv_returns settings ucd stream
  have loop : Worked settings ucd claim (Keeps claim ([].flatMap Staging.ParseBatch.stagedRows))
      (eachOf (fun batch => transact (.recordParseBatch claim batch)) (Staging.batches settings ucd stream))
      (fun _ _ => Keeps claim ((Staging.batches settings ucd stream).flatMap Staging.ParseBatch.stagedRows))
      (Interrupted claim) := by
    refine worked_eachOf (I := fun past => Keeps claim (past.flatMap Staging.ParseBatch.stagedRows)) ?_
    intro past batch rest whole
    rw [List.flatMap_append, List.flatMap_singleton]
    exact record_worked settings ucd claim _ ⟨settings, ucd, stream, whole ▸ by simp⟩
  rw [Staging.batches_rows] at loop
  refine worked_then loop (fun _ => ?_) (fun _ _ _ _ holds => holds)
  rw [returned]
  refine worked_pure ?_
  rintro store ⟨_, keeps⟩
  exact ⟨keeps, fun refused => rejectedProgress_valid settings ucd stream (flagged.mp refused)⟩

theorem rejectContract_worked (progress : Staging.Progress)
    (valid : validateFor (progress.counts 0 0) .rejected = .ok ()) :
    Worked settings ucd claim (Keeps claim rows) (rejectContract claim progress)
      (fun trace result _ => Committed settings ucd claim result.status trace) (Interrupted claim) := by
  refine worked_bind ((complete_worked settings ucd claim rfl _ _ _).imp
    (fun store keeps => ⟨⟨rows, keeps⟩, Or.inl valid⟩) (fun _ _ _ committed => committed)
    (fun _ _ lost => Or.inl lost)) (fun job => worked_pure
      (V := fun _ result _ => result.status = job.status) (fun _ _ => rfl)) ?_
  intro before job _ trace result _ committed same
  rw [same]
  exact committed_prepend trace committed

/-- What the guarded part of the worker leaves to its handlers. -/
def Left : Trace → FileEnd → Store → Prop
  | trace, .finished result, _ => Committed settings ucd claim result.status trace
  | _, .unopened _, store | _, .databaseError, store => ∃ rows, Keeps claim rows store

theorem left_append (before : Trace) {trace : Trace} {ending : FileEnd} {store : Store}
    (left : Left settings ucd claim trace ending store) :
    Left settings ucd claim (before ++ trace) ending store := by
  cases ending with
  | finished result => exact committed_append before left
  | unopened failure => exact left
  | databaseError => exact left

theorem finished_worked {program : Transaction SalesImportProcessingResult} {P : Store → Prop}
    (worked : Worked settings ucd claim P program
      (fun trace result _ => Committed settings ucd claim result.status trace) (Interrupted claim)) :
    Worked settings ucd claim P (.finished <$> program) (Left settings ucd claim) (Interrupted claim) := by
  refine meets_map (Meets.imp worked (fun _ => id) ?_)
  rintro trace outcome store ⟨clean, reached⟩
  refine ⟨clean, ?_⟩
  cases outcome with
  | ok result => exact reached
  | error e => exact reached

theorem processFile_worked (download : Download) (wait : LockWait) :
    Worked settings ucd claim (Keeps claim []) (processFile settings ucd claim download wait)
      (Left settings ucd claim) (Interrupted claim) := by
  have held : ∀ (rows : List SalesImportStagedRow) (store : Store),
      (∃ _ : Trace, Keeps claim rows store) → Keeps claim rows store := fun _ _ ⟨_, keeps⟩ => keeps
  refine worked_then (phase_worked settings ucd claim [] .download) (fun _ => ?_)
    (fun before _ _ _ => left_append settings ucd claim before)
  refine worked_then ((heartbeat_worked settings ucd claim []).imp (held []) (fun _ _ _ keeps => keeps)
    (fun _ _ failed => failed)) (fun _ => ?_) (fun before _ _ _ => left_append settings ucd claim before)
  refine worked_then ((heartbeats_worked settings ucd claim [] download.heartbeats).imp (held [])
    (fun _ _ _ keeps => keeps) (fun _ _ failed => failed)) (fun _ => ?_)
    (fun before _ _ _ => left_append settings ucd claim before)
  cases download.opened with
  | error failure => exact worked_pure (fun store ⟨_, keeps⟩ => ⟨[], keeps⟩)
  | ok stream =>
    obtain ⟨numbers, ids⟩ := acceptedRows_unique settings ucd stream
    refine worked_then ((heartbeat_worked settings ucd claim []).imp (held []) (fun _ _ _ keeps => keeps)
      (fun _ _ failed => failed)) (fun _ => ?_) (fun before _ _ _ => left_append settings ucd claim before)
    refine worked_then ((stageFile_worked settings ucd claim stream).imp (held []) (fun _ _ _ staged => staged)
      (fun _ _ failed => failed)) (fun staged => ?_)
      (fun before _ _ _ => left_append settings ucd claim before)
    cases refused : staged.2 with
    | true =>
      rw [if_pos rfl]
      by_cases valid : validateFor (staged.1.counts 0 0) .rejected = .ok ()
      · refine finished_worked settings ucd claim ((rejectContract_worked settings ucd claim
          (Staging.acceptedRows (Staging.results settings ucd stream)) _ valid).imp ?_
          (fun _ _ _ committed => committed) (fun _ _ failed => failed))
        rintro store ⟨_, keeps, _⟩
        exact keeps
      · rintro store trace outcome final _ ⟨_, _, passes⟩
        exact absurd (passes rfl) valid
    | false =>
      rw [if_neg Bool.false_ne_true]
      have beats := (heartbeat_worked settings ucd claim
        (Staging.acceptedRows (Staging.results settings ucd stream))).imp
        (S := fun store => ∃ _ : Trace, Keeps claim (Staging.acceptedRows (Staging.results settings ucd stream))
          store ∧ (staged.2 = true → validateFor (staged.1.counts 0 0) .rejected = .ok ()))
        (fun _ ⟨_, keeps, _⟩ => keeps) (fun _ _ _ keeps => keeps) (fun _ _ failed => failed)
      rw [refused] at beats
      refine worked_then beats (fun _ => ?_) (fun before _ _ _ => left_append settings ucd claim before)
      exact finished_worked settings ucd claim ((publishStagedRows_worked settings ucd claim numbers ids
        wait).imp (held _) (fun _ _ _ committed => committed) (fun _ _ failed => failed))

end Parts

/-! ## The stored object -/

section StoredObject
variable {settings : Settings} {ucd : PyText.UnicodeDatabase} {claim : SalesImportClaim}
  {rows : List SalesImportStagedRow}

theorem Keeps.objectFailed {store : Store} (keeps : Keeps claim rows store) (pk : Uuid)
    (failureCode : SalesImport.FailureCode) (now : Instant) :
    Keeps claim rows (updateImport store pk (objectFailedImport failureCode now)
      (objectFailedImport_stable failureCode now)) := by
  refine ⟨fun other job found => ?_, ?_⟩
  · rw [findJob_objectFailed] at found
    exact keeps.sound other job found
  · rw [findJob_objectFailed]
    exact keeps.job

/-- The intake is locked and tested before the claim is. -/
theorem completeStoredObjectFailure_spoiled {failureCode : SalesImport.FailureCode}
    (permanent : isPermanent failureCode = true) (errorCode errorMessage : String) (now : Instant) {store : Store}
    {intake : SalesImport} (found : findImport store claim.jobId = some intake)
    (spoiled : intake.status ≠ .received) :
    completeStoredObjectFailure claim failureCode errorCode errorMessage now store =
      .error (.runtimeError "The received import can no longer be failed.") := by
  simp [completeStoredObjectFailure, markStoredObjectFailed, claim.one_to_one, found, permanent, spoiled]

theorem completeStoredObjectFailure_received {failureCode : SalesImport.FailureCode}
    (permanent : isPermanent failureCode = true) (errorCode errorMessage : String) (now : Instant) {store : Store}
    {intake : SalesImport} {job : SalesImportJob} (found : findImport store claim.jobId = some intake)
    (received : intake.status = .received) (held : findJob store claim.jobId = some job) :
    completeStoredObjectFailure claim failureCode errorCode errorMessage now store =
      completeJob claim.jobId claim.leaseToken .failed (some job.counts) errorCode errorMessage now
        (updateImport store claim.jobId (objectFailedImport failureCode now)
          (objectFailedImport_stable failureCode now)) := by
  simp [completeStoredObjectFailure, markStoredObjectFailed, claim.one_to_one, found, permanent, received,
    currentCounts, findJob_objectFailed, held]

end StoredObject

section Exits
variable (settings : Settings) (ucd : PyText.UnicodeDatabase) (claim : SalesImportClaim)

/-- A result whose status was committed, or a lost claim. -/
def Classified (trace : Trace) : Except PyError SalesImportProcessingResult → Prop
  | .ok result => Committed settings ucd claim result.status trace
  | .error e => IsLost e

/-- The exits are classified on unspoiled traces, and only there. -/
def Exits (trace : Trace) (outcome : Except PyError SalesImportProcessingResult) : Prop :=
  Unspoiled claim trace ∧ Classified settings ucd claim trace outcome ∨
    ¬Unspoiled claim trace ∧ ∃ e, outcome = .error e ∧ ¬IsLost e

/-- A part of the worker after which it ends. -/
def Ends (P : Store → Prop) (program : Transaction SalesImportProcessingResult) : Prop :=
  Meets (answer settings ucd) Undisrupted (Foreign claim) P program (fun trace outcome _ =>
    Exits settings ucd claim trace outcome)

variable {settings ucd claim}

theorem Exits.append {before trace : Trace} {outcome : Except PyError SalesImportProcessingResult}
    (clean : Unspoiled claim before) (exits : Exits settings ucd claim trace outcome) :
    Exits settings ucd claim (before ++ trace) outcome := by
  unfold Exits
  rw [unspoiled_append]
  rcases exits with ⟨unspoiled, classified⟩ | ⟨spoiled, raised⟩
  · refine Or.inl ⟨⟨clean, unspoiled⟩, ?_⟩
    cases outcome with
    | ok result => exact committed_append before classified
    | error e => exact classified
  · exact Or.inr ⟨fun both => spoiled both.2, raised⟩

theorem ends_of_worked {P : Store → Prop} {program : Transaction SalesImportProcessingResult}
    (worked : Worked settings ucd claim P program
      (fun trace result _ => Committed settings ucd claim result.status trace) (fun e _ => IsLost e)) :
    Ends settings ucd claim P program := by
  refine Meets.imp worked (fun _ => id) ?_
  rintro trace outcome store ⟨clean, reached⟩
  refine Or.inl ⟨clean, ?_⟩
  cases outcome with
  | ok result => exact reached
  | error e => exact reached

theorem ends_then {α : Type} {P : Store → Prop} {program : Transaction α}
    {f : α → Transaction SalesImportProcessingResult} {V : Trace → α → Store → Prop}
    (first : Worked settings ucd claim P program V (fun e _ => IsLost e))
    (second : ∀ value, Ends settings ucd claim (fun store => ∃ trace, V trace value store) (f value)) :
    Ends settings ucd claim P (program >>= f) := by
  refine meets_bind first (fun value => ?_) ?_ ?_ (S := fun _ trace outcome _ =>
    Exits settings ucd claim trace outcome)
  · refine Meets.imp (second value) ?_ (fun _ _ _ exits => exits)
    rintro store ⟨trace, _, reached⟩
    exact ⟨trace, reached⟩
  · exact fun trace e store ⟨clean, lost⟩ => Or.inl ⟨clean, lost⟩
  · exact fun before value middle trace outcome store ⟨clean, _⟩ exits => exits.append clean

variable (settings ucd claim)

/-- One failure of the stored object: the claim's exits on a received intake, the escaping
exception on any other. -/
theorem storedObjectFailure_exits {failureCode : SalesImport.FailureCode} (permanent : isPermanent failureCode = true)
    (errorCode errorMessage : String) {rows : List SalesImportStagedRow} {env : Environment} {store : Store}
    (healthy : env.fault = none) (keeps : Keeps claim rows store) :
    Exits settings ucd claim [⟨.completeStoredObjectFailure claim failureCode errorCode errorMessage, env, store⟩]
      ((answer settings ucd env (.completeStoredObjectFailure claim failureCode errorCode errorMessage) store).1.map
        (fun job => ⟨claim.jobId, job.status, job.counts⟩)) := by
  obtain ⟨job, held, _⟩ := keeps.job
  obtain ⟨intake, found, _⟩ := findJob_import held
  by_cases received : intake.status = .received
  · have same := completeStoredObjectFailure_received permanent errorCode errorMessage env.now found received held
    refine Or.inl ⟨?_, ?_⟩
    · intro performed member _ _ _ _
      rw [List.mem_singleton.mp member]
      exact ⟨intake, found, received⟩
    · cases ended : completeStoredObjectFailure claim failureCode errorCode errorMessage env.now store with
      | ok pair =>
        obtain ⟨after, finished⟩ := completeJob_committed claim rfl (same.symm.trans ended)
        have answered : answer settings ucd env
            (.completeStoredObjectFailure claim failureCode errorCode errorMessage) store = (.ok pair.1, pair.2) := by
          simp only [answer, healthy, execute, ended]
        rw [answered]
        refine ⟨_, List.mem_singleton.mpr rfl, rfl, pair.1, ?_, rfl, finished⟩
        rw [answered]
        exact after
      | error e =>
        have answered : answer settings ucd env
            (.completeStoredObjectFailure claim failureCode errorCode errorMessage) store = (.error e, store) := by
          simp only [answer, healthy, execute, ended]
        rw [answered]
        exact completeJob_error claim rfl (counts_accepted claim rows (keeps.objectFailed _ _ _)
          ((findJob_objectFailed ..).trans held)) (same.symm.trans ended)
  · refine Or.inr ⟨?_, .runtimeError "The received import can no longer be failed.", ?_, ?_⟩
    · intro unspoiled
      obtain ⟨other, same, status⟩ := unspoiled _ (List.mem_singleton.mpr rfl) _ _ _ rfl
      obtain rfl : intake = other := Option.some.inj (found.symm.trans same)
      exact received status
    · simp only [answer, healthy, execute,
        completeStoredObjectFailure_spoiled permanent errorCode errorMessage env.now found received]
      rfl
    · rintro ⟨message, same⟩
      cases same

theorem failStoredObject_ends {failureCode : SalesImport.FailureCode}
    (permanent : isPermanent failureCode = true) (errorCode errorMessage : String) :
    Ends settings ucd claim (fun store => ∃ rows, Keeps claim rows store)
      (failStoredObject claim failureCode errorCode errorMessage) := by
  refine meets_bind (R := fun trace outcome _ => Exits settings ucd claim trace
    (outcome.map (fun job => ⟨claim.jobId, job.status, job.counts⟩)))
    (S := fun job trace outcome _ => trace = [] ∧ outcome = .ok ⟨claim.jobId, job.status, job.counts⟩)
    (meets_request (foreign_held settings ucd claim) ?_) (fun job => meets_pure (fun _ _ => ⟨rfl, rfl⟩))
    (fun _ _ _ exits => exits) ?_
  · rintro store env undisrupted ⟨rows, keeps⟩
    have healthy : env.fault = none := by
      refine Option.eq_none_iff_forall_ne_some.mpr (fun e fault => ?_)
      exact absurd (undisrupted e fault).1 (by simp [Call.writesRecords])
    exact storedObjectFailure_exits settings ucd claim permanent errorCode errorMessage healthy keeps
  · rintro before job _ trace outcome _ exits ⟨rfl, rfl⟩
    rw [List.append_nil]
    exact exits

theorem handleUnopened_ends (failure : DownloadFailure) :
    Ends settings ucd claim (fun store => ∃ rows, Keeps claim rows store) (handleUnopened claim failure) := by
  cases failure with
  | downloadError message => exact ends_of_worked (scheduleProcessingRetry_worked settings ucd claim _ _)
  | kmsProvenanceError message => exact ends_of_worked (completeFailure_worked settings ucd claim _ _)
  | notFoundError message => exact failStoredObject_ends settings ucd claim rfl _ _
  | verificationError message => exact failStoredObject_ends settings ucd claim rfl _ _
  | storageError message => exact ends_of_worked (completeFailure_worked settings ucd claim _ _)

/-- The handler of a database error. -/
theorem guarded_worked (download : Download) (wait : LockWait) :
    Worked settings ucd claim (Keeps claim [])
      (tryCatch (processFile settings ucd claim download wait) (fun e =>
        if isDatabaseError e then return .databaseError else throw e))
      (Left settings ucd claim) (fun e _ => IsLost e) := by
  refine worked_tryCatch (processFile_worked settings ucd claim download wait) (fun e => ?_) (fun _ _ _ left => left)
    (fun _ before _ _ _ => left_append settings ucd claim before)
  split_ifs with database
  · refine worked_pure ?_
    rintro store (⟨message, rfl⟩ | ⟨_, keeps⟩)
    · cases database
    · exact keeps
  · exact worked_throw (fun store interrupted => interrupted.resolve_right (fun both => database both.1))

/-- What follows the guarded part: a finished result is answered, the rest is handled. -/
def Concluded (trace : Trace) (outcome : Except PyError SalesImportProcessingResult) : FileEnd → Prop
  | .finished result => trace = [] ∧ outcome = .ok result
  | .unopened _ | .databaseError => Exits settings ucd claim trace outcome

theorem processClaim_ends (download : Download) (wait : LockWait) :
    Ends settings ucd claim (Keeps claim []) (processClaim settings ucd claim download wait) := by
  refine ends_then (V := fun _ intake store => intake.processingJob ≠ none ∧ Keeps claim [] store)
    (worked_call (by simp) foreign_keeps ?_ ?_ (by simp [Call.writesRecords])) (fun intake => ?_)
  · intro env store intake next keeps outcome
    have done := answer_ok settings ucd outcome
    obtain ⟨job, held, _⟩ := keeps.job
    obtain ⟨located, found, own⟩ := findJob_import held
    simp only [execute, found, answered, Except.ok.injEq, Prod.mk.injEq] at done
    obtain ⟨rfl, rfl⟩ := done
    exact ⟨by simp [own], keeps⟩
  · intro env store e keeps failed
    obtain ⟨job, held, _⟩ := keeps.job
    obtain ⟨located, found, _⟩ := findJob_import held
    simp [execute, answered, found] at failed
  · by_cases present : intake.processingJob = none
    · rintro store trace outcome final _ ⟨_, held, _⟩
      exact absurd present held
    rw [if_neg present]
    have keeps : ∀ store, (∃ _ : Trace, intake.processingJob ≠ none ∧ Keeps claim [] store) →
        Keeps claim [] store := by
      rintro store ⟨_, _, keeps⟩
      exact keeps
    split_ifs with format
    · exact ends_of_worked ((completeFailure_worked settings ucd claim _ _).imp
        (fun store reached => ⟨[], keeps store reached⟩) (fun _ _ _ committed => committed) (fun _ _ lost => lost))
    · refine meets_bind ((guarded_worked settings ucd claim download wait).imp keeps
        (fun _ _ _ left => left) (fun _ _ lost => lost)) (fun ending => ?_) ?_ ?_
        (S := fun ending trace outcome _ => Concluded settings ucd claim trace outcome ending)
      · cases ending with
        | finished result => exact meets_pure (fun _ _ => ⟨rfl, rfl⟩)
        | unopened failure =>
          refine Meets.imp (handleUnopened_ends settings ucd claim failure) ?_ (fun _ _ _ exits => exits)
          rintro store ⟨_, _, held⟩
          exact held
        | databaseError =>
          refine Meets.imp (ends_of_worked (scheduleProcessingRetry_worked settings ucd claim _ _)) ?_
            (fun _ _ _ exits => exits)
          rintro store ⟨_, _, held⟩
          exact held
      · rintro trace e store ⟨clean, lost⟩
        exact Or.inl ⟨clean, lost⟩
      · rintro before ending middle trace outcome store ⟨clean, left⟩ reached
        cases ending with
        | finished result =>
          obtain ⟨rfl, rfl⟩ := reached
          rw [List.append_nil]
          exact Or.inl ⟨clean, left⟩
        | unopened failure => exact reached.append clean
        | databaseError => exact reached.append clean

end Exits

section Runs
variable (settings : Settings) (ucd : PyText.UnicodeDatabase)

/-- A claim starts an attempt that has staged nothing. -/
theorem issued_keeps {store : Store} {event : Event} {claim : SalesImportClaim}
    (issued : Issued settings ucd store event claim)
    (sound : ∀ pk job, findJob store pk = some job → JobInvariant job) :
    Keeps claim [] (step settings ucd store event) := by
  obtain ⟨drawn, workerId, leaseDuration, ⟨ending⟩⟩ := issued_end issued
  have staged : StagedBatches [event] := by
    intro other member batchClaim batch same
    rw [List.mem_singleton.mp member] at same
    simp [drawnToken, same] at drawn
  have later : ∀ pk job, findJob (step settings ucd store event) pk = some job → JobInvariant job :=
    sound_step staged sound
  obtain ⟨intake, job, released, due, release, fresh, rfl, saved⟩ := ending
  refine ⟨later, claimedJob released workerId.text event.2.now (event.2.now + leaseDuration)
    event.2.draw.leaseToken event.2.draw.attemptId, ?_, Or.inr ?_⟩
  · rw [saved]
    exact findJob_saveJob_same due.found _
  · exact ⟨rfl, released.attempts, _, rfl, rfl, rfl, rfl, rfl⟩

/-- However other workers interleave, `process_claim` answers a committed status or loses
its claim exactly when each stored object it fails belongs to a received intake. -/
theorem processClaim_classified (start : Store) (unqueued : Unqueued start) (before : List Event)
    (staged : StagedBatches before) (event : Event) (claim : SalesImportClaim)
    (issued : Issued settings ucd (run (step settings ucd) start before) event claim) (download : Download)
    (wait : LockWait) (trace : Trace) (outcome : Except PyError SalesImportProcessingResult) (final : Store)
    (session : Session (answer settings ucd) Undisrupted (Foreign claim)
      (processClaim settings ucd claim download wait).run
      (step settings ucd (run (step settings ucd) start before) event) trace outcome final) :
    Classified settings ucd claim trace outcome ↔ Unspoiled claim trace := by
  have keeps := issued_keeps settings ucd issued (run_invariants settings ucd start unqueued before staged)
  rcases processClaim_ends settings ucd claim download wait _ trace outcome final session keeps with
    ⟨unspoiled, classified⟩ | ⟨spoiled, e, rfl, escapes⟩
  · exact iff_of_true classified unspoiled
  · exact iff_of_false escapes spoiled

end Runs

namespace Sample

/-- Storage reports that the file's version is missing. -/
def missingObject : Download := ⟨0, .error (.notFoundError "The recorded S3 object was not found.")⟩

def uncontended : LockWait := ⟨0, true⟩

/-- Nobody else calls. -/
def aloneMoves : List (List Event × Environment) :=
  [([], environment 2 0 0), ([], environment 3 0 0), ([], environment 4 0 0), ([], environment 5 0 0)]

def reclaimingClaim : SalesImportClaim := claimOf 3 8 2 12 400000100

/-- After the heartbeat the lease expires; a second worker claims the job and fails it
for the same missing version, before the first one can. -/
def reclaimedMoves : List (List Event × Environment) :=
  [([], environment 2 0 0), ([], environment 3 0 0), ([], environment 4 0 0),
    ([(.claimJob workerId 100, environment 400000000 12 8),
      (.completeStoredObjectFailure reclaimingClaim .objectMissing "S3_VERSION_NOT_FOUND"
        "The recorded S3 object was not found.", environment 400000001 0 0)],
      environment 400000002 0 0)]

/-- The store after the claim, and a session of its worker. -/
def claimedStore : Store :=
  run (step Publication.Sample.settings PyText.asciiDatabase) store (reclaimedRun.take 2)

def played (moves : List (List Event × Environment)) :
    Option (Trace × Except PyError SalesImportProcessingResult × Store) :=
  (processClaim Publication.Sample.settings PyText.asciiDatabase firstClaim missingObject uncontended).run.play
    (answer Publication.Sample.settings PyText.asciiDatabase) claimedStore moves

theorem session_of_moves {moves : List (List Event × Environment)}
    {trace : Trace} {outcome : Except PyError SalesImportProcessingResult} {final : Store}
    (foreign : ∀ move ∈ moves, ∀ event ∈ move.1, Foreign firstClaim event)
    (healthy : ∀ move ∈ moves, move.2.fault = none) (done : played moves = some (trace, outcome, final)) :
    Session (answer Publication.Sample.settings PyText.asciiDatabase) Undisrupted (Foreign firstClaim)
      (processClaim Publication.Sample.settings PyText.asciiDatabase firstClaim missingObject uncontended).run
      claimedStore trace outcome final := by
  refine session_of_play foreign (fun c move member e fault => ?_) done
  rw [healthy move member] at fault
  cases fault

end Sample

/-- The second worker has failed the intake: the first one's handler raises an exception
that neither `process_claim` nor the command handles. -/
theorem processClaim_escapes :
    Issued Publication.Sample.settings PyText.asciiDatabase
      (run (step Publication.Sample.settings PyText.asciiDatabase) Sample.store (Sample.reclaimedRun.take 1))
      (Sample.reclaimedRun.get ⟨1, by decide⟩) Sample.firstClaim ∧
    ∃ trace final, Session (answer Publication.Sample.settings PyText.asciiDatabase) Undisrupted
      (Foreign Sample.firstClaim) (processClaim Publication.Sample.settings PyText.asciiDatabase
        Sample.firstClaim Sample.missingObject Sample.uncontended).run Sample.claimedStore trace
      (.error (.runtimeError "The received import can no longer be failed.")) final ∧
    ¬Classified Publication.Sample.settings PyText.asciiDatabase Sample.firstClaim trace
      (.error (.runtimeError "The received import can no longer be failed.")) := by
  refine ⟨⟨Sample.workerId, 100, rfl, rfl⟩, ?_⟩
  have ended : (Sample.played Sample.reclaimedMoves).map (fun played => played.2.1) =
      some (.error (.runtimeError "The received import can no longer be failed.")) := by decide
  obtain ⟨⟨trace, outcome, final⟩, done, rfl⟩ := Option.map_eq_some_iff.mp ended
  refine ⟨trace, final, Sample.session_of_moves ?_ (by simp [Sample.reclaimedMoves, Sample.environment]) done, ?_⟩
  · intro move member event inside
    simp only [Sample.reclaimedMoves, List.mem_cons, List.not_mem_nil, or_false] at member
    rcases member with rfl | rfl | rfl | rfl
    · cases inside
    · cases inside
    · cases inside
    · simp only [List.mem_cons, List.not_mem_nil, or_false] at inside
      rcases inside with rfl | rfl <;> exact ⟨by decide, by decide, by simp [StagedBatches]⟩
  · rintro ⟨message, same⟩
    cases same

theorem processClaim_classified_sample :
    ∃ trace outcome final, Session (answer Publication.Sample.settings PyText.asciiDatabase) Undisrupted
      (Foreign Sample.firstClaim) (processClaim Publication.Sample.settings PyText.asciiDatabase
        Sample.firstClaim Sample.missingObject Sample.uncontended).run Sample.claimedStore trace outcome final ∧
    (Classified Publication.Sample.settings PyText.asciiDatabase Sample.firstClaim trace outcome ↔
      Unspoiled Sample.firstClaim trace) := by
  have ends : (Sample.played Sample.aloneMoves).isSome := by decide
  obtain ⟨⟨trace, outcome, final⟩, done⟩ := Option.isSome_iff_exists.mp ends
  have session := Sample.session_of_moves (by simp [Sample.aloneMoves])
    (by simp [Sample.aloneMoves, Sample.environment]) done
  exact ⟨trace, outcome, final, session, processClaim_classified Publication.Sample.settings PyText.asciiDatabase
    Sample.store (by simp [Unqueued, Sample.store]) (Sample.reclaimedRun.take 1)
    (by simp [StagedBatches, Sample.reclaimedRun]) (Sample.reclaimedRun.get ⟨1, by decide⟩) Sample.firstClaim
    ⟨Sample.workerId, 100, rfl, rfl⟩ Sample.missingObject Sample.uncontended trace outcome final session⟩

end PharmaIntel.System
