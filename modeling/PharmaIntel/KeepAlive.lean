import Mathlib
import PharmaIntel.Fencing

/-! A worker that renews its lease in time keeps its job to itself: whatever the other transactions
are, the job goes through the states it would go through if the worker were alone. -/

namespace PharmaIntel.System
open PharmaIntel.Base PharmaIntel.Models PharmaIntel.Queue PharmaIntel.Intake

/-! ## Other transactions before the lease ends -/

section Others
variable {store next : Store} {pk : Uuid} {job : SalesImportJob}

theorem findJob_updateImport (store : Store) (other : Uuid) (change : SalesImport → SalesImport)
    (stable : Stable change) (kept : ∀ intake, (change intake).processingJob = intake.processingJob) :
    findJob (updateImport store other change stable) pk = findJob store pk := by
  unfold findJob
  by_cases here : pk = other
  · rw [here, findImport_updateImport_same]
    cases findImport store other with
    | none => rfl
    | some intake => exact kept intake
  · rw [findImport_updateImport_other _ _ _ here]

theorem enqueuedJob_processing {intake : SalesImport} (held : intake.processingJob = some job)
    (processing : job.status = .processing) (maxAttempts : Nat) (now createdAt : Instant) :
    enqueuedJob intake maxAttempts now createdAt = job := by
  rw [enqueuedJob, held]
  dsimp only
  rw [advanceWaitingJob, if_neg, if_neg] <;> simp [processing]

theorem enqueueImport_processing {other : Uuid} {maxAttempts : Nat} {now createdAt : Instant}
    {value : SalesImportJob} (found : findJob store pk = some job) (processing : job.status = .processing)
    (done : enqueueImport other maxAttempts now createdAt store = .ok (value, next)) :
    findJob next pk = some job := by
  obtain ⟨_, intake, located, rfl⟩ := enqueueImport_ok done
  by_cases here : pk = other
  · subst here
    obtain ⟨same, known, held⟩ := findJob_import found
    obtain rfl := Option.some.inj (known.symm.trans located)
    rw [findJob_saveJob_same located, enqueuedJob_processing held processing]
  · rw [findJob_saveJob_other _ _ here, found]

theorem completeReceiving_processing {other : Uuid} {versionId : String} {now createdAt : Instant}
    {value : SalesImportJob} (found : findJob store pk = some job) (processing : job.status = .processing)
    (done : completeReceiving other versionId now createdAt store = .ok (value, next)) :
    findJob next pk = some job := by
  unfold completeReceiving at done
  cases marked : markReceived other versionId now store with
  | error e => rw [marked] at done; cases done
  | ok middle =>
    rw [marked] at done
    obtain ⟨version, intake, _, _, rfl⟩ := markReceived_ok marked
    refine enqueueImport_processing ?_ processing done
    rw [findJob_updateImport _ _ _ _ (receivedImport_processingJob version now), found]

theorem abandonReceiving_processing {other : Uuid} {failureCode : SalesImport.FailureCode}
    {now createdAt : Instant} {value : SalesImportJob} (found : findJob store pk = some job)
    (processing : job.status = .processing)
    (done : abandonReceiving other failureCode now createdAt store = .ok (value, next)) :
    findJob next pk = some job := by
  unfold abandonReceiving markFailed at done
  split at done
  · cases done
  · rename_i middle marked
    split_ifs at marked
    obtain rfl := Except.ok.inj marked
    refine enqueueImport_processing ?_ processing done
    rw [findJob_updateImport _ _ _ _ (failedImport_processingJob failureCode now), found]

theorem recordProvenance_processing {other : Uuid} {kmsKeyArn versionId : String} {now createdAt : Instant}
    {value : Unit} (found : findJob store pk = some job) (processing : job.status = .processing)
    (done : recordProvenance other kmsKeyArn versionId now createdAt store = .ok (value, next)) :
    findJob next pk = some job := by
  unfold recordProvenance at done
  cases located : findImport store other with
  | none => rw [located] at done; cases done
  | some intake =>
    cases marked : recordLegacyKmsKeyArn other kmsKeyArn store with
    | error e => rw [located, marked] at done; cases done
    | ok middle =>
      rw [located, marked] at done
      have saved := recordLegacyKmsKeyArn_ok marked
      have kept : findJob middle pk = some job := by
        rw [saved, findJob_updateImport _ _ _ _ (provenImport_processingJob _), found]
      dsimp only at done
      split_ifs at done
      · cases ran : completeReceiving other versionId now createdAt middle with
        | error e => rw [ran] at done; cases done
        | ok result =>
          rw [ran] at done
          cases done
          exact completeReceiving_processing kept processing ran
      · cases done
        exact kept

theorem createImport_processing {ucd : PyText.UnicodeDatabase} {draft : IntakeDraft} {now createdAt : Instant}
    {value : SalesImportJob} (found : findJob store pk = some job) (processing : job.status = .processing)
    (done : createImport ucd draft now createdAt store = .ok (value, next)) : findJob next pk = some job := by
  unfold createImport at done
  split_ifs at done
  cases inserted : store.importTable.insert (newImport ucd draft createdAt) with
  | error e => rw [inserted] at done; cases done
  | ok table =>
    rw [inserted] at done
    refine enqueueImport_processing ?_ processing done
    obtain ⟨intake, located, held⟩ := findJob_import found
    have apart : draft.id ≠ pk := by
      rintro rfl
      obtain ⟨member, same⟩ := ImportTable.find_some located
      exact (ImportTable.insert_ok inserted).1 (List.mem_map.mpr ⟨intake, member, same⟩)
    have kept : table.find pk = some intake := by
      rw [ImportTable.find_insert inserted pk, if_neg (show (newImport ucd draft createdAt).id ≠ pk from apart)]
      exact located
    change (table.find pk).bind _ = _
    rw [kept]
    exact held

theorem requeueJob_processing {other : Uuid} {additionalAttempts : Nat} {queuedAt : Instant}
    {value : SalesImportJob} (found : findJob store pk = some job) (processing : job.status = .processing)
    (done : requeueJob other additionalAttempts queuedAt store = .ok (value, next)) :
    findJob next pk = some job := by
  obtain ⟨intake, known, located, held, _, allowed, _, rfl⟩ := requeueJob_ok done
  by_cases here : pk = other
  · subst here
    obtain ⟨same, there, holds⟩ := findJob_import found
    obtain rfl := Option.some.inj (there.symm.trans located)
    obtain rfl := Option.some.inj (holds.symm.trans held)
    rw [requeueRefusal, if_pos (by simp [processing])] at allowed
    cases allowed
  · rw [findJob_saveJob_other _ _ here, found]

/-- A leased job is not due before its lease ends. -/
theorem isDue_early {now expiry : Instant} (processing : job.status = .processing)
    (leased : job.leaseExpiresAt = some expiry) (early : now < expiry) : isDue now job = false := by
  simp [isDue, processing, leased, early]

theorem due_apart {budget : SalesImportJob → Bool} {now expiry : Instant} {pair : SalesImport × SalesImportJob}
    (due : DueIn budget now store pair) (found : findJob store pk = some job)
    (processing : job.status = .processing) (leased : job.leaseExpiresAt = some expiry) (early : now < expiry) :
    pk ≠ pair.1.id := by
  rintro rfl
  obtain ⟨intake, located, held⟩ := findJob_import found
  obtain rfl := Option.some.inj (located.symm.trans due.found)
  obtain rfl := Option.some.inj (held.symm.trans due.held)
  have ready := due.due
  rw [isDue_early processing leased early] at ready
  cases ready

theorem claimJob_early {workerId : WorkerId} {leaseDuration : Duration} {now expiry : Instant} {draw : ClaimDraw}
    {locked : List Uuid} {claim : Option SalesImportClaim} (found : findJob store pk = some job)
    (processing : job.status = .processing) (leased : job.leaseExpiresAt = some expiry) (early : now < expiry)
    (done : claimJob workerId leaseDuration now draw locked store = .ok (claim, next)) :
    findJob next pk = some job := by
  rcases claimJob_ok done with ⟨_, rfl⟩ | ⟨issued, _, ⟨ending⟩⟩
  · exact found
  · rw [ending.saved, findJob_saveJob_other _ _ (due_apart ending.due found processing leased early), found]

theorem markExhaustedBatch_early {now expiry : Instant} {locked : List Uuid} {count : Nat}
    (found : findJob store pk = some job) (processing : job.status = .processing)
    (leased : job.leaseExpiresAt = some expiry) (early : now < expiry)
    (done : markExhaustedBatch now locked store = .ok (count, next)) : findJob next pk = some job := by
  simp only [markExhaustedBatch] at done
  cases ran : markExhaustedJobs now
      ((dueJobs Queue.exhausted now locked store).take exhaustedCleanupBatchSize) store with
  | error e => rw [ran] at done; cases done
  | ok final =>
    rw [ran] at done
    cases done
    have due : ∀ pair ∈ (dueJobs Queue.exhausted now locked store).take exhaustedCleanupBatchSize,
        DueIn Queue.exhausted now store pair := fun pair member => mem_dueJobs (List.mem_of_mem_take member)
    have untouched := (@markExhaustedJobs_moves Scope.all _ _ _ _
      ((dueJobs_nodup Queue.exhausted now locked store).sublist ((List.take_sublist _ _).map _))
      (fun pair member => ⟨(due pair member).found, (due pair member).held, (due pair member).within,
        (due pair member).due⟩) ran).2 pk ?_
    · rw [findJob, untouched]
      exact found
    · intro member
      obtain ⟨pair, inside, same⟩ := List.mem_map.mp member
      exact due_apart (due pair inside) found processing leased early same.symm

end Others

/-! ## The claim until its lease ends -/

/-- The claim's attempt runs and holds the job's lease until `expiry`. -/
structure HeldUntil (claim : SalesImportClaim) (expiry : Instant) (job : SalesImportJob) : Prop where
  processing : job.status = .processing
  token : job.leaseToken = some claim.leaseToken
  leased : job.leaseExpiresAt = some expiry
  attempt : ∃ attempt, job.attempts.find? (fun attempt =>
    attempt.leaseToken = claim.leaseToken && attempt.outcome = .running) = some attempt ∧
      attempt.id = claim.attemptId

/-- The transactions with which a worker reads its file. -/
inductive KeepsAlive (claim : SalesImportClaim) : Call → Prop
  | heartbeat (leaseDuration : Duration) (positive : 0 < leaseDuration) :
      KeepsAlive claim (.heartbeatJob claim.jobId claim.leaseToken leaseDuration)
  | phase (phase : SalesImportAttempt.Phase) :
      KeepsAlive claim (.advanceAttemptPhase claim.jobId claim.leaseToken phase)
  | batch (batch : Staging.ParseBatch) : KeepsAlive claim (.recordParseBatch claim batch)

/-- The end of the lease after one of them. -/
def renewal (expiry : Instant) (event : Event) : Instant :=
  match event.1 with
  | .heartbeatJob _ _ leaseDuration => event.2.now + leaseDuration
  | .recordParseBatch _ _ => event.2.now + defaultLeaseDuration
  | _ => expiry

/-- The call presents the claim's lease. -/
def isOwn (claim : SalesImportClaim) (event : Event) : Bool :=
  event.1.lease = some (claim.jobId, claim.leaseToken)

section Steps
variable {settings : Settings} {ucd : PyText.UnicodeDatabase} {claim : SalesImportClaim} {expiry : Instant}
  {store : Store} {job : SalesImportJob} {event : Event}

/-- A transaction of another before the lease ends leaves the job alone. -/
theorem step_other (found : findJob store claim.jobId = some job) (held : HeldUntil claim expiry job)
    (early : event.2.now < expiry) (apart : isOwn claim event = false) :
    findJob (step settings ucd store event) claim.jobId = some job := by
  rcases step_cases settings ucd store event with same | ⟨reply, done⟩
  · rw [same, found]
  have processing := held.processing
  generalize step settings ucd store event = next at done
  obtain ⟨c, env⟩ := event
  cases presents : c.lease with
  | some lease =>
    obtain ⟨jobId, leaseToken⟩ := lease
    obtain ⟨reached⟩ := execute_leased presents done
    by_cases here : claim.jobId = jobId
    · subst here
      obtain rfl := Option.some.inj (reached.found.symm.trans found)
      have same := Option.some.inj (reached.lease.token.symm.trans held.token)
      rw [isOwn, presents, same] at apart
      exact absurd apart (by simp)
    · rw [findJob, reached.elsewhere _ here]
      exact found
  | none =>
    cases c with
    | findActiveImport | findUnfinishedImports =>
      obtain ⟨_, rfl⟩ := Prod.mk.inj (Except.ok.inj done)
      exact found
    | readImport pk =>
      change answered (findImport store pk) store = _ at done
      cases known : findImport store pk with
      | none => rw [known] at done; cases done
      | some intake => rw [known] at done; cases done; exact found
    | readCounts jobId =>
      change (currentCounts jobId store).map _ = _ at done
      cases known : currentCounts jobId store with
      | error e => rw [known] at done; cases done
      | ok counts => rw [known] at done; cases done; exact found
    | createImport draft => exact createImport_processing found processing done
    | enqueueImport pk maxAttempts => exact enqueueImport_processing found processing done
    | completeReceiving pk versionId => exact completeReceiving_processing found processing done
    | abandonReceiving pk failureCode => exact abandonReceiving_processing found processing done
    | recordProvenance pk kmsKeyArn versionId => exact recordProvenance_processing found processing done
    | markExhaustedBatch => exact markExhaustedBatch_early found processing held.leased early done
    | claimJob workerId leaseDuration => exact claimJob_early found processing held.leased early done
    | requeueJob jobId additionalAttempts => exact requeueJob_processing found processing done
    | _ => cases presents

/-- Before the lease ends the claim passes the check of its lease. -/
theorem lockedLiveClaim_held (found : findJob store claim.jobId = some job) (held : HeldUntil claim expiry job)
    {now : Instant} (early : now < expiry) {attempt : SalesImportAttempt}
    (running : job.attempts.find? (fun attempt =>
      attempt.leaseToken = claim.leaseToken && attempt.outcome = .running) = some attempt) :
    lockedLiveClaim claim.jobId claim.leaseToken now store = .ok (job, attempt) := by
  have live : (findJob store claim.jobId).filter (fun job => job.status = .processing &&
      job.leaseToken = some claim.leaseToken && job.leaseExpiresAt.any (fun expiry => now < expiry)) = some job := by
    rw [found, Option.filter_some, if_pos]
    simp [held.processing, held.token, held.leased, early]
  unfold lockedLiveClaim
  rw [live]
  dsimp only
  rw [running]

theorem answer_done {env : Environment} {c : Call} {reply : c.Reply} {next : Store} (sound : env.fault = none)
    (done : execute settings ucd env c store = .ok (reply, next)) :
    answer settings ucd env c store = (.ok reply, next) := by
  unfold answer
  rw [sound]
  dsimp only
  rw [done]

variable (settings ucd) in
/-- A transaction of the claim succeeds before the lease ends, and renews it. -/
theorem step_own (held : HeldUntil claim expiry job) (mine : KeepsAlive claim event.1)
    (early : event.2.now < expiry) (sound : event.2.fault = none) :
    ∃ after, HeldUntil claim (renewal expiry event) after ∧
      ∀ store, findJob store claim.jobId = some job →
        (answer settings ucd event.2 event.1 store).1.isOk = true ∧
          findJob (step settings ucd store event) claim.jobId = some after := by
  obtain ⟨attempt, running, id⟩ := held.attempt
  obtain ⟨c, env⟩ := event
  have carries := List.find?_some running
  simp only [Bool.and_eq_true, decide_eq_true_eq] at carries
  have saves : ∀ (changed : SalesImportJob) (saved : SalesImportAttempt) {expiry : Instant},
      changed.status = .processing → changed.leaseToken = some claim.leaseToken →
      changed.leaseExpiresAt = some expiry → changed.attempts = job.attempts → saved.id = attempt.id →
      saved.leaseToken = claim.leaseToken → saved.outcome = .running →
        HeldUntil claim expiry (saveAttempt changed saved) := by
    intro changed saved expiry processing token leased attempts same mine runs
    refine ⟨processing, token, leased, saved, ?_, same.trans id⟩
    refine find_updateBy (attempts ▸ running) same ?_
    simp [mine, runs]
  have passes : ∀ {store : Store}, findJob store claim.jobId = some job →
      lockedLiveClaim claim.jobId claim.leaseToken env.now store = .ok (job, attempt) :=
    fun found => lockedLiveClaim_held found held early running
  have succeeds : ∀ {store : Store} (reply : c.Reply) {changed : SalesImportJob},
      findJob store claim.jobId = some job →
      execute settings ucd env c store = .ok (reply, saveJob store claim.jobId changed) →
        (answer settings ucd env c store).1.isOk = true ∧
          findJob (step settings ucd store (c, env)) claim.jobId = some changed := by
    intro store reply changed found done
    obtain ⟨intake, located, _⟩ := findJob_import found
    rw [step, answer_done sound done]
    exact ⟨rfl, findJob_saveJob_same located changed⟩
  cases mine with
  | heartbeat leaseDuration positive =>
    refine ⟨_, saves { job with
        heartbeatAt := some env.now
        leaseExpiresAt := some (env.now + leaseDuration) } { attempt with heartbeatAt := env.now }
      held.processing held.token rfl rfl rfl carries.1 carries.2,
      fun store found => succeeds (env.now + leaseDuration) found ?_⟩
    change heartbeatJob _ _ _ _ _ = _
    rw [heartbeatJob, validateDuration_ok positive]
    dsimp only
    rw [fenced, passes found]
  | phase phase =>
    refine ⟨_, saves job { attempt with phase := phase } held.processing held.token held.leased
      rfl rfl carries.1 carries.2, fun store found => succeeds () found ?_⟩
    change advanceAttemptPhase _ _ _ _ _ = _
    rw [advanceAttemptPhase, fenced, passes found]
  | batch batch =>
    refine ⟨_, saves { job with
          counts := withProgress job.counts batch.progress
          heartbeatAt := some env.now
          leaseExpiresAt := some (env.now + defaultLeaseDuration) }
        { attempt with
          stagedRows := attempt.stagedRows ++ batch.stagedRows
          issues := attempt.issues ++ batch.issues
          counts := withProgress attempt.counts batch.progress
          heartbeatAt := env.now
          phase := .parse } held.processing held.token rfl rfl rfl carries.1 carries.2,
      fun store found => succeeds () found ?_⟩
    change Queue.recordParseBatch _ _ _ _ = _
    rw [Queue.recordParseBatch, fenced, passes found]
    dsimp only
    rw [if_pos (by rw [claimMatches, decide_eq_true_eq]; exact id)]

end Steps

/-! ## Runs -/

/-- Every transaction of others comes before the end of the lease, as the claim's own transactions renew it; a lease
until the first time becomes one until the last. -/
inductive InTime (claim : SalesImportClaim) : Instant → List Event → Instant → Prop
  | nil (expiry : Instant) : InTime claim expiry [] expiry
  | other {expiry final : Instant} {event : Event} {rest : List Event} (apart : isOwn claim event = false)
      (early : event.2.now < expiry) (later : InTime claim expiry rest final) :
      InTime claim expiry (event :: rest) final
  | own {expiry final : Instant} {event : Event} {rest : List Event} (mine : KeepsAlive claim event.1)
      (early : event.2.now < expiry) (sound : event.2.fault = none)
      (later : InTime claim (renewal expiry event) rest final) : InTime claim expiry (event :: rest) final
  /-- The database refuses a transaction of the claim. -/
  | refused {expiry final : Instant} {event : Event} {rest : List Event} (mine : isOwn claim event = true)
      (fault : event.2.fault ≠ none) (later : InTime claim expiry rest final) :
      InTime claim expiry (event :: rest) final

section Runs
variable {settings : Settings} {ucd : PyText.UnicodeDatabase} {claim : SalesImportClaim}

theorem step_refused {store : Store} {event : Event} (fault : event.2.fault ≠ none) :
    step settings ucd store event = store := by
  obtain ⟨e, refused⟩ := Option.ne_none_iff_exists'.mp fault
  rw [step, answer, refused]

theorem KeepsAlive.own {c : Call} (mine : KeepsAlive claim c) (env : Environment) :
    isOwn claim (c, env) = true := by
  cases mine <;> exact decide_eq_true rfl

variable (settings ucd) in
/-- Where the database itself refuses nothing, the claim's transactions succeed. -/
def OwnSucceed (claim : SalesImportClaim) : Store → List Event → Prop :=
  AdmittedRun (step settings ucd) (fun store event => isOwn claim event = true → event.2.fault = none →
    (answer settings ucd event.2 event.1 store).1.isOk = true)

/-- The job in the run and the job of a worker alone. -/
theorem run_inTime {expiry final : Instant} {events : List Event} (inTime : InTime claim expiry events final)
    {store alone : Store} {job : SalesImportJob} (found : findJob store claim.jobId = some job)
    (same : findJob alone claim.jobId = some job) (held : HeldUntil claim expiry job) :
    OwnSucceed settings ucd claim store events ∧
      ∃ after, findJob (run (step settings ucd) store events) claim.jobId = some after ∧
        findJob (run (step settings ucd) alone (events.filter (isOwn claim))) claim.jobId = some after ∧
        HeldUntil claim final after := by
  induction inTime generalizing store alone job with
  | nil expiry => exact ⟨trivial, job, found, same, held⟩
  | other apart early later ih =>
    rw [run_cons, List.filter_cons_of_neg (by simp [apart])]
    obtain ⟨succeeded, ended⟩ := ih (step_other found held early apart) same held
    exact ⟨⟨fun own => absurd own (by simp [apart]), succeeded⟩, ended⟩
  | own mine early sound later ih =>
    obtain ⟨after, kept, stepped⟩ := step_own settings ucd held mine early sound
    rw [run_cons, List.filter_cons_of_pos (mine.own _), run_cons]
    obtain ⟨succeeded, ended⟩ := ih (stepped store found).2 (stepped alone same).2 kept
    exact ⟨⟨fun _ _ => (stepped store found).1, succeeded⟩, ended⟩
  | refused mine fault later ih =>
    rw [run_cons, List.filter_cons_of_pos mine, run_cons, step_refused fault, step_refused fault]
    obtain ⟨succeeded, ended⟩ := ih found same held
    refine ⟨⟨fun _ fine => absurd fine fault, ?_⟩, ended⟩
    rw [step_refused fault]
    exact succeeded

/-- A claim holds its lease when it is issued. -/
theorem issued_held {store : Store} {event : Event}
    (invariants : ∀ pk job, findJob store pk = some job → JobInvariant job)
    (issued : Issued settings ucd store event claim) :
    ∃ job, findJob (step settings ucd store event) claim.jobId = some job ∧
      HeldUntil claim claim.leaseExpiresAt job := by
  obtain ⟨_, workerId, leaseDuration, ⟨ending⟩⟩ := issued_end issued
  have found : findJob store ending.intake.id = some ending.job := by
    rw [findJob, ending.due.found]
    exact ending.due.held
  have closed := ((invariants _ _ found).released ending.release).closed
  rw [ending.claim_eq]
  refine ⟨_, (congrArg (findJob · _) ending.saved).trans (findJob_saveJob_same ending.due.found _), rfl, rfl, rfl,
    ?_⟩
  have none : ending.released.attempts.find? (fun attempt =>
      attempt.leaseToken = event.2.draw.leaseToken && attempt.outcome = .running) = none := by
    refine List.find?_eq_none.mpr ?_
    intro attempt member
    simp [closed attempt member]
  simp [claimedJob, none]

/-- From its claim on, a worker that renews its lease in time is not disturbed: until the lease ends its transactions
succeed unless the database refuses them, its job is the one of a worker alone, and its claim passes the check of its
lease, whatever other workers, cleanups, requeues, commands and uploads do meanwhile. -/
theorem inTime_undisturbed (settings : Settings) (ucd : PyText.UnicodeDatabase) (start : Store)
    (unqueued : Unqueued start) (before : List Event) (staged : StagedBatches before) (event : Event)
    (claim : SalesImportClaim) (issued : Issued settings ucd (run (step settings ucd) start before) event claim)
    (events : List Event) (final : Instant) (inTime : InTime claim claim.leaseExpiresAt events final) :
    let claimed := run (step settings ucd) start (before ++ [event])
    let reached := run (step settings ucd) claimed events
    OwnSucceed settings ucd claim claimed events ∧
      findJob reached claim.jobId =
        findJob (run (step settings ucd) claimed (events.filter (isOwn claim))) claim.jobId ∧
      ∀ now, now < final → ∃ job attempt, findJob reached claim.jobId = some job ∧
        lockedLiveClaim claim.jobId claim.leaseToken now reached = .ok (job, attempt) ∧
        attempt.id = claim.attemptId := by
  intro claimed reached
  obtain ⟨job, found, held⟩ := issued_held (run_invariants settings ucd start unqueued before staged) issued
  have there : findJob claimed claim.jobId = some job := by
    rw [← found]
    exact congrArg (findJob · claim.jobId) (run_append _ _ _ _)
  obtain ⟨succeeded, after, ends, alone, kept⟩ := run_inTime inTime there there held
  refine ⟨succeeded, ends.trans alone.symm, ?_⟩
  intro now early
  obtain ⟨attempt, running, id⟩ := kept.attempt
  exact ⟨after, attempt, ends, lockedLiveClaim_held ends kept early running, id⟩

end Runs

namespace Sample

/-- The worker renews its lease; meanwhile others look for work, clean up, requeue and enqueue. -/
def renewedRun : List Event :=
  [(.claimJob workerId 100, environment 90 12 8), (.heartbeatJob 3 11 100, environment 95 0 0),
    (.markExhaustedBatch, environment 150 0 0), (.requeueJob 3 2, environment 160 0 0),
    (.heartbeatJob 3 11 100, { environment 170 0 0 with fault := some (.databaseError "gone") }),
    (.advanceAttemptPhase 3 11 .parse, environment 180 0 0), (.enqueueImport 3 5, environment 190 0 0),
    (.claimJob workerId 100, environment 194 13 9)]

end Sample

/-- Ninety-five seconds later the first claim still stands. -/
theorem inTime_undisturbed_sample :
    ∃ job attempt, lockedLiveClaim 3 11 194 (run (step Publication.Sample.settings PyText.asciiDatabase)
      (run (step Publication.Sample.settings PyText.asciiDatabase) Sample.store (Sample.reclaimedRun.take 2))
      Sample.renewedRun) = .ok (job, attempt) ∧ attempt.id = 7 := by
  have inTime : InTime Sample.firstClaim 101 Sample.renewedRun 195 := by
    refine .other rfl (by decide) (.own (.heartbeat 100 (by decide)) (by decide) rfl ?_)
    refine .other rfl (by decide) (.other rfl (by decide) (.refused rfl (by decide) ?_))
    refine .own (.phase .parse) (by decide) rfl ?_
    exact .other rfl (by decide) (.other rfl (by decide) (.nil _))
  obtain ⟨_, _, stands⟩ := inTime_undisturbed Publication.Sample.settings PyText.asciiDatabase Sample.store
    (by simp [Unqueued, Sample.store]) (Sample.reclaimedRun.take 1) (by simp [StagedBatches, Sample.reclaimedRun])
    (.claimJob Sample.workerId 100, Sample.environment 1 11 7) Sample.firstClaim ⟨Sample.workerId, 100, rfl, rfl⟩
    Sample.renewedRun 195 inTime
  obtain ⟨job, attempt, _, locked, id⟩ := stands 194 (by decide)
  exact ⟨job, attempt, locked, id⟩

end PharmaIntel.System
