import Mathlib
import PharmaIntel.LockTurns

/-! Publications of one source under its lock. A worker inside the lock sees every committed
fact until its own commit, so the run of all workers is a run of whole publications. -/

namespace PharmaIntel.SourceLock
open PharmaIntel.Base PharmaIntel.Models PharmaIntel.Queue PharmaIntel.Validation
  PharmaIntel.Publication PharmaIntel.System

section Team
variable {settings : Settings} {ucd : PyText.UnicodeDatabase} {lockKey : String → Int}
  {sourceSystem : String} {world : World} {i : Nat} {worker : Worker} {effect : Effect}

/-! ## The transactions that have ended -/

def isPublication : Call → Bool
  | .publishOnce _ => true
  | _ => false

/-- Whose publications have ended, in that order. -/
def publishers (history : List (Nat × Event)) : List Nat :=
  (history.filter (fun entry => isPublication entry.2.1)).map Prod.fst

theorem publishers_append (first second : List (Nat × Event)) :
    publishers (first ++ second) = publishers first ++ publishers second := by
  simp [publishers]

/-- A heartbeat or the publication of the claim. -/
def OwnCall (claim : SalesImportClaim) (c : Call) : Prop :=
  c = .publishOnce claim ∨
    ∃ leaseDuration, c = .heartbeatJob claim.jobId claim.leaseToken leaseDuration

/-- The store after these transactions, one after the other. -/
def replay (settings : Settings) (ucd : PyText.UnicodeDatabase) (start : Store)
    (history : List (Nat × Event)) : Store :=
  run (System.step settings ucd) start (history.map Prod.snd)

theorem replay_append (settings : Settings) (ucd : PyText.UnicodeDatabase) (start : Store)
    (history : List (Nat × Event)) (i : Nat) (event : Event) :
    replay settings ucd start (history ++ [(i, event)]) =
      System.step settings ucd (replay settings ucd start history) event := by
  rw [replay, List.map_append, run_append]
  rfl

/-- A publication that has ended as it does alone: its snapshot is the store its predecessors
have left, and its worker has got its answer. -/
structure Served (settings : Settings) (ucd : PyText.UnicodeDatabase) (before : Store) (world : World)
    (i : Nat) (claim : SalesImportClaim) (env : Environment) : Prop where
  snapshot : env.snapshot = snapshotOf before
  answered : ∃ worker, world.workers[i]? = some worker ∧ worker.claim = claim ∧
    worker.stage.outcome = some (answer settings ucd env (.publishOnce claim) before).1

structure Replayed (settings : Settings) (ucd : PyText.UnicodeDatabase) (start : Store) (world : World) :
    Prop where
  store : world.store = replay settings ucd start world.history
  own : ∀ entry ∈ world.history, ∃ worker, world.workers[entry.1]? = some worker ∧
    OwnCall worker.claim entry.2.1
  served : ∀ front j claim env back, world.history = front ++ (j, (.publishOnce claim, env)) :: back →
    Served settings ucd (replay settings ucd start front) world j claim env

section Entries
variable {store : Store} {holder : Option Nat} {claim : SalesImportClaim} {stage : Stage}

theorem Turn.outcome (turn : Turn settings ucd store holder claim stage effect) {outcome : WorkerOutcome}
    (known : stage.outcome = some outcome) : effect.stage.outcome = some outcome := by
  cases turn with
  | moved next freed stays polls stands kept =>
    rcases kept with running | same
    · rw [running] at known
      cases known
    · exact same.trans known
  | acquired waits =>
    rw [waits] at known
    cases known
  | beaten env leaseDuration next freed stays polls stands running =>
    rw [running] at known
    cases known
  | aborted env e freed holds running =>
    rw [running] at known
    cases known
  | committed env result next inserts holds running =>
    rw [running] at known
    cases known

/-- A step ends no transaction, or one of the worker's own that does what it does alone. -/
theorem Turn.entry (turn : Turn settings ucd store holder claim stage effect) (i : Nat) :
    effect.entries i = [] ∧ effect.after store = store ∨
      ∃ event, effect.entries i = [(i, event)] ∧ OwnCall claim event.1 ∧
        effect.after store = System.step settings ucd store event := by
  cases turn with
  | moved => exact Or.inl ⟨rfl, rfl⟩
  | acquired => exact Or.inl ⟨rfl, rfl⟩
  | beaten env leaseDuration => exact Or.inr ⟨_, rfl, Or.inr ⟨leaseDuration, rfl⟩, rfl⟩
  | aborted env e freed holds running snapshot failed =>
    exact Or.inr ⟨_, rfl, Or.inl rfl, (congrArg Prod.snd failed).symm⟩
  | committed env result next inserts holds running snapshot done =>
    exact Or.inr ⟨_, rfl, Or.inl rfl, (congrArg Prod.snd done).symm⟩

theorem Turn.publication (turn : Turn settings ucd store holder claim stage effect) {i j : Nat}
    {published : SalesImportClaim} {env : Environment}
    (ended : effect.entries i = [(j, (.publishOnce published, env))]) :
    j = i ∧ published = claim ∧ env.snapshot = snapshotOf store ∧
      effect.stage.outcome = some (answer settings ucd env (.publishOnce claim) store).1 := by
  cases turn with
  | moved => cases ended
  | acquired => cases ended
  | beaten => cases ended
  | aborted env e freed holds running snapshot failed =>
    cases ended
    exact ⟨rfl, rfl, snapshot, by rw [failed]; rfl⟩
  | committed env result next inserts holds running snapshot done =>
    cases ended
    exact ⟨rfl, rfl, snapshot, by rw [done]; rfl⟩

/-- Only a worker inside the lock publishes, and leaves the lock's section with that. -/
theorem Turn.publishers (turn : Turn settings ucd store holder claim stage effect) (i : Nat) :
    publishers (effect.entries i) = [] ∨
      publishers (effect.entries i) = [i] ∧ stage.inside = true ∧ effect.stage.inside = false := by
  cases turn with
  | moved => exact Or.inl rfl
  | acquired => exact Or.inl rfl
  | beaten => exact Or.inl rfl
  | aborted env e freed holds => exact Or.inr ⟨rfl, holds, rfl⟩
  | committed env result next inserts holds => exact Or.inr ⟨rfl, holds, rfl⟩

end Entries

theorem append_singleton_cases {α : Type} {items front back : List α} {last item : α}
    (whole : items ++ [last] = front ++ item :: back) :
    items = front ∧ last = item ∧ back = [] ∨ ∃ rest, back = rest ++ [last] ∧ items = front ++ item :: rest := by
  rcases List.eq_nil_or_concat' back with rfl | ⟨rest, other, rfl⟩
  · obtain ⟨same, ends⟩ := List.append_inj' whole rfl
    exact Or.inl ⟨same, List.head_eq_of_cons_eq ends, rfl⟩
  · right
    have regrouped : items ++ [last] = (front ++ item :: rest) ++ [other] := by
      rw [whole, List.append_assoc, List.cons_append]
    obtain ⟨same, ends⟩ := List.append_inj' regrouped rfl
    obtain rfl : last = other := List.head_eq_of_cons_eq ends
    exact ⟨rest, rfl, same⟩

theorem Replayed.step {start : Store} (replayed : Replayed settings ucd start world)
    (here : world.workers[i]? = some worker) {holder : Option Nat}
    (turn : Turn settings ucd world.store holder worker.claim worker.stage effect) :
    Replayed settings ucd start (world.apply lockKey i worker effect) := by
  have bounded : i < world.workers.length := (List.getElem?_eq_some_iff.mp here).1
  have now : (world.workers.set i (worker.took effect))[i]? = some (worker.took effect) := by
    rw [List.getElem?_set, if_pos rfl, if_pos bounded]
  have still : ∀ j, j ≠ i → (world.workers.set i (worker.took effect))[j]? = world.workers[j]? := by
    intro j apart
    rw [List.getElem?_set, if_neg apart.symm]
  have kept_own : ∀ entry ∈ world.history, ∃ other,
      (world.workers.set i (worker.took effect))[entry.1]? = some other ∧ OwnCall other.claim entry.2.1 := by
    intro entry listed
    obtain ⟨other, there, own⟩ := replayed.own entry listed
    by_cases same : entry.1 = i
    · rw [same] at there ⊢
      obtain rfl : worker = other := Option.some.inj (here.symm.trans there)
      exact ⟨_, now, own⟩
    · exact ⟨other, (still _ same).trans there, own⟩
  have kept_served : ∀ {before : Store} {j : Nat} {claim : SalesImportClaim} {env : Environment},
      Served settings ucd before world j claim env →
        Served settings ucd before (world.apply lockKey i worker effect) j claim env := by
    intro before j claim env served
    obtain ⟨other, there, claimed, outcome⟩ := served.answered
    refine ⟨served.snapshot, ?_⟩
    rw [apply_workers]
    by_cases same : j = i
    · subst same
      obtain rfl : worker = other := Option.some.inj (here.symm.trans there)
      exact ⟨_, now, claimed, turn.outcome outcome⟩
    · exact ⟨other, (still _ same).trans there, claimed, outcome⟩
  rcases turn.entry i with ⟨none, after⟩ | ⟨event, one, own, after⟩
  · refine ⟨?_, ?_, ?_⟩
    · rw [apply_store, apply_history, none, List.append_nil, after]
      exact replayed.store
    · rw [apply_workers, apply_history, none, List.append_nil]
      exact kept_own
    · intro front j claim env back whole
      rw [apply_history, none, List.append_nil] at whole
      exact kept_served (replayed.served front j claim env back whole)
  · refine ⟨?_, ?_, ?_⟩
    · rw [apply_store, apply_history, one, after, replay_append, ← replayed.store]
    · rw [apply_workers, apply_history, one]
      intro entry listed
      rcases List.mem_append.mp listed with old | new
      · exact kept_own entry old
      · rw [List.mem_singleton.mp new]
        exact ⟨_, now, own⟩
    · intro front j claim env back whole
      rw [apply_history, one] at whole
      rcases append_singleton_cases whole with ⟨rfl, new, _⟩ | ⟨rest, _, old⟩
      · rw [new] at one
        obtain ⟨rfl, rfl, snapshot, outcome⟩ := turn.publication one
        rw [← replayed.store]
        refine ⟨snapshot, ?_⟩
        rw [apply_workers]
        exact ⟨_, now, rfl, outcome⟩
      · exact kept_served (replayed.served front j claim env rest old)

/-! ## The order of the lock -/

/-- Publications end in the order in which the lock was acquired, and the worker inside is the
last that acquired it. -/
structure Ordered (world : World) : Prop where
  nodup : world.order.Nodup
  entered : ∀ j ∈ world.order, ∃ worker, world.workers[j]? = some worker ∧ worker.stage.polling = false
  publishers : (publishers world.history).Sublist world.order
  last : ∀ (j : Nat) (worker : Worker), world.workers[j]? = some worker → worker.stage.inside = true →
    ∃ past, world.order = past ++ [j] ∧ (SourceLock.publishers world.history).Sublist past

theorem Turn.polls {store : Store} {holder : Option Nat} {claim : SalesImportClaim} {stage : Stage}
    (turn : Turn settings ucd store holder claim stage effect) (known : stage.polling = false) :
    effect.stage.polling = false := by
  cases turn with
  | moved next freed stays polls =>
    by_contra again
    rw [polls (by simpa [Effect.stage] using again)] at known
    cases known
  | acquired => rfl
  | beaten env leaseDuration next freed stays polls =>
    by_contra again
    rw [polls (by simpa [Effect.stage] using again)] at known
    cases known
  | aborted => rfl
  | committed => rfl

theorem Ordered.acquire (ordered : Ordered world) (team : Team lockKey sourceSystem world)
    (here : world.workers[i]? = some worker) (waits : worker.stage = .waiting)
    (free : world.locks (lockKey worker.sourceSystem) = none) :
    Ordered (world.apply lockKey i worker .acquires) := by
  have source : worker.sourceSystem = sourceSystem := team.sources worker (List.mem_of_getElem? here)
  have bounded : i < world.workers.length := (List.getElem?_eq_some_iff.mp here).1
  have now : (world.workers.set i (worker.took .acquires))[i]? = some (worker.took .acquires) := by
    rw [List.getElem?_set, if_pos rfl, if_pos bounded]
  have absent : i ∉ world.order := by
    intro listed
    obtain ⟨other, there, entered⟩ := ordered.entered i listed
    obtain rfl : worker = other := Option.some.inj (here.symm.trans there)
    rw [waits] at entered
    cases entered
  have order : (world.apply lockKey i worker .acquires).order = world.order ++ [i] := rfl
  have history : (world.apply lockKey i worker .acquires).history = world.history := rfl
  refine ⟨?_, ?_, ?_, ?_⟩
  · rw [order]
    exact List.nodup_append.mpr ⟨ordered.nodup, by simp, by
      intro j listed k single same
      rw [List.mem_singleton.mp single] at same
      exact absent (same ▸ listed)⟩
  · intro j listed
    rw [apply_workers]
    rw [order] at listed
    rcases List.mem_append.mp listed with old | new
    · obtain ⟨other, there, entered⟩ := ordered.entered j old
      refine ⟨other, ?_, entered⟩
      rw [List.getElem?_set, if_neg]
      · exact there
      · intro same
        exact absent (same ▸ old)
    · rw [List.mem_singleton.mp new]
      exact ⟨_, now, rfl⟩
  · rw [history, order]
    exact ordered.publishers.trans (List.sublist_append_left _ _)
  · intro j other there inside
    rw [apply_workers] at there
    rcases getElem?_set_cases there with ⟨rfl, _⟩ | ⟨_, kept⟩
    · exact ⟨world.order, order, history ▸ ordered.publishers⟩
    · have held := team.guarded j other kept inside
      rw [← source, free] at held
      cases held

theorem Ordered.move (ordered : Ordered world) (team : Team lockKey sourceSystem world)
    (here : world.workers[i]? = some worker) {holder : Option Nat}
    (turn : Turn settings ucd world.store holder worker.claim worker.stage effect)
    (order : (world.apply lockKey i worker effect).order = world.order)
    (stays : effect.stage.inside = true → worker.stage.inside = true) :
    Ordered (world.apply lockKey i worker effect) := by
  have bounded : i < world.workers.length := (List.getElem?_eq_some_iff.mp here).1
  have now : (world.workers.set i (worker.took effect))[i]? = some (worker.took effect) := by
    rw [List.getElem?_set, if_pos rfl, if_pos bounded]
  refine ⟨?_, ?_, ?_, ?_⟩
  · rw [order]
    exact ordered.nodup
  · intro j listed
    rw [order] at listed
    rw [apply_workers]
    obtain ⟨other, there, entered⟩ := ordered.entered j listed
    by_cases same : j = i
    · subst same
      obtain rfl : worker = other := Option.some.inj (here.symm.trans there)
      exact ⟨_, now, turn.polls entered⟩
    · refine ⟨other, ?_, entered⟩
      rw [List.getElem?_set, if_neg (fun equal => same equal.symm)]
      exact there
  · rw [order, apply_history, publishers_append]
    rcases turn.publishers i with none | ⟨one, inside, _⟩
    · rw [none, List.append_nil]
      exact ordered.publishers
    · obtain ⟨past, whole, before⟩ := ordered.last i worker here inside
      rw [one, whole]
      exact before.append (List.Sublist.refl _)
  · intro j other there inside
    rw [apply_workers] at there
    rw [order, apply_history, publishers_append]
    have unpublished : SourceLock.publishers (effect.entries i) = [] := by
      rcases turn.publishers i with none | ⟨_, holds, outside⟩
      · exact none
      · rcases getElem?_set_cases there with ⟨_, rfl⟩ | ⟨apart, kept⟩
        · change effect.stage.inside = true at inside
          rw [outside] at inside
          cases inside
        · exact absurd (team.alone kept here inside holds) apart
    rw [unpublished, List.append_nil]
    rcases getElem?_set_cases there with ⟨rfl, rfl⟩ | ⟨_, kept⟩
    · exact ordered.last j worker here (stays inside)
    · exact ordered.last j other kept inside

theorem Ordered.step (ordered : Ordered world) (team : Team lockKey sourceSystem world)
    (here : world.workers[i]? = some worker)
    (turn : Turn settings ucd world.store (world.locks (lockKey worker.sourceSystem)) worker.claim
      worker.stage effect) : Ordered (world.apply lockKey i worker effect) := by
  have whole := turn
  cases turn with
  | moved next freed stays => exact ordered.move team here whole rfl (fun entered => (stays entered).1)
  | acquired waits free => exact ordered.acquire team here waits free
  | beaten env leaseDuration next freed stays =>
    exact ordered.move team here whole rfl (fun entered => (stays entered).1)
  | aborted => exact ordered.move team here whole rfl (by simp [Effect.stage, Stage.inside])
  | committed => exact ordered.move team here whole rfl (by simp [Effect.stage, Stage.inside])

/-! ## What the workers are answered -/

theorem Finished.found_again {store next : Store} {result : SalesImportProcessingResult}
    (finished : Finished store result) (same : findImport next result.jobId = findImport store result.jobId) :
    Finished next result := by
  obtain ⟨job, found, rest⟩ := finished
  refine ⟨job, ?_, rest⟩
  rw [← found]
  unfold findJob
  rw [same]

/-- A finished job has no lease to renew. -/
theorem Finished.renewed {store next : Store} {result : SalesImportProcessingResult} {jobId leaseToken : Uuid}
    (finished : Finished store result) (renews : Renews store next jobId leaseToken) :
    Finished next result := by
  refine finished.found_again (renews.others _ ?_)
  intro job _ found token
  obtain ⟨other, located, unleased, _⟩ := finished
  obtain rfl : job = other := Option.some.inj (found.symm.trans located)
  rw [unleased] at token
  cases token

/-- A finished job is not finished again. -/
theorem Finished.beside {store next : Store} {result other : SalesImportProcessingResult}
    {claim : SalesImportClaim} (finished : Finished store result)
    (finishes : Finishes store next claim other) : Finished next result := by
  refine finished.found_again (finishes.others _ ?_)
  intro same
  obtain ⟨job, found, token⟩ := finishes.leased
  obtain ⟨held, located, unleased, _⟩ := finished
  rw [same] at located
  obtain rfl : job = held := Option.some.inj (found.symm.trans located)
  rw [unleased] at token
  cases token

theorem Turn.finished {store : Store} {holder : Option Nat} {claim : SalesImportClaim} {stage : Stage}
    (turn : Turn settings ucd store holder claim stage effect) {result : SalesImportProcessingResult}
    (finished : Finished store result) : Finished (effect.after store) result := by
  cases turn with
  | moved => exact finished
  | acquired => exact finished
  | beaten env leaseDuration =>
    exact finished.renewed (heartbeat_renews settings ucd store _ _ leaseDuration env)
  | aborted => exact finished
  | committed env other next inserts holds running snapshot done adds rows finishes =>
    exact finished.beside finishes

/-- A step adds no fact, and the result of a worker after it is one the worker had; or it
commits the worker's publication and answers it. -/
theorem Turn.results {store : Store} {holder : Option Nat} {claim : SalesImportClaim} {stage : Stage}
    (turn : Turn settings ucd store holder claim stage effect) :
    effect.inserted = [] ∧ (effect.after store).factTable.facts = store.factTable.facts ∧
        (∀ result, effect.stage.outcome = some (.ok result) → stage.outcome = some (.ok result)) ∨
      ∃ env result next inserts, effect =
          .transacts (.publishOnce claim, env) next (.releasing (.ok result)) inserts false ∧
        stage.inside = true ∧ stage.outcome = none ∧
        answer settings ucd env (.publishOnce claim) store = (.ok result, next) ∧
        Adds store next inserts ∧ Finishes store next claim result := by
  cases turn with
  | moved next freed stays polls stands kept unanswered => exact Or.inl ⟨rfl, rfl, unanswered⟩
  | acquired => exact Or.inl ⟨rfl, rfl, by simp [Effect.stage, Stage.outcome]⟩
  | beaten env leaseDuration next freed stays polls stands running unanswered =>
    refine Or.inl ⟨rfl, ?_, fun result answered => absurd answered (unanswered result)⟩
    exact congrArg FactTable.facts (heartbeat_renews settings ucd store _ _ leaseDuration env).facts
  | aborted => exact Or.inl ⟨rfl, rfl, by simp [Effect.stage, Stage.outcome]⟩
  | committed env result next inserts holds running snapshot done adds rows finishes =>
    exact Or.inr ⟨env, result, next, inserts, rfl, holds, running, done, adds, finishes⟩

def factValues (store : Store) : List SalesValues := store.factTable.facts.map SalesTransaction.values

/-- The facts that these workers have committed, one worker after the other. -/
def World.committed (world : World) (sessions : List Nat) : List SalesValues :=
  sessions.flatMap (fun j => (world.workers[j]?.map Worker.inserted).getD [])

/-- A result is the answer of the worker's own publication in the serial run. It runs on the
facts of the workers that got the lock before, and adds the worker's facts to them. -/
structure Answered (settings : Settings) (ucd : PyText.UnicodeDatabase) (start : Store) (world : World)
    (j : Nat) (worker : Worker) (result : SalesImportProcessingResult) (front : List (Nat × Event))
    (env : Environment) (past : List Nat) : Prop where
  history : ∃ back, world.history = front ++ (j, (.publishOnce worker.claim, env)) :: back
  order : ∃ later, world.order = past ++ j :: later
  reply : (answer settings ucd env (.publishOnce worker.claim) (replay settings ucd start front)).1 =
    .ok result
  before : factValues (replay settings ucd start front) = factValues start ++ world.committed past
  after : factValues (replay settings ucd start (front ++ [(j, (.publishOnce worker.claim, env))])) =
    factValues (replay settings ucd start front) ++ worker.inserted

/-- The results of the workers and the facts are those of the serial run. -/
structure Accounted (settings : Settings) (ucd : PyText.UnicodeDatabase) (start : Store) (world : World) :
    Prop where
  unpublished : ∀ worker ∈ world.workers, (∀ result, worker.stage.outcome ≠ some (.ok result)) →
    worker.inserted = []
  facts : factValues world.store = factValues start ++ world.committed world.order
  answers : ∀ (j : Nat) (worker : Worker) (result : SalesImportProcessingResult),
    world.workers[j]? = some worker → worker.stage.outcome = some (.ok result) →
      ∃ front env past, Answered settings ucd start world j worker result front env past
  jobs : ∀ worker ∈ world.workers, ∀ result, worker.stage.outcome = some (.ok result) →
    result.jobId = worker.claim.jobId ∧ Finished world.store result

/-- The order grows by a worker that acquires the lock. -/
theorem Turn.order (lockKey : String → Int) (i : Nat) {holder : Option Nat}
    (turn : Turn settings ucd world.store holder worker.claim worker.stage effect) :
    (world.apply lockKey i worker effect).order = world.order ∨
      (world.apply lockKey i worker effect).order = world.order ++ [i] ∧ worker.stage.outcome = none := by
  cases turn with
  | acquired waits =>
    right
    rw [waits]
    exact ⟨rfl, rfl⟩
  | _ => exact Or.inl rfl

theorem committed_append (world : World) (first second : List Nat) :
    world.committed (first ++ second) = world.committed first ++ world.committed second :=
  List.flatMap_append

theorem committed_single (there : world.workers[i]? = some worker) :
    world.committed [i] = worker.inserted := by
  simp [World.committed, there]

/-- The step of a worker that inserts nothing, or is not one of these. -/
theorem committed_apply (here : world.workers[i]? = some worker) {sessions : List Nat}
    (quiet : effect.inserted = [] ∨ i ∉ sessions) :
    (world.apply lockKey i worker effect).committed sessions = world.committed sessions := by
  have bounded : i < world.workers.length := (List.getElem?_eq_some_iff.mp here).1
  unfold World.committed
  rw [List.flatMap_def, List.flatMap_def]
  congr 1
  apply List.map_congr_left
  intro j listed
  rw [apply_workers, List.getElem?_set]
  split_ifs with same
  · subst same
    rcases quiet with none | absent
    · rw [here]
      simp [Worker.took, none]
    · exact absurd listed absent
  · rfl

/-- A step that adds no fact leaves the answered workers answered. -/
theorem Answered.quiet {start : Store} {j : Nat} {other : Worker} {result : SalesImportProcessingResult}
    {front : List (Nat × Event)} {env : Environment} {past : List Nat}
    (answered : Answered settings ucd start world j other result front env past)
    (here : world.workers[i]? = some worker) (apart : effect.inserted = [] ∨ i ∉ past)
    {changed : Worker} (claim : changed.claim = other.claim) (inserted : changed.inserted = other.inserted) :
    Answered settings ucd start (world.apply lockKey i worker effect) j changed result front env past := by
  obtain ⟨back, whole⟩ := answered.history
  obtain ⟨later, listed⟩ := answered.order
  refine ⟨⟨back ++ effect.entries i, ?_⟩, ?_, ?_, ?_, ?_⟩
  · rw [apply_history, whole, claim, List.append_assoc, List.cons_append]
  · cases effect with
    | acquires =>
      refine ⟨later ++ [i], ?_⟩
      change world.order ++ [i] = _
      rw [listed, List.append_assoc, List.cons_append]
    | _ => exact ⟨later, listed⟩
  · rw [claim]
    exact answered.reply
  · rw [committed_apply here apart]
    exact answered.before
  · rw [claim, inserted]
    exact answered.after

/-- A commit answers its worker, on the facts of those that got the lock before. -/
theorem answered_commit {start : Store} (replayed : Replayed settings ucd start world)
    (here : world.workers[i]? = some worker) {past : List Nat} (whole : world.order = past ++ [i])
    (absent : i ∉ past) (nothing : worker.inserted = [])
    (before : factValues world.store = factValues start ++ world.committed past) {env : Environment}
    {result : SalesImportProcessingResult} {next : Store} {inserts : List SalesValues}
    (done : answer settings ucd env (.publishOnce worker.claim) world.store = (.ok result, next))
    (adds : Adds world.store next inserts)
    (taken : Effect.transacts (.publishOnce worker.claim, env) next (.releasing (.ok result)) inserts false =
      effect) :
    Answered settings ucd start (world.apply lockKey i worker effect) i (worker.took effect) result world.history
      env past := by
  have stepped : System.step settings ucd world.store (.publishOnce worker.claim, env) = next :=
    congrArg Prod.snd done
  have inserted : (worker.took effect).inserted = inserts := by
    rw [← taken, Worker.took, nothing]
    rfl
  refine ⟨⟨[], ?_⟩, ⟨[], ?_⟩, ?_, ?_, ?_⟩
  · rw [apply_history, ← taken]
    rfl
  · rw [← taken]
    exact whole
  · rw [← replayed.store]
    exact congrArg Prod.fst done
  · rw [← replayed.store, committed_apply here (Or.inr absent)]
    exact before
  · rw [replay_append, ← replayed.store, inserted]
    exact (congrArg factValues stepped).trans adds.facts

/-- A worker answered before got the lock before the last of the order. -/
theorem Answered.before_last {start : Store} {j : Nat} {other : Worker} {answer : SalesImportProcessingResult}
    {front : List (Nat × Event)} {env : Environment} {others past : List Nat}
    (answered : Answered settings ucd start world j other answer front env others)
    (whole : world.order = past ++ [i]) (apart : j ≠ i) (absent : i ∉ past) : i ∉ others := by
  obtain ⟨later, same⟩ := answered.order
  rw [whole] at same
  rcases append_singleton_cases same with ⟨_, equal, _⟩ | ⟨rest, _, split⟩
  · exact absurd equal.symm apart
  · intro listed
    rw [split] at absent
    exact absent (List.mem_append_left _ listed)

/-- A commit answers its worker: the lock's order ends with it, and so does the history. -/
theorem Accounted.commit {start : Store} (accounted : Accounted settings ucd start world)
    (replayed : Replayed settings ucd start world) (ordered : Ordered world)
    (here : world.workers[i]? = some worker) (holds : worker.stage.inside = true)
    (running : worker.stage.outcome = none) {env : Environment} {result : SalesImportProcessingResult}
    {next : Store} {inserts : List SalesValues}
    (done : answer settings ucd env (.publishOnce worker.claim) world.store = (.ok result, next))
    (adds : Adds world.store next inserts) (finishes : Finishes world.store next worker.claim result) :
    Accounted settings ucd start (world.apply lockKey i worker
      (.transacts (.publishOnce worker.claim, env) next (.releasing (.ok result)) inserts false)) := by
  have bounded : i < world.workers.length := (List.getElem?_eq_some_iff.mp here).1
  obtain ⟨past, whole, _⟩ := ordered.last i worker here holds
  have absent : i ∉ past := by
    have nodup := ordered.nodup
    rw [whole] at nodup
    intro listed
    exact (List.disjoint_of_nodup_append nodup) listed (List.mem_singleton_self i)
  have nothing : worker.inserted = [] := by
    apply accounted.unpublished worker (List.mem_of_getElem? here)
    intro other answered
    rw [running] at answered
    cases answered
  have before : factValues world.store = factValues start ++ world.committed past := by
    rw [accounted.facts, whole, committed_append, committed_single here, nothing, List.append_nil]
  have grown : factValues next = factValues world.store ++ inserts := adds.facts
  generalize taken : Effect.transacts (.publishOnce worker.claim, env) next (.releasing (.ok result)) inserts
    false = effect
  have order : (world.apply lockKey i worker effect).order = world.order := by
    rw [← taken]
    rfl
  have outcome : (worker.took effect).stage.outcome = some (.ok result) := by
    rw [← taken]
    rfl
  have inserted : (worker.took effect).inserted = inserts := by
    rw [← taken, Worker.took, nothing]
    rfl
  have now : (world.apply lockKey i worker effect).workers[i]? = some (worker.took effect) := by
    rw [apply_workers, List.getElem?_set, if_pos rfl, if_pos bounded]
  have after : (world.apply lockKey i worker effect).store = next := by
    rw [apply_store, ← taken]
    rfl
  refine ⟨?_, ?_, ?_, ?_⟩
  · intro other member unanswered
    rw [apply_workers] at member
    rcases List.mem_or_eq_of_mem_set member with old | rfl
    · exact accounted.unpublished other old unanswered
    · exact absurd outcome (unanswered result)
  · rw [after, order, whole, committed_append, committed_single now, committed_apply here (Or.inr absent),
      inserted, grown, before, List.append_assoc]
  · intro j other answer there answered
    rw [apply_workers] at there
    rcases getElem?_set_cases there with ⟨rfl, rfl⟩ | ⟨apart, kept⟩
    · obtain rfl : result = answer := Except.ok.inj (Option.some.inj (outcome.symm.trans answered))
      exact ⟨_, env, past, answered_commit replayed here whole absent nothing before done adds taken⟩
    · obtain ⟨front, earlier, others, known⟩ := accounted.answers j other answer kept answered
      exact ⟨front, earlier, others,
        known.quiet here (Or.inr (known.before_last whole apart absent)) rfl rfl⟩
  · intro other member answer answered
    rw [apply_workers] at member
    rw [after]
    rcases List.mem_or_eq_of_mem_set member with old | rfl
    · obtain ⟨same, finished⟩ := accounted.jobs other old answer answered
      exact ⟨same, finished.beside finishes⟩
    · obtain rfl : result = answer := Except.ok.inj (Option.some.inj (outcome.symm.trans answered))
      exact ⟨finishes.same, finishes.finished⟩

theorem Accounted.step {start : Store} (accounted : Accounted settings ucd start world)
    (replayed : Replayed settings ucd start world) (ordered : Ordered world)
    (here : world.workers[i]? = some worker) {holder : Option Nat}
    (turn : Turn settings ucd world.store holder worker.claim worker.stage effect) :
    Accounted settings ucd start (world.apply lockKey i worker effect) := by
  rcases turn.results with ⟨quiet, same, unanswered⟩ |
    ⟨env, result, next, inserts, rfl, holds, running, done, adds, finishes⟩
  · have member := List.mem_of_getElem? here
    have inserted : (worker.took effect).inserted = worker.inserted := by
      rw [Worker.took, quiet]
      exact List.append_nil _
    have kept : ∀ sessions, (world.apply lockKey i worker effect).committed sessions =
        world.committed sessions := fun sessions => committed_apply here (Or.inl quiet)
    refine ⟨?_, ?_, ?_, ?_⟩
    · intro other inside none
      rw [apply_workers] at inside
      rcases List.mem_or_eq_of_mem_set inside with old | rfl
      · exact accounted.unpublished other old none
      · rw [inserted]
        exact accounted.unpublished worker member (fun result answered => none result (turn.outcome answered))
    · rw [apply_store, factValues, same, kept]
      change factValues world.store = _
      rcases turn.order lockKey i with unchanged | ⟨entered, waits⟩
      · rw [unchanged]
        exact accounted.facts
      · have nothing : worker.inserted = [] := by
          apply accounted.unpublished worker member
          rw [waits]
          simp
        rw [entered, committed_append, committed_single here, nothing, List.append_nil]
        exact accounted.facts
    · intro j other result there answered
      rw [apply_workers] at there
      rcases getElem?_set_cases there with ⟨rfl, rfl⟩ | ⟨_, old⟩
      · obtain ⟨front, env, past, known⟩ := accounted.answers j worker result here (unanswered result answered)
        exact ⟨front, env, past, known.quiet here (Or.inl quiet) rfl inserted⟩
      · obtain ⟨front, env, past, known⟩ := accounted.answers j other result old answered
        exact ⟨front, env, past, known.quiet here (Or.inl quiet) rfl rfl⟩
    · intro other inside result answered
      rw [apply_workers] at inside
      rw [apply_store]
      rcases List.mem_or_eq_of_mem_set inside with old | rfl
      · obtain ⟨same_job, finished⟩ := accounted.jobs other old result answered
        exact ⟨same_job, turn.finished finished⟩
      · obtain ⟨same_job, finished⟩ := accounted.jobs worker member result (unanswered result answered)
        exact ⟨same_job, turn.finished finished⟩
  · exact accounted.commit replayed ordered here holds running done adds finishes

end Team

/-! ## Every interleaving -/

/-- All that the lock brings about. -/
structure Serial (settings : Settings) (ucd : PyText.UnicodeDatabase) (start : Store) (world : World) :
    Prop extends Known settings world, Replayed settings ucd start world, Ordered world,
      Accounted settings ucd start world where
  retries : ∀ worker ∈ world.workers, worker.stage.attemptNumber = 0

/-- A worker that has not polled yet. -/
def newWorker (sourceSystem : String) (claim : SalesImportClaim) : Worker where
  claim := claim
  sourceSystem := sourceSystem

section Runs
variable (settings : Settings) (ucd : PyText.UnicodeDatabase) (lockKey : String → Int) (start : Store)
  (sourceSystem : String)

/-- What holds in every state of the workers. -/
structure Kept (world : World) : Prop extends Team lockKey sourceSystem world, Known settings world,
    Replayed settings ucd start world, Ordered world, Accounted settings ucd start world

theorem kept_opening (rows : RowsDistinct start) (claims : List SalesImportClaim)
    (tokens : (claims.map SalesImportClaim.leaseToken).Nodup) :
    Kept settings ucd lockKey start sourceSystem
      (opening start (claims.map (newWorker sourceSystem))) := by
  have fresh : ∀ worker ∈ claims.map (newWorker sourceSystem),
      worker.stage = .waiting ∧ worker.inserted = [] ∧ worker.sourceSystem = sourceSystem := by
    intro worker member
    obtain ⟨claim, _, rfl⟩ := List.mem_map.mp member
    exact ⟨rfl, rfl, rfl⟩
  refine ⟨⟨?_, ?_, ?_⟩, ⟨rows, ?_, ?_, ?_⟩, ⟨rfl, ?_, ?_⟩, ⟨List.nodup_nil, ?_, List.Sublist.refl _, ?_⟩,
    ⟨?_, (List.append_nil _).symm, ?_, ?_⟩⟩
  · intro worker member
    exact (fresh worker member).2.2
  · change ((claims.map (newWorker sourceSystem)).map (fun worker => worker.claim.leaseToken)).Nodup
    rw [List.map_map]
    exact tokens
  · intro j worker there inside
    rw [(fresh worker (List.mem_of_getElem? there)).1] at inside
    cases inside
  · intro j worker there
    rw [(fresh worker (List.mem_of_getElem? there)).1]
    trivial
  · intro worker member values listed
    rw [(fresh worker member).2.1] at listed
    cases listed
  · intro j k first second _ there _ values listed
    rw [(fresh first (List.mem_of_getElem? there)).2.1] at listed
    cases listed
  · intro entry listed
    cases listed
  · intro front j claim env back whole
    cases front <;> cases whole
  · intro j listed
    cases listed
  · intro j worker there inside
    rw [(fresh worker (List.mem_of_getElem? there)).1] at inside
    cases inside
  · intro worker member _
    exact (fresh worker member).2.1
  · intro j worker result there answered
    rw [(fresh worker (List.mem_of_getElem? there)).1] at answered
    cases answered
  · intro worker member result answered
    rw [(fresh worker member).1] at answered
    cases answered

variable {settings ucd lockKey start sourceSystem}

theorem Kept.step {world : World} (kept : Kept settings ucd lockKey start sourceSystem world)
    (choice : Nat × Tick) :
    Kept settings ucd lockKey start sourceSystem (step settings ucd lockKey world choice) := by
  unfold SourceLock.step
  cases here : world.workers[choice.1]? with
  | none => exact kept
  | some worker =>
    have turn := @effect_turn settings ucd choice.2 lockKey world worker kept.rows
      (kept.stands choice.1 worker here)
    exact ⟨kept.toTeam.step here turn, kept.toKnown.step kept.toTeam here turn,
      kept.toReplayed.step here turn, kept.toOrdered.step kept.toTeam here turn,
      kept.toAccounted.step kept.toReplayed kept.toOrdered here turn⟩

end Runs

namespace Sample

def tick (now : Instant) : Tick where
  env := System.Sample.environment now 0 0
  timedOut := false
  heartbeatDue := false
  failure := none
  freed := true

def firstRows : List SalesImportStagedRow := [Validation.Sample.row 2 "A-1" "PROD"]

/-- The second file repeats the first file's record. -/
def secondRows : List SalesImportStagedRow :=
  [Validation.Sample.row 2 "A-2" "PROD", Validation.Sample.row 3 "A-1" "PROD"]

def otherIntake : SalesImport :=
  { Publication.Sample.intake secondRows with
    id := 4
    sha256 := "1f"
    processingJob := some { Publication.Sample.job secondRows with
      leaseToken := some 10
      attempts := [{ Publication.Sample.attempt secondRows with leaseToken := 10 }] } }

def otherClaim : SalesImportClaim := { Publication.Sample.otherClaim with leaseToken := 10 }

def pairStore : Store where
  importTable := ⟨[Publication.Sample.intake firstRows, otherIntake], by decide, by decide, by
    simp [SalesImport.MetadataConsistent, Publication.Sample.intake, otherIntake]⟩
  factTable := FactTable.empty
  master := Validation.Sample.master

theorem rowsDistinct : RowsDistinct pairStore := by
  intro pk job found attempt member
  obtain ⟨intake, located, held⟩ := findJob_import found
  obtain ⟨listed, _⟩ := ImportTable.find_some located
  change intake ∈ [Publication.Sample.intake firstRows, otherIntake] at listed
  rcases List.mem_cons.mp listed with rfl | second
  · rw [← Option.some.inj held] at member
    rw [List.mem_singleton.mp member]
    decide
  · rw [List.mem_singleton.mp second] at held
    rw [← Option.some.inj held] at member
    rw [List.mem_singleton.mp member]
    decide

/-- The first worker gets the lock while the second one polls, publishes and gives it up; then
the second one publishes. -/
def schedule : List (Nat × Tick) :=
  [(0, tick 10), (1, tick 11), (0, tick 12), (0, tick 13), (1, tick 14), (0, tick 15), (0, tick 16),
    (0, tick 17), (0, tick 18), (1, tick 19), (0, tick 20), (1, tick 21), (1, tick 22), (1, tick 23),
    (1, tick 24), (1, tick 25), (1, tick 26), (1, tick 27), (1, tick 28)]

end Sample

/-- The files share a record: the first worker inserts it, the second one reuses it. -/
example : (run (step Publication.Sample.settings PyText.asciiDatabase (fun _ => 7))
    (opening Sample.pairStore ([Publication.Sample.claim, Sample.otherClaim].map (newWorker "ERP")))
    Sample.schedule).workers.map (fun worker => worker.inserted.map SalesValues.sourceRecordId) =
      [["A-1"], ["A-2"]] := by
  decide +kernel

end PharmaIntel.SourceLock
