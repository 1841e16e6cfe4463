import Mathlib

/-! Machines that take step after step: over a list of events, over a transcript, in a loop,
and as sessions that enter sections under a lock. -/

namespace PharmaIntel.Base

/-! ## Runs

Runs of a deterministic transition function over a list of events, and the induction rules for
what holds along a run. -/

section Runs
variable {σ ε : Type}

/-- The state after the events, oldest first. -/
def run (step : σ → ε → σ) (start : σ) (events : List ε) : σ := events.foldl step start

@[simp] theorem run_nil (step : σ → ε → σ) (start : σ) : run step start [] = start := rfl

@[simp] theorem run_cons (step : σ → ε → σ) (start : σ) (event : ε) (events : List ε) :
    run step start (event :: events) = run step (step start event) events := rfl

theorem run_append (step : σ → ε → σ) (start : σ) (first second : List ε) :
    run step start (first ++ second) = run step (run step start first) second :=
  List.foldl_append

/-- What every admitted event preserves holds along every run of admitted events. -/
theorem run_invariant (step : σ → ε → σ) (Admitted : ε → Prop) (Holds : σ → Prop)
    (preserved : ∀ state event, Admitted event → Holds state → Holds (step state event))
    (start : σ) (initial : Holds start) (events : List ε)
    (admitted : ∀ event ∈ events, Admitted event) : Holds (run step start events) := by
  induction events generalizing start with
  | nil => exact initial
  | cons event events ih =>
    have first := preserved start event (admitted event List.mem_cons_self) initial
    exact ih _ first (fun other member => admitted other (List.mem_cons_of_mem event member))

/-- The same rule for statements that also speak of the events so far. -/
theorem run_history (step : σ → ε → σ) (start : σ) (Holds : List ε → σ → Prop)
    (initial : Holds [] start)
    (preserved : ∀ past event, Holds past (run step start past) →
      Holds (past ++ [event]) (step (run step start past) event))
    (events : List ε) : Holds events (run step start events) := by
  induction events using List.reverseRecOn with
  | nil => exact initial
  | append_singleton past event ih =>
    rw [run_append]
    exact preserved past event ih

/-! ### Runs whose events are admitted where they come -/

/-- Every event is admitted in the state it meets. -/
def AdmittedRun (step : σ → ε → σ) (Admitted : σ → ε → Prop) : σ → List ε → Prop
  | _, [] => True
  | state, event :: events => Admitted state event ∧ AdmittedRun step Admitted (step state event) events

section Admitted
variable {step : σ → ε → σ} {Admitted : σ → ε → Prop}

instance decidableAdmittedRun [∀ state event, Decidable (Admitted state event)] :
    ∀ (start : σ) (events : List ε), Decidable (AdmittedRun step Admitted start events)
  | _, [] => inferInstanceAs (Decidable True)
  | start, event :: events => @instDecidableAnd _ _ _ (decidableAdmittedRun (step start event) events)

theorem AdmittedRun.front {start : σ} {first second : List ε}
    (admitted : AdmittedRun step Admitted start (first ++ second)) : AdmittedRun step Admitted start first := by
  induction first generalizing start with
  | nil => trivial
  | cons event first ih => exact ⟨admitted.1, ih admitted.2⟩

theorem AdmittedRun.run_invariant {Holds : σ → Prop}
    (preserved : ∀ state event, Admitted state event → Holds state → Holds (step state event))
    {start : σ} (initial : Holds start) {events : List ε} (admitted : AdmittedRun step Admitted start events) :
    Holds (run step start events) := by
  induction events generalizing start with
  | nil => exact initial
  | cons event events ih => exact ih (preserved start event admitted.1 initial) admitted.2

end Admitted

end Runs

/-! ## Transcripts

Machines that take an event only where they are ready for it, and the transcripts they follow. An
induction over transcripts speaks of the events so far and of the state. -/

section Transcripts
variable {σ ε : Type} (step : σ → ε → Option σ)

/-- The state after the events, oldest first; none when one of them is not taken. -/
def follow : σ → List ε → Option σ
  | state, [] => some state
  | state, event :: rest => (step state event).bind (fun next => follow next rest)

theorem follow_append (start : σ) (first second : List ε) :
    follow step start (first ++ second) =
      (follow step start first).bind (fun middle => follow step middle second) := by
  induction first generalizing start with
  | nil => rfl
  | cons event rest ih =>
    rw [List.cons_append, follow, follow]
    cases step start event with
    | none => rfl
    | some next => exact ih next

variable {step}

/-- A transcript is followed up to an event, takes it and is followed from there. -/
theorem follow_split {start final : σ} {front back : List ε} {event : ε}
    (followed : follow step start (front ++ event :: back) = some final) :
    ∃ before after, follow step start front = some before ∧ step before event = some after ∧
      follow step after back = some final := by
  rw [follow_append] at followed
  obtain ⟨before, reached, later⟩ := Option.bind_eq_some_iff.mp followed
  rw [follow] at later
  obtain ⟨after, taken, ended⟩ := Option.bind_eq_some_iff.mp later
  exact ⟨before, after, reached, taken, ended⟩

/-- What holds at the start and after every event taken holds along every transcript. -/
theorem follow_history {start : σ} (Holds : List ε → σ → Prop) (initial : Holds [] start)
    (preserved : ∀ past state event next, Holds past state → step state event = some next →
      Holds (past ++ [event]) next)
    {events : List ε} {final : σ} (followed : follow step start events = some final) :
    Holds events final := by
  induction events using List.reverseRecOn generalizing final with
  | nil =>
    cases followed
    exact initial
  | append_singleton past event ih =>
    obtain ⟨before, after, reached, taken, ended⟩ := follow_split followed
    obtain rfl : after = final := Option.some.inj ended
    exact preserved past before event after (ih reached) taken

end Transcripts

/-! ## Loops

Loops that end because every further turn lowers a measure, and the rule for what holds of
their results. -/

section Loops
variable {σ ρ : Type}

inductive Turn (σ ρ : Type) where
  | again (state : σ)
  | ended (result : ρ)

/-- A loop with the reason why it ends. -/
structure Loop (σ ρ : Type) where
  turn : σ → Turn σ ρ
  measure : σ → Nat
  decreases : ∀ state next, turn state = .again next → measure next < measure state

def Loop.run (loop : Loop σ ρ) (state : σ) : ρ :=
  match _ : loop.turn state with
  | .again next => loop.run next
  | .ended result => result
termination_by loop.measure state
decreasing_by exact loop.decreases state next ‹_›

theorem Loop.run_again {loop : Loop σ ρ} {state next : σ} (taken : loop.turn state = .again next) :
    loop.run state = loop.run next := by
  rw [Loop.run]
  split
  · rename_i other same
    obtain rfl : other = next := Turn.again.inj (same.symm.trans taken)
    rfl
  · rename_i result same
    cases same.symm.trans taken

theorem Loop.run_ended {loop : Loop σ ρ} {state : σ} {result : ρ} (taken : loop.turn state = .ended result) :
    loop.run state = result := by
  rw [Loop.run]
  split
  · rename_i other same
    cases same.symm.trans taken
  · rename_i other same
    exact Turn.ended.inj (same.symm.trans taken)

/-- What every further turn keeps gives the result its promise. -/
theorem Loop.run_meets (loop : Loop σ ρ) (Holds : σ → Prop) (Promise : ρ → Prop)
    (kept : ∀ state next, Holds state → loop.turn state = .again next → Holds next)
    (ends : ∀ state result, Holds state → loop.turn state = .ended result → Promise result)
    (state : σ) (holds : Holds state) : Promise (loop.run state) := by
  induction bound : loop.measure state using Nat.strong_induction_on generalizing state with
  | _ measure ih =>
    subst bound
    cases taken : loop.turn state with
    | again next =>
      rw [Loop.run_again taken]
      exact ih _ (loop.decreases state next taken) next (kept state next holds taken) rfl
    | ended result =>
      rw [Loop.run_ended taken]
      exact ends state result holds taken

end Loops

/-! ## Locks

Locks that sessions take one at a time, and sections that are entered under a lock. -/

/-- The session that holds the lock of each key. -/
abbrev Locks (κ : Type) := κ → Option Nat

section Changes
variable {κ : Type} [DecidableEq κ]

def Locks.grant (locks : Locks κ) (key : κ) (session : Nat) : Locks κ :=
  Function.update locks key (some session)

/-- A session gives up a lock; one that does not hold it changes nothing. -/
def Locks.giveUp (locks : Locks κ) (key : κ) (session : Nat) : Locks κ :=
  if locks key = some session then Function.update locks key none else locks

@[simp] theorem Locks.grant_self (locks : Locks κ) (key : κ) (session : Nat) :
    locks.grant key session key = some session := by
  rw [grant, Function.update_self]

theorem Locks.giveUp_other {locks : Locks κ} {key : κ} {session other : Nat}
    (held : locks key = some other) (apart : other ≠ session) :
    locks.giveUp key session key = some other := by
  rw [giveUp, if_neg]
  · exact held
  · intro own
    exact apart (Option.some.inj (held.symm.trans own))

end Changes

theorem getElem?_set_cases {α : Type} {sessions : List α} {i j : Nat} {next session : α}
    (here : (sessions.set i next)[j]? = some session) :
    j = i ∧ session = next ∨ j ≠ i ∧ sessions[j]? = some session := by
  rw [List.getElem?_set] at here
  split_ifs at here with same bounded
  · exact Or.inl ⟨same.symm, (Option.some.inj here).symm⟩
  · exact Or.inr ⟨fun equal => same equal.symm, here⟩

section Sections
variable {κ α : Type}

/-- Whoever is inside holds the lock. -/
def Guarded (locks : Locks κ) (key : κ) (inside : α → Prop) (sessions : List α) : Prop :=
  ∀ i session, sessions[i]? = some session → inside session → locks key = some i

variable {locks : Locks κ} {key : κ} {inside : α → Prop} {sessions : List α} {i : Nat} {next : α}

theorem Guarded.unique (guarded : Guarded locks key inside sessions) {j : Nat} {first second : α}
    (here : sessions[i]? = some first) (there : sessions[j]? = some second) (firstInside : inside first)
    (secondInside : inside second) : i = j :=
  Option.some.inj ((guarded i first here firstInside).symm.trans (guarded j second there secondInside))

/-- A session changes and enters nothing. -/
theorem Guarded.set (guarded : Guarded locks key inside sessions) {old : α}
    (here : sessions[i]? = some old) (stays : inside next → inside old) :
    Guarded locks key inside (sessions.set i next) := by
  intro j session there entered
  rcases getElem?_set_cases there with ⟨rfl, rfl⟩ | ⟨_, kept⟩
  · exact guarded j old here (stays entered)
  · exact guarded j session kept entered

/-- A free lock means that nobody is inside, so a session may enter. -/
theorem Guarded.grant [DecidableEq κ] (guarded : Guarded locks key inside sessions)
    (free : locks key = none) : Guarded (locks.grant key i) key inside (sessions.set i next) := by
  intro j session there entered
  rcases getElem?_set_cases there with ⟨rfl, _⟩ | ⟨_, kept⟩
  · exact Locks.grant_self locks key j
  · have held := guarded j session kept entered
    rw [free] at held
    cases held

/-- A session that is outside may give the lock up. -/
theorem Guarded.giveUp [DecidableEq κ] (guarded : Guarded locks key inside sessions)
    (outside : ¬inside next) : Guarded (locks.giveUp key i) key inside (sessions.set i next) := by
  intro j session there entered
  rcases getElem?_set_cases there with ⟨_, rfl⟩ | ⟨apart, kept⟩
  · exact absurd entered outside
  · exact Locks.giveUp_other (guarded j session kept entered) apart

end Sections

end PharmaIntel.Base
