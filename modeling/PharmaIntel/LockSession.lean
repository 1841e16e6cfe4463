import Mathlib
import PharmaIntel.Base.Run

/-! `_source_session_lock` as its caller's session goes through it: short polls of the
advisory lock with heartbeats between them, one last heartbeat, the guarded body, and a
cleanup of two levels. The database, the clock and the body answer; the transcript keeps
every request with its answer. -/

namespace PharmaIntel.LockSession
open PharmaIntel.Base

/-! ## Requests and answers -/

/-- `django.db.utils`: `InterfaceError` is not a `DatabaseError`. -/
inductive DjangoError where
  /-- `DatabaseError` and its subclasses. -/
  | databaseError (message : String)
  | interfaceError (message : String)
  deriving DecidableEq, Repr

/-- What a heartbeat or the body may raise. -/
inductive Raised where
  | django (error : DjangoError)
  | claimLost (message : String)
  | other (message : String)
  deriving DecidableEq, Repr

/-- One request of the session with its answer; `τ` is the clock's type, `α` the body's. -/
inductive Action (τ α : Type) where
  | tryLock (answer : Except Raised Bool)
  | monotonic (checkedAt : τ)
  | heartbeatJob (answer : Except Raised Unit)
  | sleep
  | body (answer : Except Raised α)
  | unlock (answer : Except DjangoError Bool)
  | close (answer : Except DjangoError Unit)

/-- Where the session stands in the function. -/
inductive Point (τ α : Type) where
  | polling
  | checking
  | beating (checkedAt : τ)
  | sleeping
  /-- The lock is acquired. -/
  | confirming
  | entered
  | unlocking (outcome : Except Raised α)
  | closing (outcome : Except Raised α)
  /-- The outcome of the guarded part, and what the cleanup raised. -/
  | ended (outcome : Except Raised α) (cleanup : Option DjangoError)

structure Session (τ α : Type) where
  point : Point τ α
  heartbeatAt : τ

variable {τ α : Type}

structure Timing (τ : Type) where
  startedAt : τ
  heartbeatInterval : τ
  waitTimeout : τ

def timedOut : Raised :=
  .django (.databaseError "Timed out waiting to publish another import from this source.")

/-- Why the lock was not given back. -/
def unlockFailure : Except DjangoError Bool → Option DjangoError
  | .ok true => none
  | .ok false => some (.databaseError "The sales-import source lock was lost unexpectedly.")
  | .error error => some error

/-- `except DatabaseError`. -/
def uncaught : Except DjangoError Unit → Option DjangoError
  | .error (.interfaceError message) => some (.interfaceError message)
  | _ => none

section Machine
variable [LinearOrder τ] [Add τ] (timing : Timing τ)

def deadline : τ := timing.startedAt + timing.waitTimeout

def started : Session τ α := ⟨.polling, timing.startedAt + timing.heartbeatInterval⟩

/-- The session after a request and its answer; none where that request is not made. -/
def step (session : Session τ α) (action : Action τ α) : Option (Session τ α) :=
  match session.point, action with
  | .polling, .tryLock (.ok true) => some { session with point := .confirming }
  | .polling, .tryLock (.ok false) => some { session with point := .checking }
  | .polling, .tryLock (.error error) => some { session with point := .ended (.error error) none }
  | .checking, .monotonic checkedAt =>
      if deadline timing ≤ checkedAt then
        some { session with point := .ended (.error timedOut) none }
      else if session.heartbeatAt ≤ checkedAt then some { session with point := .beating checkedAt }
      else some { session with point := .sleeping }
  | .beating checkedAt, .heartbeatJob (.ok ()) =>
      some ⟨.sleeping, checkedAt + timing.heartbeatInterval⟩
  | .beating _, .heartbeatJob (.error error) => some { session with point := .ended (.error error) none }
  | .sleeping, .sleep => some { session with point := .polling }
  | .confirming, .heartbeatJob (.ok ()) => some { session with point := .entered }
  | .confirming, .heartbeatJob (.error error) =>
      some { session with point := .unlocking (.error error) }
  | .entered, .body answer => some { session with point := .unlocking answer }
  | .unlocking outcome, .unlock answer =>
      match unlockFailure answer with
      | none => some { session with point := .ended outcome none }
      | some (.databaseError _) => some { session with point := .closing outcome }
      | some (.interfaceError message) =>
          some { session with point := .ended outcome (some (.interfaceError message)) }
  | .closing outcome, .close answer =>
      some { session with point := .ended outcome (uncaught answer) }
  | _, _ => none

/-- What the caller sees: an exception that leaves the cleanup replaces the outcome. -/
def Session.seen (session : Session τ α) : Option (Except Raised α) :=
  match session.point with
  | .ended outcome none => some outcome
  | .ended _ (some error) => some (.error (.django error))
  | _ => none

/-- The transcript leads from the call of the function to where the session stands. -/
def Reaches (transcript : List (Action τ α)) (session : Session τ α) : Prop :=
  follow (step timing) (started timing) transcript = some session

end Machine

/-! ## What the transcript shows -/

/-- The clock reading of the latest poll, and when the next heartbeat is due. -/
structure Beats (τ : Type) where
  reading : τ
  due : τ

section Beats
variable [Add τ] (timing : Timing τ)

def Beats.after (beats : Beats τ) : Action τ α → Beats τ
  | .monotonic checkedAt => { beats with reading := checkedAt }
  | .heartbeatJob (.ok ()) => { beats with due := beats.reading + timing.heartbeatInterval }
  | _ => beats

/-- A heartbeat is due an interval after the last one, or after the start. -/
def beatsAfter (transcript : List (Action τ α)) : Beats τ :=
  transcript.foldl (Beats.after timing) ⟨timing.startedAt, timing.startedAt + timing.heartbeatInterval⟩

theorem beatsAfter_snoc (transcript : List (Action τ α)) (action : Action τ α) :
    beatsAfter timing (transcript ++ [action]) = (beatsAfter timing transcript).after timing action := by
  simp [beatsAfter]

end Beats

/-- The requests of a wait that goes on. -/
def Action.waits : Action τ α → Bool
  | .tryLock (.ok false) | .monotonic _ | .heartbeatJob (.ok ()) | .sleep => true
  | _ => false

/-- The wait ends without the lock. -/
inductive Abandoned [LinearOrder τ] [Add τ] (timing : Timing τ) :
    List (Action τ α) → Except Raised α → Prop where
  | timeout {wait : List (Action τ α)} {checkedAt : τ} (waits : ∀ action ∈ wait, action.waits = true)
      (late : deadline timing ≤ checkedAt) :
      Abandoned timing (wait ++ [.monotonic checkedAt]) (.error timedOut)
  | heartbeat {wait : List (Action τ α)} {error : Raised} (waits : ∀ action ∈ wait, action.waits = true) :
      Abandoned timing (wait ++ [.heartbeatJob (.error error)]) (.error error)
  | tryLock {wait : List (Action τ α)} {error : Raised} (waits : ∀ action ∈ wait, action.waits = true) :
      Abandoned timing (wait ++ [.tryLock (.error error)]) (.error error)

/-- The lock was acquired and the guarded part is over. -/
inductive Guarded : List (Action τ α) → Except Raised α → Prop where
  | lost {wait : List (Action τ α)} {error : Raised} (waits : ∀ action ∈ wait, action.waits = true) :
      Guarded (wait ++ [.tryLock (.ok true), .heartbeatJob (.error error)]) (.error error)
  | finished {wait : List (Action τ α)} {answer : Except Raised α}
      (waits : ∀ action ∈ wait, action.waits = true) :
      Guarded (wait ++ [.tryLock (.ok true), .heartbeatJob (.ok ()), .body answer]) answer

/-- The requests of the cleanup, and what leaves it. -/
inductive Cleanup : List (Action τ α) → Option DjangoError → Prop where
  | released : Cleanup [.unlock (.ok true)] none
  | closed {answer : Except DjangoError Bool} {message : String} {result : Except DjangoError Unit}
      (failed : unlockFailure answer = some (.databaseError message)) :
      Cleanup [.unlock answer, .close result] (uncaught result)
  | escaped {message : String} : Cleanup [.unlock (.error (.interfaceError message))]
      (some (.interfaceError message))

/-- Where a session stands after a transcript. -/
inductive Stands [LinearOrder τ] [Add τ] (timing : Timing τ) : List (Action τ α) → Session τ α → Prop where
  | polling {wait : List (Action τ α)} (waits : ∀ action ∈ wait, action.waits = true) :
      Stands timing wait ⟨.polling, (beatsAfter timing wait).due⟩
  | checking {wait : List (Action τ α)} (waits : ∀ action ∈ wait, action.waits = true) :
      Stands timing wait ⟨.checking, (beatsAfter timing wait).due⟩
  | beating {wait : List (Action τ α)} (waits : ∀ action ∈ wait, action.waits = true) :
      Stands timing wait ⟨.beating (beatsAfter timing wait).reading, (beatsAfter timing wait).due⟩
  | sleeping {wait : List (Action τ α)} (waits : ∀ action ∈ wait, action.waits = true) :
      Stands timing wait ⟨.sleeping, (beatsAfter timing wait).due⟩
  | confirming {wait : List (Action τ α)} {heartbeatAt : τ} (waits : ∀ action ∈ wait, action.waits = true) :
      Stands timing (wait ++ [.tryLock (.ok true)]) ⟨.confirming, heartbeatAt⟩
  | entered {wait : List (Action τ α)} {heartbeatAt : τ} (waits : ∀ action ∈ wait, action.waits = true) :
      Stands timing (wait ++ [.tryLock (.ok true), .heartbeatJob (.ok ())]) ⟨.entered, heartbeatAt⟩
  | unlocking {front : List (Action τ α)} {outcome : Except Raised α} {heartbeatAt : τ}
      (guarded : Guarded front outcome) : Stands timing front ⟨.unlocking outcome, heartbeatAt⟩
  | closing {front : List (Action τ α)} {outcome : Except Raised α} {heartbeatAt : τ}
      {answer : Except DjangoError Bool} {message : String} (guarded : Guarded front outcome)
      (failed : unlockFailure answer = some (.databaseError message)) :
      Stands timing (front ++ [.unlock answer]) ⟨.closing outcome, heartbeatAt⟩
  | abandoned {front : List (Action τ α)} {outcome : Except Raised α} {heartbeatAt : τ}
      (abandoned : Abandoned timing front outcome) :
      Stands timing front ⟨.ended outcome none, heartbeatAt⟩
  | cleaned {front cleanup : List (Action τ α)} {outcome : Except Raised α} {heartbeatAt : τ}
      {raised : Option DjangoError} (guarded : Guarded front outcome) (cleaned : Cleanup cleanup raised) :
      Stands timing (front ++ cleanup) ⟨.ended outcome raised, heartbeatAt⟩

theorem unlockFailure_none {answer : Except DjangoError Bool} (released : unlockFailure answer = none) :
    answer = .ok true := by
  rcases answer with error | _ | _
  · cases released
  · cases released
  · rfl

theorem unlockFailure_interface {answer : Except DjangoError Bool} {message : String}
    (failed : unlockFailure answer = some (.interfaceError message)) :
    answer = .error (.interfaceError message) := by
  rcases answer with error | _ | _
  · rw [Option.some.inj failed]
  · cases failed
  · cases failed

theorem waits_snoc {wait : List (Action τ α)} (waits : ∀ action ∈ wait, action.waits = true)
    {action : Action τ α} (more : action.waits = true) : ∀ other ∈ wait ++ [action], other.waits = true := by
  intro other member
  rcases List.mem_append.mp member with old | new
  · exact waits other old
  · rw [List.mem_singleton.mp new]
    exact more

section Steps
variable [LinearOrder τ] [Add τ] {timing : Timing τ}

theorem stands_started : Stands timing ([] : List (Action τ α)) (started timing) :=
  .polling (by simp)

/-- Every request is made where the session stands, and leads to where it stands next. -/
theorem stands_step {transcript : List (Action τ α)} {session next : Session τ α} {action : Action τ α}
    (stands : Stands timing transcript session) (taken : step timing session action = some next) :
    Stands timing (transcript ++ [action]) next := by
  cases stands with
  | polling waits =>
    rcases action with (error | _ | _) | _ | _ | _ | _ | _ | _ <;> simp only [step] at taken <;> cases taken
    · exact .abandoned (.tryLock waits)
    · have still : Stands timing (transcript ++ [.tryLock (.ok false)])
          ⟨.checking, (beatsAfter timing (transcript ++ [.tryLock (.ok false)])).due⟩ :=
        .checking (waits_snoc waits rfl)
      rwa [beatsAfter_snoc] at still
    · exact .confirming waits
  | checking waits =>
    rcases action with _ | checkedAt | _ | _ | _ | _ | _ <;> simp only [step] at taken
    case monotonic =>
      have more : ∀ other ∈ transcript ++ [.monotonic checkedAt], other.waits = true := waits_snoc waits rfl
      split_ifs at taken with late due
      · cases taken
        exact .abandoned (.timeout waits late)
      · cases taken
        have still : Stands timing (transcript ++ [.monotonic checkedAt])
            ⟨.beating (beatsAfter timing (transcript ++ [.monotonic checkedAt])).reading,
              (beatsAfter timing (transcript ++ [.monotonic checkedAt])).due⟩ := .beating more
        rwa [beatsAfter_snoc] at still
      · cases taken
        have still : Stands timing (transcript ++ [.monotonic checkedAt])
            ⟨.sleeping, (beatsAfter timing (transcript ++ [.monotonic checkedAt])).due⟩ := .sleeping more
        rwa [beatsAfter_snoc] at still
    all_goals cases taken
  | beating waits =>
    rcases action with _ | _ | (error | _) | _ | _ | _ | _ <;> simp only [step] at taken <;> cases taken
    · exact .abandoned (.heartbeat waits)
    · have still : Stands timing (transcript ++ [.heartbeatJob (.ok ())])
          ⟨.sleeping, (beatsAfter timing (transcript ++ [.heartbeatJob (.ok ())])).due⟩ :=
        .sleeping (waits_snoc waits rfl)
      rwa [beatsAfter_snoc] at still
  | sleeping waits =>
    rcases action with _ | _ | _ | _ | _ | _ | _ <;> simp only [step] at taken <;> cases taken
    have still : Stands timing (transcript ++ [.sleep])
        ⟨.polling, (beatsAfter timing (transcript ++ [.sleep])).due⟩ := .polling (waits_snoc waits rfl)
    rwa [beatsAfter_snoc] at still
  | confirming waits =>
    rcases action with _ | _ | (error | _) | _ | _ | _ | _ <;> simp only [step] at taken <;> cases taken
    · rw [List.append_assoc]
      exact .unlocking (.lost waits)
    · rw [List.append_assoc]
      exact .entered waits
  | entered waits =>
    rcases action with _ | _ | _ | _ | answer | _ | _ <;> simp only [step] at taken <;> cases taken
    rw [List.append_assoc]
    exact .unlocking (.finished waits)
  | unlocking guarded =>
    rcases action with _ | _ | _ | _ | _ | answer | _ <;> simp only [step] at taken
    case unlock =>
      split at taken
      · rename_i released
        cases taken
        rw [unlockFailure_none released]
        exact .cleaned guarded .released
      · rename_i failed
        cases taken
        exact .closing guarded failed
      · rename_i failed
        cases taken
        rw [unlockFailure_interface failed]
        exact .cleaned guarded .escaped
    all_goals cases taken
  | closing guarded failed =>
    rcases action with _ | _ | _ | _ | _ | _ | result <;> simp only [step] at taken <;> cases taken
    rw [List.append_assoc]
    exact .cleaned guarded (.closed failed)
  | abandoned _ => rcases action with _ | _ | _ | _ | _ | _ | _ <;> simp only [step] at taken <;> cases taken
  | cleaned _ _ => rcases action with _ | _ | _ | _ | _ | _ | _ <;> simp only [step] at taken <;> cases taken

theorem reaches_stands {transcript : List (Action τ α)} {session : Session τ α}
    (reaches : Reaches timing transcript session) : Stands timing transcript session :=
  follow_history (Stands timing) stands_started
    (fun _ _ _ _ stands taken => stands_step stands taken) reaches

/-- Where a request of the transcript was made, and what came of it. -/
theorem reaches_split {front back : List (Action τ α)} {action : Action τ α} {session : Session τ α}
    (reaches : Reaches timing (front ++ action :: back) session) :
    ∃ before after, Stands timing front before ∧ step timing before action = some after ∧
      follow (step timing) after back = some session := by
  obtain ⟨before, after, reached, taken, later⟩ := follow_split reaches
  exact ⟨before, after, reaches_stands reached, taken, later⟩

/-- Nothing is requested after the end. -/
theorem ended_last {outcome : Except Raised α} {cleanup : Option DjangoError} {heartbeatAt : τ}
    {back : List (Action τ α)} {session : Session τ α}
    (later : follow (step timing) ⟨.ended outcome cleanup, heartbeatAt⟩ back = some session) :
    back = [] ∧ session = ⟨.ended outcome cleanup, heartbeatAt⟩ := by
  cases back with
  | nil => exact ⟨rfl, (Option.some.inj later).symm⟩
  | cons action rest =>
    rw [follow] at later
    rcases action with _ | _ | _ | _ | _ | _ | _ <;> simp [step] at later

theorem step_body {session next : Session τ α} {answer : Except Raised α}
    (taken : step timing session (.body answer) = some next) : session.point = .entered := by
  cases point : session.point <;> simp [step, point] at taken
  rfl

theorem step_monotonic {session next : Session τ α} {checkedAt : τ}
    (taken : step timing session (.monotonic checkedAt) = some next) :
    session.point = .checking ∧
      (deadline timing ≤ checkedAt ∧ next = ⟨.ended (.error timedOut) none, session.heartbeatAt⟩ ∨
        ¬deadline timing ≤ checkedAt ∧ session.heartbeatAt ≤ checkedAt ∧
          next = ⟨.beating checkedAt, session.heartbeatAt⟩ ∨
        ¬deadline timing ≤ checkedAt ∧ ¬session.heartbeatAt ≤ checkedAt ∧
          next = ⟨.sleeping, session.heartbeatAt⟩) := by
  cases point : session.point <;> simp only [step, point] at taken
  case checking =>
    refine ⟨rfl, ?_⟩
    split_ifs at taken with late due
    · exact .inl ⟨late, (Option.some.inj taken).symm⟩
    · exact .inr (.inl ⟨late, due, (Option.some.inj taken).symm⟩)
    · exact .inr (.inr ⟨late, due, (Option.some.inj taken).symm⟩)
  all_goals cases taken

theorem step_unlock_interface {session next : Session τ α} {message : String}
    (taken : step timing session (.unlock (.error (.interfaceError message))) = some next) :
    ∃ outcome, next = ⟨.ended outcome (some (.interfaceError message)), session.heartbeatAt⟩ := by
  cases point : session.point <;> simp only [step, point] at taken
  case unlocking outcome => exact ⟨outcome, (Option.some.inj taken).symm⟩
  all_goals cases taken

theorem step_close_interface {session next : Session τ α} {message : String}
    (taken : step timing session (.close (.error (.interfaceError message))) = some next) :
    ∃ outcome, next = ⟨.ended outcome (some (.interfaceError message)), session.heartbeatAt⟩ := by
  cases point : session.point <;> simp only [step, point] at taken
  case closing outcome => exact ⟨outcome, (Option.some.inj taken).symm⟩
  all_goals cases taken

end Steps

/-! ## What is asked of the lock -/

def Action.isBody : Action τ α → Bool
  | .body _ => true
  | _ => false

def Action.isHeartbeat : Action τ α → Bool
  | .heartbeatJob _ => true
  | _ => false

def Action.isUnlock : Action τ α → Bool
  | .unlock _ => true
  | _ => false

/-- The cleanup is answered by an exception that `except DatabaseError` lets through. -/
def Action.escapes : Action τ α → Bool
  | .unlock (.error (.interfaceError _)) | .close (.error (.interfaceError _)) => true
  | _ => false

/-- The lock was granted and nothing has tried to give it back. -/
def Holding (transcript : List (Action τ α)) : Prop :=
  .tryLock (.ok true) ∈ transcript ∧ ∀ action ∈ transcript, action.isUnlock = false

theorem waits_facts {wait : List (Action τ α)} (waits : ∀ action ∈ wait, action.waits = true) :
    wait.countP Action.isBody = 0 ∧ .tryLock (.ok true) ∉ wait ∧ ∀ action ∈ wait, action.isUnlock = false := by
  refine ⟨?_, ?_, ?_⟩
  · rw [List.countP_eq_zero]
    intro action member body
    have waiting := waits action member
    cases action <;> simp_all [Action.isBody, Action.waits]
  · intro granted
    have waiting := waits _ granted
    simp [Action.waits] at waiting
  · intro action member
    have waiting := waits action member
    cases action <;> simp_all [Action.isUnlock, Action.waits]

theorem guarded_countP {front : List (Action τ α)} {outcome : Except Raised α}
    (guarded : Guarded front outcome) : front.countP Action.isBody ≤ 1 := by
  cases guarded with
  | lost waits => simp [List.countP_append, (waits_facts waits).1, Action.isBody]
  | finished waits => simp [List.countP_append, (waits_facts waits).1, List.countP_cons, Action.isBody]

theorem cleanup_countP {cleanup : List (Action τ α)} {raised : Option DjangoError}
    (cleaned : Cleanup cleanup raised) : cleanup.countP Action.isBody = 0 := by
  cases cleaned <;> simp [Action.isBody]

section Kept
variable [LinearOrder τ] [Add τ]

/-- The promises of the lock on one transcript. -/
structure Kept (timing : Timing τ) (transcript : List (Action τ α)) (session : Session τ α) : Prop where
  bodyOnce : transcript.countP Action.isBody ≤ 1
  /-- The body runs under the lock, right after a successful heartbeat. -/
  bodyHolding : ∀ front answer back, transcript = front ++ .body answer :: back →
    Holding front ∧ ∃ earlier, front = earlier ++ [.heartbeatJob (.ok ())]
  /-- A refused poll reads the clock. -/
  polls : ∀ front action back, transcript = front ++ .tryLock (.ok false) :: action :: back →
    ∃ checkedAt, action = .monotonic checkedAt
  timeout : ∀ front checkedAt back, transcript = front ++ .monotonic checkedAt :: back →
    deadline timing ≤ checkedAt → back = [] ∧ session.point = .ended (.error timedOut) none
  heartbeats : ∀ front checkedAt action back,
    transcript = front ++ .monotonic checkedAt :: action :: back →
    (action.isHeartbeat = true ↔ (beatsAfter timing front).due ≤ checkedAt)
  /-- An acquired lock is unlocked at the end, or else the connection is closed. -/
  released : ∀ outcome cleanup, session.point = .ended outcome cleanup →
    .tryLock (.ok true) ∈ transcript → ∃ front, transcript = front ++ [.unlock (.ok true)] ∨
      ∃ answer result, answer ≠ .ok true ∧ transcript = front ++ [.unlock answer, .close result]
  /-- The caller sees the timeout, the lost claim, or what the body did. -/
  outcome : ∀ outcome cleanup, session.point = .ended outcome cleanup → cleanup = none ∧
    (Abandoned timing transcript outcome ∨
      ∃ front back, transcript = front ++ back ∧ Guarded front outcome)

variable {timing : Timing τ} {transcript : List (Action τ α)} {session : Session τ α}

theorem stands_countP (stands : Stands timing transcript session) :
    transcript.countP Action.isBody ≤ 1 := by
  cases stands with
  | polling waits | checking waits | beating waits | sleeping waits => simp [(waits_facts waits).1]
  | confirming waits | entered waits =>
    simp [List.countP_append, (waits_facts waits).1, Action.isBody]
  | unlocking guarded => exact guarded_countP guarded
  | closing guarded failed =>
    have few := guarded_countP guarded
    simpa [List.countP_append, List.countP_cons, Action.isBody] using few
  | abandoned abandoned =>
    cases abandoned with
    | timeout waits _ | heartbeat waits | tryLock waits =>
      simp [List.countP_append, (waits_facts waits).1, Action.isBody]
  | cleaned guarded cleaned =>
    rw [List.countP_append, cleanup_countP cleaned, Nat.add_zero]
    exact guarded_countP guarded

theorem entered_holding {heartbeatAt : τ} (stands : Stands timing transcript ⟨.entered, heartbeatAt⟩) :
    Holding transcript ∧ ∃ earlier, transcript = earlier ++ [.heartbeatJob (.ok ())] := by
  cases stands with
  | @entered wait _ waits =>
    refine ⟨⟨by simp, ?_⟩, wait ++ [.tryLock (.ok true)], by simp⟩
    intro action member
    rcases List.mem_append.mp member with waiting | last
    · exact (waits_facts waits).2.2 action waiting
    · rcases List.mem_pair.mp last with rfl | rfl <;> rfl

theorem abandoned_unlocked {outcome : Except Raised α} (abandoned : Abandoned timing transcript outcome) :
    .tryLock (.ok true) ∉ transcript := by
  cases abandoned with
  | timeout waits _ | heartbeat waits | tryLock waits => simp [(waits_facts waits).2.1]

/-- An end whose cleanup is answered by nothing but `DatabaseError`. -/
theorem ended_kept {outcome : Except Raised α} {cleanup : Option DjangoError} {heartbeatAt : τ}
    (stands : Stands timing transcript ⟨.ended outcome cleanup, heartbeatAt⟩)
    (caught : ∀ action ∈ transcript, action.escapes = false) :
    (.tryLock (.ok true) ∈ transcript → ∃ front, transcript = front ++ [.unlock (.ok true)] ∨
      ∃ answer result, answer ≠ .ok true ∧ transcript = front ++ [.unlock answer, .close result]) ∧
    cleanup = none ∧ (Abandoned timing transcript outcome ∨
      ∃ front back, transcript = front ++ back ∧ Guarded front outcome) := by
  cases stands with
  | abandoned abandoned =>
    exact ⟨fun granted => absurd granted (abandoned_unlocked abandoned), rfl, .inl abandoned⟩
  | @cleaned front requests _ _ _ guarded cleaned =>
    refine ⟨fun _ => ⟨front, ?_⟩, ?_, .inr ⟨front, requests, rfl, guarded⟩⟩
    · cases cleaned with
      | released => exact .inl rfl
      | @closed answer message result failed =>
        refine .inr ⟨answer, result, ?_, rfl⟩
        rintro rfl
        cases failed
      | @escaped message =>
        have seen := caught (.unlock (.error (.interfaceError message))) (by simp)
        cases seen
    · cases cleaned with
      | released => rfl
      | @closed answer message result failed =>
        have seen := caught (.close result) (by simp)
        rcases result with (_ | _) | _
        · rfl
        · cases seen
        · rfl
      | @escaped message =>
        have seen := caught (.unlock (.error (.interfaceError message))) (by simp)
        cases seen

theorem kept_of_caught (reaches : Reaches timing transcript session)
    (caught : ∀ action ∈ transcript, action.escapes = false) : Kept timing transcript session where
  bodyOnce := stands_countP (reaches_stands reaches)
  bodyHolding := by
    rintro front answer back rfl
    obtain ⟨⟨point, heartbeatAt⟩, after, stands, taken, -⟩ := reaches_split reaches
    obtain rfl : point = .entered := step_body taken
    exact entered_holding stands
  polls := by
    rintro front action back rfl
    obtain ⟨⟨point, heartbeatAt⟩, after, -, taken, later⟩ := reaches_split reaches
    cases point <;> simp only [step] at taken
    case polling =>
      cases taken
      obtain ⟨next, more, -⟩ := Option.bind_eq_some_iff.mp later
      rcases action with _ | checkedAt | _ | _ | _ | _ | _ <;> simp only [step] at more
      case monotonic => exact ⟨checkedAt, rfl⟩
      all_goals cases more
    all_goals cases taken
  timeout := by
    rintro front checkedAt back rfl late
    obtain ⟨before, after, -, taken, later⟩ := reaches_split reaches
    obtain ⟨-, ⟨-, rfl⟩ | ⟨early, -, -⟩ | ⟨early, -, -⟩⟩ := step_monotonic taken
    · obtain ⟨none, rfl⟩ := ended_last later
      exact ⟨none, rfl⟩
    · exact absurd late early
    · exact absurd late early
  heartbeats := by
    rintro front checkedAt action back rfl
    obtain ⟨before, after, stands, taken, later⟩ := reaches_split reaches
    obtain ⟨point, next⟩ := step_monotonic taken
    obtain ⟨following, more, -⟩ := Option.bind_eq_some_iff.mp later
    have due : before.heartbeatAt = (beatsAfter timing front).due := by
      cases stands <;> first | rfl | cases point
    rw [← due]
    rcases next with ⟨-, rfl⟩ | ⟨-, beat, rfl⟩ | ⟨-, early, rfl⟩
    · rcases action with _ | _ | _ | _ | _ | _ | _ <;> simp [step] at more
    · rcases action with _ | _ | _ | _ | _ | _ | _ <;> simp [step] at more
      simp [Action.isHeartbeat, beat]
    · rcases action with _ | _ | _ | _ | _ | _ | _ <;> simp [step] at more
      simp [Action.isHeartbeat, early]
  released := by
    intro outcome cleanup ended
    obtain ⟨point, heartbeatAt⟩ := session
    obtain rfl : point = .ended outcome cleanup := ended
    exact (ended_kept (reaches_stands reaches) caught).1
  outcome := by
    intro outcome cleanup ended
    obtain ⟨point, heartbeatAt⟩ := session
    obtain rfl : point = .ended outcome cleanup := ended
    exact (ended_kept (reaches_stands reaches) caught).2

/-- An exception that escapes the cleanup ends the session in place of the outcome. -/
theorem escape_ends {front back : List (Action τ α)} {action : Action τ α}
    (reaches : Reaches timing (front ++ action :: back) session) (escapes : action.escapes = true) :
    ∃ outcome error, session.point = .ended outcome (some error) := by
  obtain ⟨before, after, -, taken, later⟩ := reaches_split reaches
  rcases action with _ | _ | _ | _ | _ | ((_ | message) | _) | ((_ | message) | _) <;>
    simp only [Action.escapes, Bool.false_eq_true] at escapes
  · obtain ⟨outcome, rfl⟩ := step_unlock_interface taken
    obtain ⟨-, rfl⟩ := ended_last later
    exact ⟨outcome, _, rfl⟩
  · obtain ⟨outcome, rfl⟩ := step_close_interface taken
    obtain ⟨-, rfl⟩ := ended_last later
    exact ⟨outcome, _, rfl⟩

/-- The lock keeps its promises just when no `InterfaceError` answers its cleanup. -/
theorem lock_kept_iff (timing : Timing τ) (transcript : List (Action τ α)) (session : Session τ α)
    (reaches : Reaches timing transcript session) :
    Kept timing transcript session ↔ ∀ action ∈ transcript, action.escapes = false := by
  constructor
  · intro kept action member
    by_contra escapes
    obtain ⟨front, back, rfl⟩ := List.append_of_mem member
    obtain ⟨outcome, error, ended⟩ := escape_ends reaches (Bool.eq_true_of_not_eq_false escapes)
    cases (kept.outcome outcome (some error) ended).1
  · exact kept_of_caught reaches

end Kept

/-- A wait with one heartbeat, a body that returns and a lock that was lost meanwhile. -/
theorem lock_kept_iff_sample :
    Kept (⟨0, 60, 300⟩ : Timing Nat)
      [.tryLock (.ok false), .monotonic 61, .heartbeatJob (.ok ()), .sleep, .tryLock (.ok true),
        .heartbeatJob (.ok ()), .body (.ok ()), .unlock (.ok false), .close (.ok ())]
      ⟨.ended (.ok ()) none, 121⟩ :=
  (lock_kept_iff _ _ _ (by rfl)).mpr (by simp [Action.escapes])

/-- The body returns, and the caller sees the `InterfaceError` of the unlock; the connection
that still may hold the lock is not closed. -/
theorem unlock_replaces_outcome :
    ∃ session, Reaches (⟨0, 60, 300⟩ : Timing Nat)
        [.tryLock (.ok true), .heartbeatJob (.ok ()), .body (.ok ()),
          .unlock (.error (.interfaceError "connection already closed"))] session ∧
      session.seen = some (.error (.django (.interfaceError "connection already closed"))) ∧
      ¬Kept (⟨0, 60, 300⟩ : Timing Nat)
        [.tryLock (.ok true), .heartbeatJob (.ok ()), .body (.ok ()),
          .unlock (.error (.interfaceError "connection already closed"))] session := by
  refine ⟨⟨.ended (.ok ()) (some (.interfaceError "connection already closed")), 60⟩, rfl, rfl, ?_⟩
  intro kept
  cases (kept.outcome _ _ rfl).1

end PharmaIntel.LockSession
