import Mathlib
import PharmaIntel.Base.Program

/-! One program among others: before each of its calls the others make some of theirs. The
rules reason about the program alone, from what the others cannot disturb. -/

namespace PharmaIntel.Base

section Sessions
variable {κ σ ι α β : Type} {Answer : κ → Type}

/-- A call of the program, with its input and the state it found. -/
structure Performed (κ ι σ : Type) where
  call : κ
  input : ι
  before : σ

variable (answer : ι → (c : κ) → σ → Answer c × σ) (own : κ × ι → Prop) (others : κ × ι → Prop)

/-- The program ends with a value, having performed the calls of the trace. -/
inductive Session : Program Answer α → σ → List (Performed κ ι σ) → α → σ → Prop where
  | done (value : α) (state : σ) : Session (.done value) state [] value state
  | call {c : κ} {next : Answer c → Program Answer α} {state final : σ} {value : α}
      {trace : List (Performed κ ι σ)} (events : List (κ × ι)) (input : ι)
      (foreign : ∀ event ∈ events, others event) (mine : own (c, input))
      (later : Session (next (answer input c (run (afterCall answer) state events)).1)
        (answer input c (run (afterCall answer) state events)).2 trace value final) :
      Session (.call c next) state (⟨c, input, run (afterCall answer) state events⟩ :: trace) value final

variable {answer own others}

theorem Session.bind {program : Program Answer α} {f : α → Program Answer β} {state final : σ}
    {trace : List (Performed κ ι σ)} {value : β}
    (session : Session answer own others (program >>= f) state trace value final) :
    ∃ first second middle result, trace = first ++ second ∧
      Session answer own others program state first result middle ∧
      Session answer own others (f result) middle second value final := by
  induction program generalizing state trace with
  | done result => exact ⟨[], trace, state, result, rfl, .done result state, session⟩
  | call c next ih =>
    cases session with
    | call events input foreign mine later =>
      obtain ⟨first, second, middle, result, rfl, begun, ended⟩ := ih _ later
      exact ⟨_, second, middle, result, rfl, .call events input foreign mine begun, ended⟩

/-- Only calls that the program can reach are performed. -/
theorem Session.all {P : κ → Prop} {program : Program Answer α} {state final : σ}
    {trace : List (Performed κ ι σ)} {value : α}
    (session : Session answer own others program state trace value final) (all : program.All P) :
    ∀ performed ∈ trace, P performed.call := by
  induction session with
  | done value state => simp
  | call events input foreign mine later ih =>
    cases all with
    | call here rest =>
      intro performed member
      rcases List.mem_cons.mp member with rfl | inside
      · exact here
      · exact ih (rest _) performed inside

/-- Every state the program sees, its last one too, is reached by some calls. -/
theorem Session.reached {program : Program Answer α} {state final : σ} {value : α} {trace : List (Performed κ ι σ)}
    (session : Session answer own others program state trace value final) :
    (∀ performed ∈ trace, ∃ events, performed.before = run (afterCall answer) state events) ∧
      ∃ events, final = run (afterCall answer) state events := by
  induction session with
  | done value state => exact ⟨by simp, [], rfl⟩
  | @call c next state final value trace events input foreign mine later ih =>
    have after : (answer input c (run (afterCall answer) state events)).2 =
        run (afterCall answer) state (events ++ [(c, input)]) := by
      rw [run_append]
      rfl
    rw [after] at ih
    obtain ⟨befores, more, ends⟩ := ih
    refine ⟨?_, events ++ [(c, input)] ++ more, by rw [run_append, ends]⟩
    intro performed member
    rcases List.mem_cons.mp member with rfl | inside
    · exact ⟨events, rfl⟩
    · obtain ⟨others, same⟩ := befores performed inside
      exact ⟨events ++ [(c, input)] ++ others, by rw [run_append, same]⟩

/-- The last state is reached from each that a call of the program found. -/
theorem Session.since {program : Program Answer α} {state final : σ} {value : α} {trace : List (Performed κ ι σ)}
    (session : Session answer own others program state trace value final) {performed : Performed κ ι σ}
    (member : performed ∈ trace) : ∃ events, final = run (afterCall answer) performed.before events := by
  induction session with
  | done value state => cases member
  | call events input foreign mine later ih =>
    rcases List.mem_cons.mp member with rfl | inside
    · obtain ⟨_, more, ends⟩ := later.reached
      exact ⟨(_, input) :: more, ends⟩
    · exact ih inside

/-- What neither the others nor the program's own calls disturb holds at the end. -/
theorem Session.preserves {P : σ → Prop} {C : κ → Prop} {program : Program Answer α} {state final : σ} {value : α}
    {trace : List (Performed κ ι σ)} (session : Session answer own others program state trace value final)
    (all : program.All C) (foreign : ∀ state event, others event → P state → P (afterCall answer state event))
    (mine : ∀ state c input, C c → own (c, input) → P state → P (answer input c state).2) (holds : P state) :
    P final := by
  induction session with
  | done value state => exact holds
  | call events input others own later ih =>
    cases all with
    | call here rest =>
      have before := run_invariant (afterCall answer) _ P foreign _ holds events others
      exact ih (rest _) (mine _ _ input here own before)

variable (answer) in
/-- Plays a program with the given calls of others and inputs. -/
def Program.play : Program Answer α → σ → List (List (κ × ι) × ι) → Option (List (Performed κ ι σ) × α × σ)
  | .done value, state, _ => some ([], value, state)
  | .call _ _, _, [] => none
  | .call c next, state, (events, input) :: rest =>
      let before := run (afterCall answer) state events
      ((next (answer input c before).1).play (answer input c before).2 rest).map (fun played =>
        (⟨c, input, before⟩ :: played.1, played.2))

theorem session_of_play {program : Program Answer α} {state final : σ} {value : α}
    {trace : List (Performed κ ι σ)} {moves : List (List (κ × ι) × ι)}
    (foreign : ∀ move ∈ moves, ∀ event ∈ move.1, others event) (mine : ∀ c, ∀ move ∈ moves, own (c, move.2))
    (played : program.play answer state moves = some (trace, value, final)) :
    Session answer own others program state trace value final := by
  induction program generalizing state trace moves with
  | done result =>
    simp only [Program.play, Option.some.injEq, Prod.mk.injEq] at played
    obtain ⟨rfl, rfl, rfl⟩ := played
    exact .done result state
  | call c next ih =>
    cases moves with
    | nil => cases played
    | cons move rest =>
      obtain ⟨events, input⟩ := move
      rw [Program.play, Option.map_eq_some_iff] at played
      obtain ⟨⟨later, result, last⟩, inner, same⟩ := played
      simp only [Prod.mk.injEq] at same
      obtain ⟨rfl, rfl, rfl⟩ := same
      exact .call events input (foreign _ List.mem_cons_self) (mine c (events, input) List.mem_cons_self)
        (ih _ (fun move member => foreign move (List.mem_cons_of_mem _ member))
          (fun other move member => mine other move (List.mem_cons_of_mem _ member)) inner)

/-! ## Rules -/

variable (answer others) in
/-- The others cannot disturb it. -/
def Undisturbed (P : σ → Prop) : Prop := ∀ state event, others event → P state → P (afterCall answer state event)

theorem Undisturbed.run {P : σ → Prop} (undisturbed : Undisturbed answer others P) {state : σ} (holds : P state)
    (events : List (κ × ι)) (foreign : ∀ event ∈ events, others event) :
    P (run (afterCall answer) state events) :=
  run_invariant (afterCall answer) others P undisturbed state holds events foreign

end Sessions

section Rules
variable {κ σ ι ε α β : Type} {Reply : κ → Type}
variable (answer : ι → (c : κ) → σ → Except ε (Reply c) × σ) (own : κ × ι → Prop) (others : κ × ι → Prop)

/-- From `P`, however the program ends, its trace, its outcome and the final state satisfy `Q`. -/
def Meets (P : σ → Prop) (program : Fallible ε Reply α)
    (Q : List (Performed κ ι σ) → Except ε α → σ → Prop) : Prop :=
  ∀ state trace outcome final, Session answer own others program.run state trace outcome final → P state →
    Q trace outcome final

variable {answer own others} {P : σ → Prop} {Q : List (Performed κ ι σ) → Except ε α → σ → Prop}

theorem meets_pure {value : α} (holds : ∀ state, P state → Q [] (.ok value) state) :
    Meets answer own others P (pure value : Fallible ε Reply α) Q := by
  rintro state trace outcome final session before
  cases session with
  | done => exact holds state before

theorem meets_throw {error : ε} (holds : ∀ state, P state → Q [] (.error error) state) :
    Meets answer own others P (throw error : Fallible ε Reply α) Q := by
  rintro state trace outcome final session before
  cases session with
  | done => exact holds state before

theorem meets_request {c : κ} {Q : List (Performed κ ι σ) → Except ε (Reply c) → σ → Prop}
    (undisturbed : Undisturbed answer others P)
    (holds : ∀ state input, own (c, input) → P state →
      Q [⟨c, input, state⟩] (answer input c state).1 (answer input c state).2) :
    Meets answer own others P (request c : Fallible ε Reply (Reply c)) Q := by
  rintro state trace outcome final session before
  cases session with
  | call events input foreign mine later =>
    cases later with
    | done => exact holds _ input mine (undisturbed.run before events foreign)

/-- Strengthening and weakening. -/
theorem Meets.imp {program : Fallible ε Reply α} {P' : σ → Prop}
    {Q' : List (Performed κ ι σ) → Except ε α → σ → Prop} (meets : Meets answer own others P program Q)
    (stronger : ∀ state, P' state → P state) (weaker : ∀ trace outcome final, Q trace outcome final →
      Q' trace outcome final) : Meets answer own others P' program Q' :=
  fun state trace outcome final session before =>
    weaker trace outcome final (meets state trace outcome final session (stronger state before))

theorem meets_bind {program : Fallible ε Reply α} {f : α → Fallible ε Reply β}
    {R : List (Performed κ ι σ) → Except ε α → σ → Prop}
    {S : α → List (Performed κ ι σ) → Except ε β → σ → Prop} {Q : List (Performed κ ι σ) → Except ε β → σ → Prop}
    (first : Meets answer own others P program R)
    (second : ∀ value, Meets answer own others (fun state => ∃ trace, R trace (.ok value) state) (f value)
      (S value))
    (errors : ∀ trace error state, R trace (.error error) state → Q trace (.error error) state)
    (joined : ∀ before value middle trace outcome state, R before (.ok value) middle →
      S value trace outcome state → Q (before ++ trace) outcome state) :
    Meets answer own others P (program >>= f) Q := by
  rintro state trace outcome final session before
  obtain ⟨earlier, later, middle, result, rfl, begun, ended⟩ := Session.bind session
  have reached := first state earlier result middle begun before
  cases result with
  | error error =>
    cases ended with
    | done =>
      rw [List.append_nil]
      exact errors earlier error _ reached
  | ok value =>
    exact joined earlier value middle later outcome final reached
      (second value middle later outcome final ended ⟨_, reached⟩)

theorem meets_map {program : Fallible ε Reply α} {f : α → β}
    {Q : List (Performed κ ι σ) → Except ε β → σ → Prop}
    (meets : Meets answer own others P program (fun trace outcome state => Q trace (outcome.map f) state)) :
    Meets answer own others P (f <$> program) Q := by
  rintro state trace outcome final session before
  obtain ⟨earlier, later, middle, result, rfl, begun, ended⟩ := Session.bind session
  have reached := meets state earlier result middle begun before
  cases result with
  | error error =>
    cases ended with
    | done =>
      rw [List.append_nil]
      exact reached
  | ok value =>
    cases ended with
    | done =>
      rw [List.append_nil]
      exact reached

theorem meets_tryCatch {program : Fallible ε Reply α} {handler : ε → Fallible ε Reply α}
    {R : List (Performed κ ι σ) → Except ε α → σ → Prop}
    {S : ε → List (Performed κ ι σ) → Except ε α → σ → Prop}
    (first : Meets answer own others P program R)
    (second : ∀ error, Meets answer own others (fun state => ∃ trace, R trace (.error error) state)
      (handler error) (S error))
    (values : ∀ trace value state, R trace (.ok value) state → Q trace (.ok value) state)
    (joined : ∀ before error middle trace outcome state, R before (.error error) middle →
      S error trace outcome state → Q (before ++ trace) outcome state) :
    Meets answer own others P (tryCatch program handler) Q := by
  rintro state trace outcome final session before
  obtain ⟨earlier, later, middle, result, rfl, begun, ended⟩ := Session.bind session
  have reached := first state earlier result middle begun before
  cases result with
  | error error =>
    exact joined earlier error middle later outcome final reached
      (second error middle later outcome final ended ⟨_, reached⟩)
  | ok value =>
    cases ended with
    | done =>
      rw [List.append_nil]
      exact values earlier value _ reached

/-- From `P`, wherever the program ends normally, its value and the final state satisfy `V`. -/
def Returns (answer : ι → (c : κ) → σ → Except ε (Reply c) × σ) (own others : κ × ι → Prop) (P : σ → Prop)
    (program : Fallible ε Reply α) (V : α → σ → Prop) : Prop :=
  Meets answer own others P program (fun _ outcome final => ∀ value, outcome = .ok value → V value final)

theorem returns_pure {value : α} {V : α → σ → Prop} (holds : ∀ state, P state → V value state) :
    Returns answer own others P (pure value : Fallible ε Reply α) V := by
  refine meets_pure ?_
  rintro state before _ same
  cases same
  exact holds state before

theorem returns_throw {error : ε} {V : α → σ → Prop} :
    Returns answer own others P (throw error : Fallible ε Reply α) V :=
  meets_throw (fun _ _ _ same => by cases same)

theorem returns_request {c : κ} {V : Reply c → σ → Prop} (undisturbed : Undisturbed answer others P)
    (holds : ∀ state input value next, own (c, input) → P state → answer input c state = (.ok value, next) →
      V value next) : Returns answer own others P (request c : Fallible ε Reply (Reply c)) V :=
  meets_request undisturbed (fun state input mine before value same =>
    holds state input value _ mine before (Prod.ext same rfl))

/-- An answer that the rest of the program does not rely on. -/
theorem returns_any (program : Fallible ε Reply α) :
    Returns answer own others P program (fun _ _ => True) := fun _ _ _ _ _ _ _ _ => trivial

theorem returns_bind {program : Fallible ε Reply α} {f : α → Fallible ε Reply β} {R : α → σ → Prop}
    {V : β → σ → Prop} (first : Returns answer own others P program R)
    (second : ∀ value, Returns answer own others (R value) (f value) V) :
    Returns answer own others P (program >>= f) V := by
  refine meets_bind first (fun value => ?_) ?_ ?_ (S := fun _ _ outcome final => ∀ value, outcome = .ok value → V value final)
  · refine (second value).imp ?_ (fun _ _ _ reached => reached)
    rintro state ⟨_, reached⟩
    exact reached value rfl
  · rintro _ error state _ value same
    cases same
  · exact fun _ _ _ _ _ _ _ reached => reached

theorem returns_map {program : Fallible ε Reply α} {f : α → β} {V : β → σ → Prop}
    (returns : Returns answer own others P program (fun value state => V (f value) state)) :
    Returns answer own others P (f <$> program) V := by
  refine meets_map (returns.imp (fun _ before => before) ?_)
  rintro trace outcome final reached value same
  cases outcome with
  | error error => cases same
  | ok result =>
    cases same
    exact reached result rfl

/-- A handler may start from any state that the program has left behind. -/
theorem returns_tryCatch {program : Fallible ε Reply α} {handler : ε → Fallible ε Reply α} {V : α → σ → Prop}
    (first : Returns answer own others P program V)
    (second : ∀ error, Returns answer own others (fun _ => True) (handler error) V) :
    Returns answer own others P (tryCatch program handler) V := by
  refine meets_tryCatch first (fun error => ?_) ?_ ?_ (S := fun _ _ outcome final => ∀ value, outcome = .ok value → V value final)
  · exact (second error).imp (fun _ _ => trivial) (fun _ _ _ reached => reached)
  · exact fun _ _ _ reached => reached
  · exact fun _ _ _ _ _ _ _ reached => reached

end Rules

end PharmaIntel.Base
