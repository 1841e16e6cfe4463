import Mathlib
import PharmaIntel.Base.Run

/-! Programs that issue calls to a shared state and go on with the answers, and pools
of such programs whose calls a scheduler interleaves. -/

namespace PharmaIntel.Base

section Syntax
variable {κ : Type} (Answer : κ → Type)

inductive Program (α : Type) where
  | done (value : α)
  | call (c : κ) (next : Answer c → Program α)

namespace Program
variable {Answer} {α β : Type}

def bind : Program Answer α → (α → Program Answer β) → Program Answer β
  | done value, f => f value
  | call c next, f => call c (fun answer => (next answer).bind f)

instance : Monad (Program Answer) where
  pure := done
  bind := bind

def perform (c : κ) : Program Answer (Answer c) := call c done

/-- Every call the program can reach satisfies `P`. -/
inductive All (P : κ → Prop) : Program Answer α → Prop where
  | done (value : α) : All P (done value)
  | call {c : κ} {next : Answer c → Program Answer α} (here : P c) (later : ∀ answer, All P (next answer)) :
      All P (call c next)

variable {P Q : κ → Prop}

theorem all_true (program : Program Answer α) : All (fun _ => True) program := by
  induction program with
  | done value => exact .done value
  | call c next ih => exact .call trivial ih

theorem All.bind {program : Program Answer α} {f : α → Program Answer β} (first : All P program)
    (second : ∀ value, All P (f value)) : All P (program >>= f) := by
  induction first with
  | done value => exact second value
  | call here _ ih => exact .call here ih

theorem All.mono {program : Program Answer α} (all : All P program) (weaker : ∀ c, P c → Q c) :
    All Q program := by
  induction all with
  | done value => exact .done value
  | call here _ ih => exact .call (weaker _ here) ih

end Program

end Syntax

/-! ## Programs that may fail -/

section Failing
variable {κ ε : Type} {Reply : κ → Type} {α β : Type} {P : κ → Prop}

/-- A program whose calls answer with a value or an error. -/
abbrev Fallible (ε : Type) (Reply : κ → Type) (α : Type) : Type :=
  ExceptT ε (Program (fun c => Except ε (Reply c))) α

def request (c : κ) : Fallible ε Reply (Reply c) := ExceptT.mk (Program.perform c)

def AllCalls (P : κ → Prop) (program : Fallible ε Reply α) : Prop := Program.All P program.run

theorem allCalls_pure (value : α) : AllCalls P (pure value : Fallible ε Reply α) := .done _

theorem allCalls_throw (error : ε) : AllCalls P (throw error : Fallible ε Reply α) := .done _

theorem allCalls_request {c : κ} (here : P c) : AllCalls P (request c : Fallible ε Reply (Reply c)) :=
  .call here .done

theorem AllCalls.bind {program : Fallible ε Reply α} {f : α → Fallible ε Reply β}
    (first : AllCalls P program) (second : ∀ value, AllCalls P (f value)) : AllCalls P (program >>= f) := by
  refine Program.All.bind first ?_
  intro outcome
  cases outcome with
  | error e => exact .done _
  | ok value => exact second value

theorem AllCalls.map {program : Fallible ε Reply α} (f : α → β) (all : AllCalls P program) :
    AllCalls P (f <$> program) := by
  refine Program.All.bind all ?_
  intro outcome
  cases outcome with
  | error e => exact .done _
  | ok value => exact .done _

theorem AllCalls.mono {Q : κ → Prop} {program : Fallible ε Reply α} (all : AllCalls P program)
    (weaker : ∀ c, P c → Q c) : AllCalls Q program := Program.All.mono all weaker

theorem AllCalls.tryCatch {program : Fallible ε Reply α} {handler : ε → Fallible ε Reply α}
    (first : AllCalls P program) (second : ∀ error, AllCalls P (handler error)) :
    AllCalls P (MonadExcept.tryCatch program handler) := by
  refine Program.All.bind first ?_
  intro outcome
  cases outcome with
  | error e => exact second e
  | ok value => exact .done _

/-- A program for each element of a list, in turn. -/
def eachOf (body : β → Fallible ε Reply Unit) : List β → Fallible ε Reply Unit
  | [] => pure ()
  | item :: rest => do
      body item
      eachOf body rest

theorem allCalls_eachOf {body : β → Fallible ε Reply Unit} {items : List β}
    (each : ∀ item ∈ items, AllCalls P (body item)) : AllCalls P (eachOf body items) := by
  induction items with
  | nil => exact allCalls_pure ()
  | cons item rest ih =>
    refine AllCalls.bind (each item List.mem_cons_self) (fun _ => ?_)
    exact ih (fun other member => each other (List.mem_cons_of_mem item member))

end Failing

/-! ## Interleaving -/

section Pool
variable {κ σ ι α : Type} {Answer : κ → Type}

/-- Programs over one shared state. -/
structure Pool (Answer : κ → Type) (σ α : Type) where
  state : σ
  programs : List (Program Answer α)

variable (answer : ι → (c : κ) → σ → Answer c × σ)

/-- The chosen program makes its next call under the given input. -/
def Pool.step (pool : Pool Answer σ α) (choice : Nat × ι) : Pool Answer σ α :=
  match pool.programs[choice.1]? with
  | some (.call c next) =>
      { state := (answer choice.2 c pool.state).2
        programs := pool.programs.set choice.1 (next (answer choice.2 c pool.state).1) }
  | _ => pool

/-- The calls that a schedule makes, with their inputs. -/
def Pool.trace (pool : Pool Answer σ α) : List (Nat × ι) → List (κ × ι)
  | [] => []
  | choice :: rest =>
      match pool.programs[choice.1]? with
      | some (.call c _) => (c, choice.2) :: (pool.step answer choice).trace rest
      | _ => (pool.step answer choice).trace rest

/-- The state after one call. -/
def afterCall (state : σ) (event : κ × ι) : σ := (answer event.2 event.1 state).2

/-- A schedule leaves the shared state as the run of its calls does. -/
theorem Pool.state_run (pool : Pool Answer σ α) (schedule : List (Nat × ι)) :
    (run (Pool.step answer) pool schedule).state =
      run (afterCall answer) pool.state (pool.trace answer schedule) := by
  induction schedule generalizing pool with
  | nil => rfl
  | cons choice rest ih =>
    rw [run_cons, ih, Pool.trace]
    cases chosen : pool.programs[choice.1]? with
    | none => simp [Pool.step, chosen]
    | some program =>
      cases program with
      | done value => simp [Pool.step, chosen]
      | call c next => simp [Pool.step, chosen, afterCall]

/-- Only calls that the programs can reach are made. -/
theorem Pool.trace_all {P : κ → Prop} (pool : Pool Answer σ α)
    (all : ∀ program ∈ pool.programs, program.All P) (schedule : List (Nat × ι)) :
    ∀ event ∈ pool.trace answer schedule, P event.1 := by
  induction schedule generalizing pool with
  | nil => simp [Pool.trace]
  | cons choice rest ih =>
    rw [Pool.trace]
    cases chosen : pool.programs[choice.1]? with
    | none =>
      have still : pool.step answer choice = pool := by simp [Pool.step, chosen]
      simpa only [still] using ih pool all
    | some program =>
      have reachable := all program (List.mem_of_getElem? chosen)
      cases reachable with
      | done value =>
        have still : pool.step answer choice = pool := by simp [Pool.step, chosen]
        simpa only [still] using ih pool all
      | call here later =>
        intro event member
        rcases List.mem_cons.mp member with rfl | after
        · exact here
        · apply ih _ _ event after
          intro other inside
          simp only [Pool.step, chosen] at inside
          rcases List.mem_or_eq_of_mem_set inside with old | rfl
          · exact all other old
          · exact later _

/-- What every reachable call preserves holds under every schedule. -/
theorem Pool.invariant {P : κ → Prop} (Holds : σ → Prop)
    (preserved : ∀ state event, P event.1 → Holds state → Holds (afterCall answer state event))
    (pool : Pool Answer σ α) (all : ∀ program ∈ pool.programs, program.All P)
    (initial : Holds pool.state) (schedule : List (Nat × ι)) :
    Holds (run (Pool.step answer) pool schedule).state := by
  rw [Pool.state_run]
  exact run_invariant (afterCall answer) (fun event => P event.1) Holds preserved pool.state initial _
    (Pool.trace_all answer pool all schedule)

end Pool

end PharmaIntel.Base
