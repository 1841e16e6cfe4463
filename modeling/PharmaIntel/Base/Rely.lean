import Mathlib
import PharmaIntel.Base.Session

/-! Programs that keep an invariant by what their answers told them. What one of them has learned
stays true while the others go on, so that its later calls may rely on it. -/

namespace PharmaIntel.Base

/-- An invariant, and how a state may have come about since an earlier one. -/
structure Rely (σ : Type) where
  Holds : σ → Prop
  Since : σ → σ → Prop
  since_refl (state : σ) : Since state state
  since_trans {first second third : σ} (earlier : Since first second) (later : Since second third) :
    Since first third

section Programs
variable {κ σ ι ε α β : Type} {Answer : κ → Type} (answer : ι → (c : κ) → σ → Answer c × σ) (rely : Rely σ)

/-- From every state since this one each call keeps the invariant, and the program ends in `Q`. -/
def Upholds : Program Answer α → (α → σ → Prop) → σ → Prop
  | .done value, Q, state => Q value state
  | .call c next, Q, state => ∀ now, rely.Since state now → rely.Holds now → ∀ input,
      rely.Holds (answer input c now).2 ∧ rely.Since now (answer input c now).2 ∧
        Upholds (next (answer input c now).1) Q (answer input c now).2

variable {answer rely} {state : σ}

theorem Upholds.imp {program : Program Answer α} {Q Q' : α → σ → Prop} (upheld : Upholds answer rely program Q state)
    (weaker : ∀ value now, Q value now → Q' value now) : Upholds answer rely program Q' state := by
  induction program generalizing state with
  | done value => exact weaker value state upheld
  | call c next ih =>
    intro now since holds input
    obtain ⟨kept, later, rest⟩ := upheld now since holds input
    exact ⟨kept, later, ih _ rest⟩

/-- The program itself only moves the state on. -/
theorem Upholds.along {program : Program Answer α} {Q : α → σ → Prop} (upheld : Upholds answer rely program Q state) :
    Upholds answer rely program (fun value now => rely.Since state now ∧ Q value now) state := by
  induction program generalizing state with
  | done value => exact ⟨rely.since_refl state, upheld⟩
  | call c next ih =>
    intro now since holds input
    obtain ⟨kept, later, rest⟩ := upheld now since holds input
    refine ⟨kept, later, (ih _ rest).imp ?_⟩
    intro value final reached
    exact ⟨rely.since_trans since (rely.since_trans later reached.1), reached.2⟩

theorem upholds_bind {program : Program Answer α} {f : α → Program Answer β} {Q : β → σ → Prop}
    (first : Upholds answer rely program (fun value now => Upholds answer rely (f value) Q now) state) :
    Upholds answer rely (program >>= f) Q state := by
  induction program generalizing state with
  | done value => exact first
  | call c next ih =>
    intro now since holds input
    obtain ⟨kept, later, rest⟩ := first now since holds input
    exact ⟨kept, later, ih _ rest⟩

/-- What may be relied on later is what the others cannot disturb. -/
theorem Upholds.since {program : Program Answer α} {Q : α → σ → Prop} (upheld : Upholds answer rely program Q state)
    (stable : ∀ value earlier later, rely.Since earlier later → Q value earlier → Q value later) {now : σ}
    (since : rely.Since state now) : Upholds answer rely program Q now := by
  cases program with
  | done value => exact stable value state now since upheld
  | call c next => exact fun later after holds => upheld later (rely.since_trans since after) holds

/-- A program whose calls keep the invariant whatever their answers. -/
theorem upholds_all {P : κ → Prop} {program : Program Answer α} (all : program.All P)
    (kept : ∀ c, P c → ∀ now input, rely.Holds now →
      rely.Holds (answer input c now).2 ∧ rely.Since now (answer input c now).2) (state : σ) :
    Upholds answer rely program (fun _ _ => True) state := by
  induction all generalizing state with
  | done value => exact trivial
  | @call c next here later ih =>
    intro now since holds input
    obtain ⟨after, moved⟩ := kept c here now input holds
    exact ⟨after, moved, ih _ _⟩

/-! ## Programs that may fail -/

theorem upholds_pure {value : α} {Q : Except ε α → σ → Prop} (ended : Q (.ok value) state) :
    Upholds answer rely (pure value : ExceptT ε (Program Answer) α).run Q state := ended

theorem upholds_then {program : ExceptT ε (Program Answer) α} {f : α → ExceptT ε (Program Answer) β}
    {Q : Except ε β → σ → Prop}
    (first : Upholds answer rely program.run (fun outcome now => match outcome with
      | .ok value => Upholds answer rely (f value).run Q now
      | .error error => Q (.error error) now) state) : Upholds answer rely (program >>= f).run Q state := by
  refine upholds_bind (first.imp ?_)
  intro outcome now next
  cases outcome with
  | ok value => exact next
  | error error => exact next

theorem upholds_catch {program : ExceptT ε (Program Answer) α} {handler : ε → ExceptT ε (Program Answer) α}
    {Q : Except ε α → σ → Prop}
    (first : Upholds answer rely program.run (fun outcome now => match outcome with
      | .ok value => Q (.ok value) now
      | .error error => Upholds answer rely (handler error).run Q now) state) :
    Upholds answer rely (tryCatch program handler).run Q state := by
  refine upholds_bind (first.imp ?_)
  intro outcome now next
  cases outcome with
  | ok value => exact next
  | error error => exact next

/-! ## Pools -/

/-- Under every schedule a pool of such programs keeps the invariant. -/
theorem Pool.upheld (pool : Pool Answer σ α) (holds : rely.Holds pool.state)
    (upheld : ∀ program ∈ pool.programs, Upholds answer rely program (fun _ _ => True) pool.state)
    (schedule : List (Nat × ι)) :
    rely.Holds (run (Pool.step answer) pool schedule).state ∧
      rely.Since pool.state (run (Pool.step answer) pool schedule).state := by
  induction schedule generalizing pool with
  | nil => exact ⟨holds, rely.since_refl pool.state⟩
  | cons choice rest ih =>
    rw [run_cons]
    cases chosen : pool.programs[choice.1]? with
    | none =>
      have still : pool.step answer choice = pool := by simp [Pool.step, chosen]
      rw [still]
      exact ih pool holds upheld
    | some program =>
      have mine := upheld program (List.mem_of_getElem? chosen)
      cases program with
      | done value =>
        have still : pool.step answer choice = pool := by simp [Pool.step, chosen]
        rw [still]
        exact ih pool holds upheld
      | call c next =>
        obtain ⟨kept, moved, later⟩ := mine pool.state (rely.since_refl pool.state) holds choice.2
        have stepped : pool.step answer choice = ⟨(answer choice.2 c pool.state).2,
            pool.programs.set choice.1 (next (answer choice.2 c pool.state).1)⟩ := by simp [Pool.step, chosen]
        rw [stepped]
        obtain ⟨final, reached⟩ := ih ⟨_, _⟩ kept (by
          intro other inside
          rcases List.mem_or_eq_of_mem_set inside with old | rfl
          · exact (upheld other old).since (fun _ _ _ _ _ => trivial) moved
          · exact later)
        exact ⟨final, rely.since_trans moved reached⟩

end Programs

end PharmaIntel.Base
