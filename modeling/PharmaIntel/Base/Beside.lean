import Mathlib
import PharmaIntel.Base.Rely

/-! Two services that share nothing, and what a program that calls both of them does to each. -/

namespace PharmaIntel.Base

section Beside
variable {κ₁ κ₂ σ₁ σ₂ ι₁ ι₂ α : Type} {Answer₁ : κ₁ → Type} {Answer₂ : κ₂ → Type}

/-- A call goes to its service and leaves the other alone. -/
def beside (first : ι₁ → (c : κ₁) → σ₁ → Answer₁ c × σ₁) (second : ι₂ → (c : κ₂) → σ₂ → Answer₂ c × σ₂)
    (input : ι₁ × ι₂) : (c : κ₁ ⊕ κ₂) → σ₁ × σ₂ → Sum.elim Answer₁ Answer₂ c × (σ₁ × σ₂)
  | .inl c, state => ((first input.1 c state.1).1, ((first input.1 c state.1).2, state.2))
  | .inr c, state => ((second input.2 c state.2).1, (state.1, (second input.2 c state.2).2))

def Program.onFirst : Program Answer₁ α → Program (Sum.elim Answer₁ Answer₂) α
  | .done value => .done value
  | .call c next => .call (.inl c) (fun answered => (next answered).onFirst)

def Program.onSecond : Program Answer₂ α → Program (Sum.elim Answer₁ Answer₂) α
  | .done value => .done value
  | .call c next => .call (.inr c) (fun answered => (next answered).onSecond)

theorem Program.onSecond_bind {β : Type} (program : Program Answer₂ α) (f : α → Program Answer₂ β) :
    ((program >>= f).onSecond : Program (Sum.elim Answer₁ Answer₂) β) =
      program.onSecond >>= fun value => (f value).onSecond := by
  induction program with
  | done value => rfl
  | call c next ih => exact congrArg (Program.call (Sum.inr c)) (funext ih)

variable {first : ι₁ → (c : κ₁) → σ₁ → Answer₁ c × σ₁} {second : ι₂ → (c : κ₂) → σ₂ → Answer₂ c × σ₂}
  {rely : Rely (σ₁ × σ₂)}

/-- A program of the first service, as a session of that service alone. -/
theorem upholds_onFirst
    (kept : ∀ c now input, rely.Holds now → rely.Holds ((first input c now.1).2, now.2) ∧
      rely.Since now ((first input c now.1).2, now.2))
    (history : ∀ {earlier later}, rely.Since earlier later →
      ∃ events, later.1 = run (afterCall first) earlier.1 events)
    (program : Program Answer₁ α) (state : σ₁ × σ₂) :
    Upholds (beside first second) rely program.onFirst (fun value now => ∃ trace,
      Session first (fun _ => True) (fun _ => True) program state.1 trace value now.1) state := by
  induction program generalizing state with
  | done value => exact ⟨[], .done value state.1⟩
  | call c next ih =>
    intro now since holds input
    obtain ⟨after, moved⟩ := kept c now input.1 holds
    obtain ⟨events, reached⟩ := history since
    refine ⟨after, moved, (ih _ _).imp ?_⟩
    rintro value final ⟨trace, session⟩
    refine ⟨⟨c, input.1, now.1⟩ :: trace, ?_⟩
    dsimp only [beside] at session
    rw [reached] at session ⊢
    exact .call events input.1 (fun _ _ => trivial) trivial session

theorem all_onSecond {P : κ₂ → Prop} {program : Program Answer₂ α} (all : program.All P) :
    (program.onSecond : Program (Sum.elim Answer₁ Answer₂) α).All (Sum.elim (fun _ => True) P) := by
  induction all with
  | done value => exact .done value
  | call here later ih => exact .call here ih

/-! ## The second service by itself -/

/-- A call to the second service, as that service sees it. -/
def Performed.atSecond (performed : Performed (κ₁ ⊕ κ₂) (ι₁ × ι₂) (σ₁ × σ₂)) : Option (Performed κ₂ ι₂ σ₂) :=
  match performed.call with
  | .inl _ => none
  | .inr c => some ⟨c, performed.input.2, performed.before.2⟩

def secondEvents (events : List ((κ₁ ⊕ κ₂) × (ι₁ × ι₂))) : List (κ₂ × ι₂) :=
  events.filterMap (fun event => match event.1 with
    | .inl _ => none
    | .inr c => some (c, event.2.2))

theorem mem_secondEvents {events : List ((κ₁ ⊕ κ₂) × (ι₁ × ι₂))} {c : κ₂} {input : ι₂}
    (member : (c, input) ∈ secondEvents events) : ∃ other, (Sum.inr c, (other, input)) ∈ events := by
  obtain ⟨⟨call, other, mine⟩, inside, same⟩ := List.mem_filterMap.mp member
  cases call with
  | inl _ => cases same
  | inr _ =>
    cases same
    exact ⟨other, inside⟩

theorem run_beside_second (state : σ₁ × σ₂) (events : List ((κ₁ ⊕ κ₂) × (ι₁ × ι₂))) :
    (run (afterCall (beside first second)) state events).2 =
      run (afterCall second) state.2 (secondEvents events) := by
  induction events generalizing state with
  | nil => rfl
  | cons event rest ih =>
    obtain ⟨c, input⟩ := event
    rw [run_cons, ih]
    cases c with
    | inl c => rfl
    | inr c => rfl

variable {own others : (κ₁ ⊕ κ₂) × (ι₁ × ι₂) → Prop}

/-- How a condition on calls looks to the second service. -/
def OnSecond (admitted : (κ₁ ⊕ κ₂) × (ι₁ × ι₂) → Prop) (event : κ₂ × ι₂) : Prop :=
  ∃ other, admitted (Sum.inr event.1, (other, event.2))

theorem secondEvents_foreign {events : List ((κ₁ ⊕ κ₂) × (ι₁ × ι₂))} (foreign : ∀ event ∈ events, others event) :
    ∀ event ∈ secondEvents events, OnSecond others event := by
  rintro ⟨c, input⟩ member
  obtain ⟨other, inside⟩ := mem_secondEvents member
  exact ⟨other, foreign _ inside⟩

/-- A program of the second service does there what it would do without the first. -/
theorem Session.ofSecond {program : Program Answer₂ α} {state final : σ₁ × σ₂} {value : α}
    {trace : List (Performed (κ₁ ⊕ κ₂) (ι₁ × ι₂) (σ₁ × σ₂))}
    (session : Session (beside first second) own others program.onSecond state trace value final) :
    Session second (OnSecond own) (OnSecond others) program state.2 (trace.filterMap Performed.atSecond) value
      final.2 := by
  induction program generalizing state trace with
  | done result =>
    cases session
    exact .done _ _
  | call c next ih =>
    cases session with
    | call events input foreign mine later =>
      have rest := ih _ later
      rw [List.filterMap_cons_some (by rfl), run_beside_second]
      dsimp only [beside] at rest
      rw [run_beside_second] at rest
      exact .call (secondEvents events) input.2 (secondEvents_foreign foreign) ⟨input.1, mine⟩ rest

variable (first second) in
theorem run_beside_first (state : σ₁ × σ₂) (events : List ((κ₁ ⊕ κ₂) × (ι₁ × ι₂))) :
    ∃ firsts, (run (afterCall (beside first second)) state events).1 = run (afterCall first) state.1 firsts := by
  induction events generalizing state with
  | nil => exact ⟨[], rfl⟩
  | cons event rest ih =>
    obtain ⟨c, input⟩ := event
    obtain ⟨firsts, reached⟩ := ih (afterCall (beside first second) state (c, input))
    rw [run_cons, reached]
    cases c with
    | inl c => exact ⟨(c, input.1) :: firsts, rfl⟩
    | inr c => exact ⟨firsts, rfl⟩

/-- A program of the first service runs there as without the second, and leaves that one to the others. -/
theorem Session.ofFirst {program : Program Answer₁ α} {state final : σ₁ × σ₂} {value : α}
    {trace : List (Performed (κ₁ ⊕ κ₂) (ι₁ × ι₂) (σ₁ × σ₂))}
    (session : Session (beside first second) own others program.onFirst state trace value final) :
    trace.filterMap Performed.atSecond = [] ∧
      (∃ events, (∀ event ∈ events, OnSecond others event) ∧ final.2 = run (afterCall second) state.2 events) ∧
      ∃ firsts, Session first (fun _ => True) (fun _ => True) program state.1 firsts value final.1 := by
  induction program generalizing state trace with
  | done result =>
    cases session
    exact ⟨rfl, ⟨[], by simp, rfl⟩, [], .done _ _⟩
  | call c next ih =>
    cases session with
    | call events input foreign mine later =>
      obtain ⟨unseen, ⟨more, admitted, reached⟩, firsts, alone⟩ := ih _ later
      refine ⟨by rw [List.filterMap_cons_none (by rfl), unseen], ⟨secondEvents events ++ more, ?_, ?_⟩, ?_⟩
      · intro event member
        exact (List.mem_append.mp member).elim (secondEvents_foreign foreign event) (admitted event)
      · rw [reached, run_append]
        dsimp only [beside]
        rw [run_beside_second]
      · obtain ⟨moves, moved⟩ := run_beside_first first second state events
        dsimp only [beside] at alone
        rw [moved] at alone
        exact ⟨_, .call moves input.1 (fun _ _ => trivial) trivial alone⟩

end Beside

end PharmaIntel.Base
