import Mathlib

/-! Ordered types: intervals that hold the elements of a group, relations along which a rank
falls, and growth up to a cap. -/

namespace PharmaIntel.Base

/-! ## Periods

Intervals of a linear order that hold the elements of one group each. Two of them are the same
interval or have nothing in common. -/

section Periods
variable {α κ : Type} [LinearOrder α]

/-- The elements from `first` to `last` are those in the group of `member`. -/
def IsPeriod (group : α → κ) (member first last : α) : Prop :=
  ∀ x, x ∈ Set.Icc first last ↔ group x = group member

namespace IsPeriod
variable {group : α → κ} {member first last other otherFirst otherLast : α}

theorem contains (period : IsPeriod group member first last) : first ≤ member ∧ member ≤ last :=
  (period member).mpr rfl

theorem nonempty (period : IsPeriod group member first last) : first ≤ last :=
  period.contains.1.trans period.contains.2

theorem bounds_eq (period : IsPeriod group member first last)
    (otherPeriod : IsPeriod group other otherFirst otherLast) (same : group member = group other) :
    first = otherFirst ∧ last = otherLast := by
  have sets : Set.Icc first last = Set.Icc otherFirst otherLast := by
    ext x
    rw [period x, otherPeriod x, same]
  exact (Set.Icc_eq_Icc_iff period.nonempty).mp sets

theorem equal_or_disjoint (period : IsPeriod group member first last)
    (otherPeriod : IsPeriod group other otherFirst otherLast) :
    (first = otherFirst ∧ last = otherLast) ∨
      Disjoint (Set.Icc first last) (Set.Icc otherFirst otherLast) := by
  by_cases same : group member = group other
  · exact Or.inl (period.bounds_eq otherPeriod same)
  · apply Or.inr
    rw [Set.disjoint_left]
    intro x inside insideOther
    exact same (((period x).mp inside).symm.trans ((otherPeriod x).mp insideOther))

end IsPeriod

end Periods

/-! ## Forests

Relations from a node to its parents. A rank that falls from every child to its parent rules out
cycles and bounds the number of steps an ascent can take. -/

section Forests
variable {α : Type} {parent other : α → α → Prop} {rank : α → Nat} {height : Nat}

/-- No node has two parents, no ascent returns, and none has more than `height` steps. -/
structure Forest (parent : α → α → Prop) (height : Nat) : Prop where
  single : ∀ child first second, parent child first → parent child second → first = second
  acyclic : ∀ node, ¬Relation.TransGen parent node node
  shallow : ∀ node path, List.IsChain parent (node :: path) → path.length ≤ height

def Falls (parent : α → α → Prop) (rank : α → Nat) : Prop :=
  ∀ child up, parent child up → rank up < rank child

theorem Falls.ascent (falls : Falls parent rank) {first last : α}
    (ascent : Relation.TransGen parent first last) : rank last < rank first := by
  induction ascent with
  | single step => exact falls _ _ step
  | tail _ step ih => exact (falls _ _ step).trans ih

theorem Falls.acyclic (falls : Falls parent rank) (node : α) : ¬Relation.TransGen parent node node :=
  fun cycle => lt_irrefl _ (falls.ascent cycle)

/-- Every step of an ascent costs a rank. -/
theorem Falls.path_length (falls : Falls parent rank) {node : α} {path : List α}
    (chain : List.IsChain parent (node :: path)) : path.length ≤ rank node := by
  induction path generalizing node with
  | nil => exact Nat.zero_le _
  | cons up rest ih =>
    rw [List.isChain_cons_cons] at chain
    have below := falls node up chain.1
    have others := ih chain.2
    rw [List.length_cons]
    omega

theorem Falls.mono (falls : Falls parent rank) (sub : ∀ child up, other child up → parent child up) :
    Falls other rank :=
  fun child up step => falls child up (sub child up step)

theorem Falls.forest (falls : Falls parent rank) (bounded : ∀ node, rank node ≤ height)
    (single : ∀ child first second, parent child first → parent child second → first = second) :
    Forest parent height where
  single := single
  acyclic := falls.acyclic
  shallow := fun node _ chain => (falls.path_length chain).trans (bounded node)

end Forests

/-! ## Capped growth

Growing a value turn by turn up to a cap. The loop cuts every value off at the cap and stops once
it is there; what comes out is the uncapped growth, cut off once. -/

section Capped
variable {α : Type} [LinearOrder α] (grow : α → α) (cap : α)

/-- At most `turns` turns, and none from the cap on. Beside the value it ends with, the
values its turns have grown, each before it is cut off. -/
def cappedGrowth : Nat → α → α × List α
  | 0, value => (value, [])
  | turns + 1, value =>
      if cap ≤ value then (value, [])
      else
        let later := cappedGrowth turns (min (grow value) cap)
        (later.1, grow value :: later.2)

variable {grow cap} {value : α}

theorem cappedGrowth_of_cap_le (reached : cap ≤ value) (turns : Nat) :
    cappedGrowth grow cap turns value = (value, []) := by
  cases turns with
  | zero => rfl
  | succ turns => rw [cappedGrowth, if_pos reached]

theorem cappedGrowth_turn (below : ¬cap ≤ value) (turns : Nat) :
    cappedGrowth grow cap (turns + 1) value =
      ((cappedGrowth grow cap turns (min (grow value) cap)).1,
        grow value :: (cappedGrowth grow cap turns (min (grow value) cap)).2) := by
  rw [cappedGrowth, if_neg below]

/-- The loop ends with the last value it has grown. -/
theorem cappedGrowth_last (turns : Nat) (value : α) :
    (cappedGrowth grow cap turns value).1 =
      ((cappedGrowth grow cap turns value).2.getLast?.map (fun grown => min grown cap)).getD value := by
  induction turns generalizing value with
  | zero => rfl
  | succ turns ih =>
    by_cases reached : cap ≤ value
    · rw [cappedGrowth_of_cap_le reached]
      rfl
    · rw [cappedGrowth_turn reached, ih, List.getLast?_cons]
      cases (cappedGrowth grow cap turns (min (grow value) cap)).2.getLast? with
      | none => rfl
      | some last => rfl

theorem grown_length_le (turns : Nat) (value : α) : (cappedGrowth grow cap turns value).2.length ≤ turns := by
  induction turns generalizing value with
  | zero => exact le_rfl
  | succ turns ih =>
    by_cases reached : cap ≤ value
    · rw [cappedGrowth_of_cap_le reached]
      exact Nat.zero_le _
    · rw [cappedGrowth_turn reached]
      exact Nat.succ_le_succ (ih _)

/-- Only a value below the cap is grown. -/
theorem grown_below {turns : Nat} {grown : α} (member : grown ∈ (cappedGrowth grow cap turns value).2) :
    ∃ before, before < cap ∧ grown = grow before := by
  induction turns generalizing value with
  | zero => cases member
  | succ turns ih =>
    by_cases reached : cap ≤ value
    · rw [cappedGrowth_of_cap_le reached] at member
      cases member
    · rw [cappedGrowth_turn reached] at member
      rcases List.mem_cons.mp member with rfl | later
      · exact ⟨value, not_le.mp reached, rfl⟩
      · exact ih later

/-- The loop takes no more turns than the uncapped growth needs to reach the cap. -/
theorem grown_length_le_of_reached {needed : Nat} (reached : cap ≤ grow^[needed] value) (turns : Nat) :
    (cappedGrowth grow cap turns value).2.length ≤ needed := by
  induction needed generalizing value turns with
  | zero =>
    have there : cap ≤ value := reached
    rw [cappedGrowth_of_cap_le there]
    exact le_rfl
  | succ needed ih =>
    cases turns with
    | zero => exact Nat.zero_le _
    | succ turns =>
      by_cases there : cap ≤ value
      · rw [cappedGrowth_of_cap_le there]
        exact Nat.zero_le _
      · rw [cappedGrowth_turn there]
        apply Nat.succ_le_succ
        rcases le_total (grow value) cap with inside | beyond
        · rw [min_eq_left inside]
          exact ih reached turns
        · rw [min_eq_right beyond, cappedGrowth_of_cap_le le_rfl]
          exact Nat.zero_le _

section Rising
variable {Grows : α → Prop} (kept : ∀ value, Grows value → Grows (grow value))
  (rises : ∀ value, Grows value → value ≤ grow value)
include kept rises

theorem le_iterate (grows : Grows value) (turns : Nat) : value ≤ grow^[turns] value := by
  induction turns generalizing value with
  | zero => exact le_rfl
  | succ turns ih =>
    rw [Function.iterate_succ_apply]
    exact (rises value grows).trans (ih (kept value grows))

/-- Cutting off at every turn comes to cutting off at the end. -/
theorem cappedGrowth_eq (grows : Grows value) (below : value ≤ cap) (turns : Nat) :
    (cappedGrowth grow cap turns value).1 = min (grow^[turns] value) cap := by
  induction turns generalizing value with
  | zero => exact (min_eq_left below).symm
  | succ turns ih =>
    rw [Function.iterate_succ_apply]
    by_cases reached : cap ≤ value
    · have further : cap ≤ grow^[turns] (grow value) :=
        reached.trans ((rises value grows).trans (le_iterate kept rises (kept value grows) turns))
      rw [cappedGrowth_of_cap_le reached, min_eq_right further]
      exact le_antisymm below reached
    · rw [cappedGrowth_turn reached]
      rcases le_total (grow value) cap with inside | beyond
      · rw [min_eq_left inside]
        exact ih (kept value grows) inside
      · rw [min_eq_right beyond, cappedGrowth_of_cap_le le_rfl,
          min_eq_right (beyond.trans (le_iterate kept rises (kept value grows) turns))]

/-- Starting from a value that has been cut off makes no difference. -/
theorem cappedGrowth_min (grows : Grows value) (turns : Nat) :
    (cappedGrowth grow cap turns (min value cap)).1 = min (grow^[turns] value) cap := by
  rcases le_total value cap with below | reached
  · rw [min_eq_left below]
    exact cappedGrowth_eq kept rises grows below turns
  · rw [min_eq_right reached, cappedGrowth_of_cap_le le_rfl,
      min_eq_right (reached.trans (le_iterate kept rises grows turns))]

end Rising

end Capped

end PharmaIntel.Base
