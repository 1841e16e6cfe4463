import Mathlib
import PharmaIntel.Collector

/-! What the collector releases over any sequence of additions and drains, and when that
stays within its maximum. -/

namespace PharmaIntel.Collector
open PharmaIntel.Models

inductive Operation where
  | add (issue : SalesImportIssue)
  | drain
  deriving DecidableEq

namespace IssueCollector

/-- The collector and what its drains have released. -/
def perform (state : IssueCollector × List SalesImportIssue) :
    Operation → IssueCollector × List SalesImportIssue
  | .add issue => (state.1.add issue, state.2)
  | .drain => (state.1.drain.2, state.2 ++ state.1.drain.1)

def performAll (state : IssueCollector × List SalesImportIssue) (operations : List Operation) :
    IssueCollector × List SalesImportIssue := operations.foldl perform state

/-- The additions that repeat no identity since the last drain. -/
def countedFrom (pending : List Identity) : List Operation → List SalesImportIssue
  | [] => []
  | .add issue :: rest =>
      if pending.contains (identity issue) then countedFrom pending rest
      else issue :: countedFrom (identity issue :: pending) rest
  | .drain :: rest => countedFrom [] rest

theorem countedFrom_add (pending : List Identity) (issue : SalesImportIssue) (rest : List Operation) :
    countedFrom pending (.add issue :: rest) =
      if identity issue ∈ pending then countedFrom pending rest
      else issue :: countedFrom (identity issue :: pending) rest := by
  simp [countedFrom]

/-- The state in which `persisted` is called. -/
def lastState (maximum : Nat) (operations : List Operation) : IssueCollector × List SalesImportIssue :=
  performAll ({ maximum }, []) operations

/-- Everything the drains and the last call release. -/
def releasedIssues (maximum : Nat) (operations : List Operation) : List SalesImportIssue :=
  (lastState maximum operations).2 ++ (lastState maximum operations).1.persisted

/-! ## Runs -/

theorem performAll_append (state : IssueCollector × List SalesImportIssue)
    (first second : List Operation) :
    performAll state (first ++ second) = performAll (performAll state first) second :=
  List.foldl_append

theorem performAll_maximum (state : IssueCollector × List SalesImportIssue)
    (operations : List Operation) : (performAll state operations).1.maximum = state.1.maximum := by
  induction operations generalizing state with
  | nil => rfl
  | cons operation rest ih =>
    change (performAll (perform state operation) rest).1.maximum = _
    rw [ih]
    cases operation with
    | add issue => exact add_maximum _ _
    | drain => rfl

theorem performAll_released (state : IssueCollector × List SalesImportIssue)
    (operations : List Operation) : state.2 <+: (performAll state operations).2 := by
  induction operations generalizing state with
  | nil => exact List.prefix_refl _
  | cons operation rest ih =>
    change _ <+: (performAll (perform state operation) rest).2
    refine List.IsPrefix.trans ?_ (ih _)
    cases operation with
    | add issue => exact List.prefix_refl _
    | drain => exact List.prefix_append _ _

/-- The collector counts the issues that repeat no identity since the last drain. -/
theorem performAll_tracks (operations : List Operation) {c : IssueCollector}
    {counted released : List SalesImportIssue} (tracks : Tracks c counted released) :
    Tracks (performAll (c, released) operations).1 (counted ++ countedFrom c.pendingIdentities operations)
      (performAll (c, released) operations).2 := by
  induction operations generalizing c counted released with
  | nil =>
    rw [countedFrom, List.append_nil]
    exact tracks
  | cons operation rest ih =>
    cases operation with
    | add issue =>
      change Tracks (performAll (c.add issue, released) rest).1 _ (performAll (c.add issue, released) rest).2
      rw [countedFrom_add]
      by_cases known : identity issue ∈ c.pendingIdentities
      · rw [if_pos known, add_repeated known]
        exact ih tracks
      · rw [if_neg known]
        have later := ih (tracks.add_fresh known)
        rw [add_pending known, List.append_assoc, List.singleton_append] at later
        exact later
    | drain => exact ih tracks.drain

theorem lastState_tracks (maximum : Nat) (operations : List Operation) :
    Tracks (lastState maximum operations).1 (countedFrom [] operations)
      (lastState maximum operations).2 := by
  have tracks := performAll_tracks operations (tracks_initial maximum)
  rwa [List.nil_append] at tracks

/-! ## Additions and drains -/

/-- A drain comes after an addition. -/
def ReleasedEarly (operations : List Operation) : Prop :=
  ∃ front back, operations = front ++ .drain :: back ∧ ∃ issue, .add issue ∈ front

/-- Two additions have different identities, or a drain comes between two of them. -/
def AddedTwice (operations : List Operation) : Prop :=
  (∃ first second, .add first ∈ operations ∧ .add second ∈ operations ∧
      identity first ≠ identity second) ∨
    ∃ front back, operations = front ++ .drain :: back ∧ (∃ issue, .add issue ∈ front) ∧
      ∃ issue, .add issue ∈ back

theorem countedFrom_added {pending : List Identity} {operations : List Operation}
    (some : countedFrom pending operations ≠ []) : ∃ issue, .add issue ∈ operations := by
  induction operations generalizing pending with
  | nil => exact absurd rfl some
  | cons operation rest ih =>
    cases operation with
    | add issue => exact ⟨issue, List.mem_cons_self⟩
    | drain =>
      obtain ⟨issue, listed⟩ := @ih [] some
      exact ⟨issue, List.mem_cons_of_mem _ listed⟩

/-- Every added identity is counted, at the latest when it is added. -/
theorem counted_identity {operations : List Operation} {issue : SalesImportIssue}
    (added : .add issue ∈ operations) (pending : List Identity) :
    identity issue ∈ pending ∨ identity issue ∈ (countedFrom pending operations).map identity := by
  induction operations generalizing pending with
  | nil => cases added
  | cons operation rest ih =>
    cases operation with
    | add other =>
      rw [countedFrom_add]
      rcases List.mem_cons.mp added with here | later
      · injection here with here
        subst here
        by_cases known : identity issue ∈ pending
        · exact Or.inl known
        · rw [if_neg known]
          exact Or.inr List.mem_cons_self
      · by_cases known : identity other ∈ pending
        · rw [if_pos known]
          exact ih later pending
        · rw [if_neg known]
          rcases ih later (identity other :: pending) with earlier | counted
          · rcases List.mem_cons.mp earlier with same | old
            · rw [List.map_cons, same]
              exact Or.inr List.mem_cons_self
            · exact Or.inl old
          · exact Or.inr (List.mem_cons_of_mem _ counted)
    | drain =>
      rcases List.mem_cons.mp added with here | later
      · cases here
      · rcases ih later [] with none | counted
        · cases none
        · exact Or.inr counted

theorem counted_some {operations : List Operation} {issue : SalesImportIssue}
    (added : .add issue ∈ operations) : countedFrom [] operations ≠ [] := by
  intro none
  rcases counted_identity added [] with known | counted
  · cases known
  · rw [none] at counted
    cases counted

theorem countedFrom_drain (front back : List Operation) (pending : List Identity) :
    countedFrom pending (front ++ .drain :: back) = countedFrom pending front ++ countedFrom [] back := by
  induction front generalizing pending with
  | nil => rfl
  | cons operation rest ih =>
    cases operation with
    | add issue =>
      rw [List.cons_append, countedFrom_add, countedFrom_add]
      split_ifs
      · exact ih pending
      · rw [ih, List.cons_append]
    | drain => exact ih []

/-- What is counted beside one pending identity is another one, or comes after a drain. -/
theorem countedFrom_single {key : Identity} {operations : List Operation}
    (some : countedFrom [key] operations ≠ []) :
    (∃ issue, .add issue ∈ operations ∧ identity issue ≠ key) ∨
      ∃ front back, operations = front ++ .drain :: back ∧ ∃ issue, .add issue ∈ back := by
  induction operations with
  | nil => exact absurd rfl some
  | cons operation rest ih =>
    cases operation with
    | add issue =>
      rw [countedFrom_add] at some
      by_cases known : identity issue ∈ [key]
      · rw [if_pos known] at some
        rcases ih some with ⟨other, listed, apart⟩ | ⟨front, back, rfl, added⟩
        · exact Or.inl ⟨other, List.mem_cons_of_mem _ listed, apart⟩
        · exact Or.inr ⟨.add issue :: front, back, rfl, added⟩
      · exact Or.inl ⟨issue, List.mem_cons_self, fun same => known (List.mem_singleton.mpr same)⟩
    | drain => exact Or.inr ⟨[], rest, rfl, countedFrom_added some⟩

theorem two_of_distinct {first second : Identity} {issues : List SalesImportIssue}
    (here : first ∈ issues.map identity) (there : second ∈ issues.map identity)
    (apart : first ≠ second) : 2 ≤ issues.length := by
  match issues with
  | [] => cases here
  | [only] =>
    rw [List.map_singleton, List.mem_singleton] at here there
    exact absurd (here.trans there.symm) apart
  | _ :: _ :: rest => exact Nat.le_add_left 2 rest.length

theorem counted_twice_iff (operations : List Operation) :
    2 ≤ (countedFrom [] operations).length ↔ AddedTwice operations := by
  constructor
  · intro many
    induction operations with
    | nil => exact absurd many (by decide)
    | cons operation rest ih =>
      cases operation with
      | add issue =>
        rw [countedFrom_add, if_neg List.not_mem_nil, List.length_cons] at many
        have some : countedFrom [identity issue] rest ≠ [] := by
          intro none
          rw [none] at many
          exact absurd many (by decide)
        rcases countedFrom_single some with ⟨other, listed, apart⟩ | ⟨front, back, rfl, added⟩
        · exact Or.inl ⟨other, issue, List.mem_cons_of_mem _ listed, List.mem_cons_self, apart⟩
        · exact Or.inr ⟨.add issue :: front, back, rfl, ⟨issue, List.mem_cons_self⟩, added⟩
      | drain =>
        rcases ih many with ⟨first, second, here, there, apart⟩ | ⟨front, back, rfl, before, after⟩
        · exact Or.inl ⟨first, second, List.mem_cons_of_mem _ here, List.mem_cons_of_mem _ there, apart⟩
        · obtain ⟨issue, listed⟩ := before
          exact Or.inr ⟨.drain :: front, back, rfl, ⟨issue, List.mem_cons_of_mem _ listed⟩, after⟩
  · rintro (⟨first, second, here, there, apart⟩ | ⟨front, back, rfl, ⟨before, early⟩, after, late⟩)
    · have firstCounted := (counted_identity here []).resolve_left List.not_mem_nil
      have secondCounted := (counted_identity there []).resolve_left List.not_mem_nil
      exact two_of_distinct firstCounted secondCounted apart
    · rw [countedFrom_drain, List.length_append]
      have frontSome := List.length_pos_of_ne_nil (counted_some early)
      have backSome := List.length_pos_of_ne_nil (counted_some late)
      omega

/-! ## What has been drained -/

theorem released_cases (operations : List Operation) {c : IssueCollector}
    {released : List SalesImportIssue} (some : (performAll (c, released) operations).2 ≠ []) :
    released ≠ [] ∨ (c.issues ≠ [] ∧ .drain ∈ operations) ∨ ReleasedEarly operations := by
  induction operations generalizing c released with
  | nil => exact Or.inl some
  | cons operation rest ih =>
    cases operation with
    | add issue =>
      rcases @ih (c.add issue) released some with old | ⟨_, drains⟩ | ⟨front, back, rfl, other, listed⟩
      · exact Or.inl old
      · obtain ⟨front, back, rfl⟩ := List.append_of_mem drains
        exact Or.inr (Or.inr ⟨.add issue :: front, back, rfl, issue, List.mem_cons_self⟩)
      · exact Or.inr (Or.inr ⟨.add issue :: front, back, rfl, other, List.mem_cons_of_mem _ listed⟩)
    | drain =>
      rcases @ih c.drained (released ++ c.issues) some with
        old | ⟨held, _⟩ | ⟨front, back, rfl, other, listed⟩
      · by_cases none : released = []
        · rw [none, List.nil_append] at old
          exact Or.inr (Or.inl ⟨old, List.mem_cons_self⟩)
        · exact Or.inl none
      · exact absurd rfl held
      · exact Or.inr (Or.inr ⟨.drain :: front, back, rfl, other, List.mem_cons_of_mem _ listed⟩)

/-- Something has been drained before the last call exactly when a drain follows an addition. -/
theorem released_iff {maximum : Nat} (positive : 1 ≤ maximum) (operations : List Operation) :
    (lastState maximum operations).2 ≠ [] ↔ ReleasedEarly operations := by
  constructor
  · intro some
    rcases released_cases operations some with none | ⟨none, _⟩ | early
    · exact absurd rfl none
    · exact absurd rfl none
    · exact early
  · rintro ⟨front, back, rfl, issue, added⟩
    have tracks := lastState_tracks maximum front
    have limit : (lastState maximum front).1.maximum = maximum := performAll_maximum _ _
    have held := tracks.held
    rw [limit] at held
    have some : (countedFrom [] front).take (detailLimit maximum) ≠ [] := by
      rw [ne_eq, List.take_eq_nil_iff, not_or]
      exact ⟨Nat.pos_iff_ne_zero.mp (detailLimit_positive positive), counted_some added⟩
    have drained : lastState maximum (front ++ .drain :: back) =
        performAll (perform (lastState maximum front) .drain) back := performAll_append _ _ _
    have grows := performAll_released (perform (lastState maximum front) .drain) back
    rw [← drained] at grows
    intro none
    rw [none, List.prefix_nil] at grows
    exact some (held.symm.trans grows)

/-! ## The cap -/

/-- The total counts the fresh additions, at most `maximum` issues are released, and these
are the first of the counted ones with a summary behind them exactly when some are missing. -/
structure Capped (maximum : Nat) (operations : List Operation) : Prop where
  total : (lastState maximum operations).1.total = (countedFrom [] operations).length
  within : (releasedIssues maximum operations).length ≤ maximum
  details : ∃ details, details <+: countedFrom [] operations ∧
    releasedIssues maximum operations = details ++
      (if details.length < (countedFrom [] operations).length then
        [(lastState maximum operations).1.summary] else [])

/-- The details that are released, and whether the summary is. -/
theorem releasedIssues_cases {maximum : Nat} (positive : 1 ≤ maximum) (operations : List Operation) :
    ((countedFrom [] operations).length ≤ detailLimit maximum ∧
        releasedIssues maximum operations = countedFrom [] operations) ∨
      (detailLimit maximum < (countedFrom [] operations).length ∧ maximum ≠ 1 ∧
        releasedIssues maximum operations = (countedFrom [] operations).take (detailLimit maximum) ++
          [(lastState maximum operations).1.summary]) ∨
      (detailLimit maximum < (countedFrom [] operations).length ∧ maximum = 1 ∧
        releasedIssues maximum operations = (lastState maximum operations).2 ++
          [(lastState maximum operations).1.summary]) := by
  have tracks := lastState_tracks maximum operations
  have limit : (lastState maximum operations).1.maximum = maximum := performAll_maximum _ _
  have held := tracks.held
  rw [limit] at held
  unfold releasedIssues
  rcases Nat.lt_or_ge (detailLimit maximum) (countedFrom [] operations).length with many | few
  · right
    have truncated : (lastState maximum operations).1.truncated = true := by
      rw [tracks.truncated, limit]
      exact decide_eq_true many
    unfold persisted
    rw [limit, if_pos ⟨truncated, by omega⟩]
    by_cases one : maximum = 1
    · rw [if_pos one]
      exact Or.inr ⟨many, one, rfl⟩
    · rw [if_neg one, IssueCollector.drain, ← List.append_assoc, held]
      exact Or.inl ⟨many, one, rfl⟩
  · left
    exact ⟨few, tracks.persisted_whole (limit.symm ▸ few)⟩

/-- The collector keeps to its maximum unless the maximum is one, a drain releases the first
issue and a second one is counted: then the summary comes on top of it. -/
theorem capped_iff (maximum : Nat) (positive : 1 ≤ maximum) (operations : List Operation) :
    Capped maximum operations ↔
      ¬(maximum = 1 ∧ ReleasedEarly operations ∧ AddedTwice operations) := by
  have tracks := lastState_tracks maximum operations
  have cases := releasedIssues_cases positive operations
  constructor
  · rintro capped ⟨rfl, early, twice⟩
    have many := (counted_twice_iff operations).mpr twice
    have some := List.length_pos_of_ne_nil ((released_iff positive operations).mpr early)
    have within := capped.within
    rcases cases with ⟨few, _⟩ | ⟨_, other, _⟩ | ⟨_, _, released⟩
    · exact absurd (many.trans few) (by decide)
    · exact other rfl
    · rw [released, List.length_append, List.length_singleton] at within
      omega
  · intro allowed
    have limit : detailLimit maximum + (if 1 < maximum then 1 else 0) = maximum := by
      unfold detailLimit
      split_ifs <;> omega
    rcases cases with ⟨few, released⟩ | ⟨many, other, released⟩ | ⟨many, rfl, released⟩
    · refine ⟨tracks.total, ?_, countedFrom [] operations, List.prefix_refl _, ?_⟩
      · rw [released]
        omega
      · rw [released, if_neg (Nat.lt_irrefl _), List.append_nil]
    · have size : ((countedFrom [] operations).take (detailLimit maximum)).length =
          detailLimit maximum := by
        rw [List.length_take]
        omega
      refine ⟨tracks.total, ?_, _, List.take_prefix (detailLimit maximum) _, ?_⟩
      · rw [released, List.length_append, List.length_singleton, size]
        rw [if_pos (by omega)] at limit
        omega
      · rw [released, size, if_pos many]
    · have none : (lastState 1 operations).2 = [] := by
        by_contra some
        exact allowed ⟨rfl, (released_iff positive operations).mp some,
          (counted_twice_iff operations).mp many⟩
      rw [none, List.nil_append] at released
      refine ⟨tracks.total, ?_, [], List.nil_prefix, ?_⟩
      · rw [released]
        exact le_rfl
      · rw [released, List.nil_append, List.length_nil, if_pos (by omega)]

/-- Three rows with issues, one of them twice, and drains between them. -/
def mixedOperations : List Operation :=
  [.add ⟨some 2, "quantity", "QUANTITY_ZERO", "Quantity cannot be zero.", .contract⟩,
    .add ⟨some 2, "quantity", "QUANTITY_ZERO", "Quantity cannot be zero.", .contract⟩, .drain,
    .add ⟨some 3, "quantity", "QUANTITY_ZERO", "Quantity cannot be zero.", .contract⟩,
    .add ⟨some 3, "product_code", "REQUIRED_VALUE_MISSING", "A value is required.", .contract⟩, .drain,
    .add ⟨some 4, "quantity", "QUANTITY_ZERO", "Quantity cannot be zero.", .contract⟩]

/-- Of the four issues that count one is kept beside the summary. -/
theorem capped_iff_sample :
    Capped 2 mixedOperations ∧ (lastState 2 mixedOperations).1.total = 4 ∧
      (releasedIssues 2 mixedOperations).map SalesImportIssue.rowNumber = [some 2, none] :=
  ⟨(capped_iff 2 (by decide) mixedOperations).mpr (fun early => absurd early.1 (by decide)), by decide, by decide⟩

/-- With a maximum of one: an issue is drained, and a second one brings the summary. -/
def lateSummary : List Operation :=
  [.add ⟨some 2, "quantity", "QUANTITY_ZERO", "Quantity cannot be zero.", .contract⟩, .drain,
    .add ⟨some 3, "quantity", "QUANTITY_ZERO", "Quantity cannot be zero.", .contract⟩]

theorem lateSummary_released : ¬∀ maximum operations, 1 ≤ maximum →
    (releasedIssues maximum operations).length ≤ maximum := by
  intro all
  have within := all 1 lateSummary le_rfl
  exact absurd within (by decide)

end IssueCollector

end PharmaIntel.Collector
