import Mathlib
import PharmaIntel.Models

/-! The issue collector of one attempt: it counts every issue that does not repeat
an identity since the last drain and keeps the details of the first ones only. -/

namespace PharmaIntel.Collector
open PharmaIntel.Models

abbrev Identity := Option Nat × String × String

/-- The columns of `sales_issue_identity_unique`, within one attempt. -/
def identity (issue : SalesImportIssue) : Identity := (issue.rowNumber, issue.column, issue.code)

/-- Issues labelled by distinct row numbers repeat an identity only within one label. -/
theorem identities_flatMap {α : Type} {number : α → Nat} {issuesOf : α → List SalesImportIssue}
    {items : List α} (distinct : (items.map number).Nodup)
    (own : ∀ item ∈ items, ((issuesOf item).map identity).Nodup ∧
      ∀ issue ∈ issuesOf item, issue.rowNumber = some (number item)) :
    ((items.flatMap issuesOf).map identity).Nodup := by
  rw [List.map_flatMap, List.nodup_flatMap]
  refine ⟨fun item member => (own item member).1, ?_⟩
  apply (List.pairwise_map.mp distinct).imp_of_mem
  intro first second here there apart key known other
  obtain ⟨issue, reported, rfl⟩ := List.mem_map.mp known
  obtain ⟨later, reportedLater, same⟩ := List.mem_map.mp other
  have numbers := congrArg Prod.fst same
  rw [identity, identity, (own first here).2 issue reported, (own second there).2 later reportedLater] at numbers
  exact apart (Option.some.inj numbers).symm

structure IssueCollector where
  maximum : Nat
  total : Nat := 0
  issues : List SalesImportIssue := []
  pendingIdentities : List Identity := []
  detailCount : Nat := 0
  lastPhase : SalesImportIssue.Phase := .contract
  truncated : Bool := false
  deriving DecidableEq

namespace IssueCollector

/-- The maximum less the slot reserved for the summary. -/
def detailLimit (maximum : Nat) : Nat := maximum - if 1 < maximum then 1 else 0

def add (c : IssueCollector) (issue : SalesImportIssue) : IssueCollector :=
  if identity issue ∈ c.pendingIdentities then c
  else if c.detailCount < detailLimit c.maximum then
    { c with
      pendingIdentities := identity issue :: c.pendingIdentities
      total := c.total + 1
      lastPhase := issue.phase
      issues := c.issues ++ [issue]
      detailCount := c.detailCount + 1 }
  else
    { c with
      pendingIdentities := identity issue :: c.pendingIdentities
      total := c.total + 1
      lastPhase := issue.phase
      truncated := true }

def addAll (c : IssueCollector) (issues : List SalesImportIssue) : IssueCollector :=
  issues.foldl add c

/-- The collector after its details have been released. -/
def drained (c : IssueCollector) : IssueCollector := { c with issues := [], pendingIdentities := [] }

/-- Release the retained details so that they can be stored batch by batch. -/
def drain (c : IssueCollector) : List SalesImportIssue × IssueCollector := (c.issues, c.drained)

def summary (c : IssueCollector) : SalesImportIssue where
  rowNumber := none
  column := "__file__"
  code := "ISSUE_LIMIT_REACHED"
  message := "Only the first " ++ toString c.detailCount ++ " detailed validation " ++
    "issues were stored. Correct those issues and submit a new file."
  phase := c.lastPhase

def persisted (c : IssueCollector) : List SalesImportIssue :=
  if c.truncated ∧ c.maximum ≠ 0 then
    if c.maximum = 1 then [c.summary] else c.drain.1 ++ [c.summary]
  else c.drain.1

/-! ## One addition -/

theorem add_repeated {c : IssueCollector} {issue : SalesImportIssue}
    (known : identity issue ∈ c.pendingIdentities) : c.add issue = c := if_pos known

@[simp] theorem add_maximum (c : IssueCollector) (issue : SalesImportIssue) :
    (c.add issue).maximum = c.maximum := by
  unfold add
  split_ifs <;> rfl

theorem add_pending {c : IssueCollector} {issue : SalesImportIssue}
    (fresh : identity issue ∉ c.pendingIdentities) :
    (c.add issue).pendingIdentities = identity issue :: c.pendingIdentities := by
  rw [add, if_neg fresh]
  split_ifs <;> rfl

theorem add_total {c : IssueCollector} {issue : SalesImportIssue}
    (fresh : identity issue ∉ c.pendingIdentities) : (c.add issue).total = c.total + 1 := by
  rw [add, if_neg fresh]
  split_ifs <;> rfl

theorem total_le_add (c : IssueCollector) (issue : SalesImportIssue) :
    c.total ≤ (c.add issue).total := by
  by_cases known : identity issue ∈ c.pendingIdentities
  · rw [add_repeated known]
  · rw [add_total known]
    omega

@[simp] theorem addAll_nil (c : IssueCollector) : c.addAll [] = c := rfl

theorem addAll_cons (c : IssueCollector) (issue : SalesImportIssue) (rest : List SalesImportIssue) :
    c.addAll (issue :: rest) = (c.add issue).addAll rest := rfl

theorem addAll_append (c : IssueCollector) (first second : List SalesImportIssue) :
    c.addAll (first ++ second) = (c.addAll first).addAll second := List.foldl_append

@[simp] theorem addAll_maximum (c : IssueCollector) (issues : List SalesImportIssue) :
    (c.addAll issues).maximum = c.maximum := by
  induction issues generalizing c with
  | nil => rfl
  | cons issue rest ih => rw [addAll_cons, ih, add_maximum]

theorem total_le_addAll (c : IssueCollector) (issues : List SalesImportIssue) :
    c.total ≤ (c.addAll issues).total := by
  induction issues generalizing c with
  | nil => exact le_rfl
  | cons issue rest ih => exact (total_le_add c issue).trans (ih (c.add issue))

@[simp] theorem drained_total (c : IssueCollector) : c.drained.total = c.total := rfl
@[simp] theorem drained_maximum (c : IssueCollector) : c.drained.maximum = c.maximum := rfl
@[simp] theorem drained_pending (c : IssueCollector) : c.drained.pendingIdentities = [] := rfl

/-! ## Issues with distinct identities -/

/-- `issues` repeat neither each other nor what is pending. -/
structure Fresh (c : IssueCollector) (issues : List SalesImportIssue) : Prop where
  distinct : (issues.map identity).Nodup
  apart : ∀ issue ∈ issues, identity issue ∉ c.pendingIdentities

theorem Fresh.head {c : IssueCollector} {issue : SalesImportIssue} {rest : List SalesImportIssue}
    (fresh : Fresh c (issue :: rest)) : identity issue ∉ c.pendingIdentities :=
  fresh.apart issue List.mem_cons_self

theorem Fresh.tail {c : IssueCollector} {issue : SalesImportIssue} {rest : List SalesImportIssue}
    (fresh : Fresh c (issue :: rest)) : Fresh (c.add issue) rest := by
  have distinct := fresh.distinct
  rw [List.map_cons, List.nodup_cons] at distinct
  refine ⟨distinct.2, ?_⟩
  intro other member
  rw [add_pending fresh.head, List.mem_cons, not_or]
  refine ⟨?_, fresh.apart other (List.mem_cons_of_mem issue member)⟩
  intro same
  exact distinct.1 (same ▸ List.mem_map_of_mem member)

theorem mem_addAll_pending {c : IssueCollector} {issues : List SalesImportIssue}
    (fresh : Fresh c issues) (key : Identity) :
    key ∈ (c.addAll issues).pendingIdentities ↔
      key ∈ c.pendingIdentities ∨ key ∈ issues.map identity := by
  induction issues generalizing c with
  | nil => simp
  | cons issue rest ih =>
    rw [addAll_cons, ih fresh.tail, add_pending fresh.head]
    simp only [List.mem_cons, List.map_cons]
    tauto

theorem addAll_total {c : IssueCollector} {issues : List SalesImportIssue}
    (fresh : Fresh c issues) : (c.addAll issues).total = c.total + issues.length := by
  induction issues generalizing c with
  | nil => rfl
  | cons issue rest ih =>
    rw [addAll_cons, ih fresh.tail, add_total fresh.head, List.length_cons]
    omega

/-! ## The counted issues and what has been released of them -/

/-- `counted` are the issues counted so far, in order, and `released` the details
handed out by the drains so far. -/
structure Tracks (c : IssueCollector) (counted released : List SalesImportIssue) : Prop where
  total : c.total = counted.length
  held : released ++ c.issues = counted.take (detailLimit c.maximum)
  details : c.detailCount = (counted.take (detailLimit c.maximum)).length
  truncated : c.truncated = decide (detailLimit c.maximum < counted.length)

theorem tracks_initial (maximum : Nat) : Tracks { maximum } [] [] where
  total := rfl
  held := by simp
  details := by simp
  truncated := by simp

theorem Tracks.add_fresh {c : IssueCollector} {counted released : List SalesImportIssue}
    (tracks : Tracks c counted released) {issue : SalesImportIssue}
    (fresh : identity issue ∉ c.pendingIdentities) :
    Tracks (c.add issue) (counted ++ [issue]) released := by
  have details := tracks.details
  rw [List.length_take] at details
  rw [add, if_neg fresh]
  by_cases room : c.detailCount < detailLimit c.maximum
  · rw [if_pos room]
    have short : counted.length < detailLimit c.maximum := by omega
    have whole : counted.take (detailLimit c.maximum) = counted :=
      List.take_of_length_le short.le
    have grown : (counted ++ [issue]).take (detailLimit c.maximum) = counted ++ [issue] :=
      List.take_of_length_le (by simp; omega)
    have held := tracks.held
    rw [whole] at held
    refine ⟨?_, ?_, ?_, ?_⟩
    · simp [tracks.total]
    · rw [grown, ← List.append_assoc, held]
    · rw [grown, List.length_append, List.length_singleton]
      dsimp only
      omega
    · dsimp only
      rw [tracks.truncated, List.length_append, List.length_singleton, decide_eq_decide]
      omega
  · rw [if_neg room]
    have long : detailLimit c.maximum ≤ counted.length := by omega
    have same : (counted ++ [issue]).take (detailLimit c.maximum) =
        counted.take (detailLimit c.maximum) := List.take_append_of_le_length long
    refine ⟨?_, ?_, ?_, ?_⟩
    · simp [tracks.total]
    · rw [same]
      exact tracks.held
    · rw [same]
      exact tracks.details
    · symm
      simp only [List.length_append, List.length_singleton, decide_eq_true_eq]
      omega

theorem Tracks.addAll_fresh {c : IssueCollector} {counted released issues : List SalesImportIssue}
    (tracks : Tracks c counted released) (fresh : Fresh c issues) :
    Tracks (c.addAll issues) (counted ++ issues) released := by
  induction issues generalizing c counted with
  | nil => simpa using tracks
  | cons issue rest ih =>
    have later := ih (tracks.add_fresh fresh.head) fresh.tail
    rwa [List.append_assoc, List.singleton_append] at later

theorem Tracks.drain {c : IssueCollector} {counted released : List SalesImportIssue}
    (tracks : Tracks c counted released) : Tracks c.drained counted (released ++ c.issues) where
  total := tracks.total
  held := by simpa [drained] using tracks.held
  details := tracks.details
  truncated := tracks.truncated

/-- Everything handed out, the last call included: some of the first details, in
order, and the summary at most. -/
theorem Tracks.persisted_sublist {c : IssueCollector} {counted released : List SalesImportIssue}
    (tracks : Tracks c counted released) :
    (released ++ c.persisted).Sublist (counted.take (detailLimit c.maximum) ++ [c.summary]) := by
  have details : (released ++ c.issues).Sublist (counted.take (detailLimit c.maximum)) := by
    rw [tracks.held]
  unfold persisted
  split_ifs
  · have front := (List.sublist_append_left released c.issues).trans details
    exact front.append (List.Sublist.refl _)
  · rw [IssueCollector.drain, ← List.append_assoc]
    exact details.append (List.Sublist.refl _)
  · exact details.trans (List.sublist_append_left _ _)

/-- Nothing is lost while the details fit. -/
theorem Tracks.persisted_whole {c : IssueCollector} {counted released : List SalesImportIssue}
    (tracks : Tracks c counted released) (few : counted.length ≤ detailLimit c.maximum) :
    released ++ c.persisted = counted := by
  have whole := tracks.held
  rw [List.take_of_length_le few] at whole
  have complete : c.truncated = false := by
    rw [tracks.truncated]
    simpa using few
  simpa [persisted, IssueCollector.drain, complete] using whole

/-- Once everything else has been drained, the last call hands out the summary only. -/
theorem Tracks.persisted_drained {c : IssueCollector} {counted released : List SalesImportIssue}
    (tracks : Tracks c counted released) (drained : c.issues = []) (positive : 1 ≤ c.maximum) :
    released = counted.take (detailLimit c.maximum) ∧
      c.persisted = if detailLimit c.maximum < counted.length then [c.summary] else [] := by
  have held := tracks.held
  rw [drained, List.append_nil] at held
  refine ⟨held, ?_⟩
  unfold persisted
  rw [tracks.truncated, IssueCollector.drain, drained]
  by_cases full : detailLimit c.maximum < counted.length
  · rw [if_pos ⟨decide_eq_true full, by omega⟩, if_pos full]
    split_ifs <;> rfl
  · rw [if_neg (by simp [full]), if_neg full]

theorem Tracks.detailCount_le {c : IssueCollector} {counted released : List SalesImportIssue}
    (tracks : Tracks c counted released) : c.detailCount ≤ counted.length := by
  rw [tracks.details, List.length_take]
  omega

theorem detailLimit_positive {maximum : Nat} (positive : 1 ≤ maximum) : 1 ≤ detailLimit maximum := by
  unfold detailLimit
  split_ifs <;> omega

end IssueCollector

end PharmaIntel.Collector
