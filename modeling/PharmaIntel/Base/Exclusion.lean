import Mathlib
import PharmaIntel.Base.Keyed

/-! Ranges of days in their canonical form, and tables in which no two rows clash. Two
ranges overlap when they share a day, so rows that may not overlap share none. -/

namespace PharmaIntel.Base

/-! ## Ranges -/

/-- The days from `lower` up to, and not including, `upper`; an absent bound leaves the
range open. -/
structure DateRange where
  lower : Int
  upper : Option Int
  deriving DecidableEq

namespace DateRange

/-- `lower` lies before the end of the range. -/
def endsAfter (range : DateRange) (lower : Int) : Bool := range.upper.all (fun upper => decide (lower < upper))

/-- `range @> day`. -/
def contains (range : DateRange) (day : Int) : Bool := decide (range.lower ≤ day) && range.endsAfter day

/-- `first && second`; an empty range overlaps nothing. -/
def overlaps (first second : DateRange) : Bool :=
  first.endsAfter first.lower && second.endsAfter second.lower &&
    first.endsAfter second.lower && second.endsAfter first.lower

/-- `DATERANGE(first, last, '[]')`, an error where the bounds are out of order. -/
def inclusive (first : Int) (last : Option Int) : Option DateRange :=
  if last.any (fun last => decide (last < first)) then none
  else some ⟨first, last.map (· + 1)⟩

theorem endsAfter_iff (range : DateRange) (day : Int) :
    range.endsAfter day = true ↔ ∀ upper, range.upper = some upper → day < upper := by
  unfold endsAfter
  cases range.upper with
  | none => simp
  | some upper => simp

theorem contains_iff (range : DateRange) (day : Int) :
    range.contains day = true ↔ range.lower ≤ day ∧ ∀ upper, range.upper = some upper → day < upper := by
  rw [contains, Bool.and_eq_true, decide_eq_true_eq, endsAfter_iff]

/-- Overlapping is having a day in common. -/
theorem overlaps_iff (first second : DateRange) :
    first.overlaps second = true ↔ ∃ day, first.contains day = true ∧ second.contains day = true := by
  unfold overlaps
  simp only [Bool.and_eq_true, endsAfter_iff, contains_iff]
  constructor
  · rintro ⟨⟨⟨begun, otherBegun⟩, before⟩, after⟩
    refine ⟨max first.lower second.lower, ⟨le_max_left _ _, ?_⟩, le_max_right _ _, ?_⟩
    · exact fun upper ends => max_lt (begun upper ends) (before upper ends)
    · exact fun upper ends => max_lt (after upper ends) (otherBegun upper ends)
  · rintro ⟨day, ⟨begun, ends⟩, otherBegun, otherEnds⟩
    refine ⟨⟨⟨?_, ?_⟩, ?_⟩, ?_⟩
    · exact fun upper is => begun.trans_lt (ends upper is)
    · exact fun upper is => otherBegun.trans_lt (otherEnds upper is)
    · exact fun upper is => otherBegun.trans_lt (ends upper is)
    · exact fun upper is => begun.trans_lt (otherEnds upper is)

theorem overlaps_comm (first second : DateRange) : first.overlaps second = second.overlaps first := by
  rw [Bool.eq_iff_iff, overlaps_iff, overlaps_iff]
  exact exists_congr (fun _ => and_comm)

/-- The bound that was given as the last day is inside. -/
theorem contains_inclusive {first : Int} {last : Option Int} {range : DateRange}
    (made : inclusive first last = some range) (day : Int) :
    range.contains day = (decide (first ≤ day) && last.all (fun last => decide (day ≤ last))) := by
  unfold inclusive at made
  split_ifs at made
  obtain rfl := Option.some.inj made
  unfold contains endsAfter
  cases last with
  | none => rfl
  | some last =>
    simp only [Option.map_some, Option.all_some]
    rw [decide_eq_decide.mpr (Int.lt_add_one_iff (a := day) (b := last))]

theorem inclusive_exists {first : Int} {last : Option Int}
    (ordered : last.all (fun last => decide (first ≤ last)) = true) :
    ∃ range, inclusive first last = some range := by
  unfold inclusive
  cases last with
  | none => exact ⟨_, rfl⟩
  | some last =>
    simp only [Option.all_some, decide_eq_true_eq] at ordered
    rw [if_neg (by simpa using ordered)]
    exact ⟨_, rfl⟩

end DateRange

/-! ## Exclusion constraints -/

variable {α κ : Type} [DecidableEq κ] (clash : α → α → Bool)

/-- No two rows clash. -/
def Exclusive (rows : List α) : Prop := rows.Pairwise (fun first second => clash first second = false)

variable {clash}

theorem Exclusive.snoc {rows : List α} {row : α} (exclusive : Exclusive clash rows)
    (free : ∀ other ∈ rows, clash other row = false) : Exclusive clash (rows ++ [row]) := by
  refine List.pairwise_append.mpr ⟨exclusive, List.pairwise_singleton _ _, ?_⟩
  intro other member new last
  rw [List.mem_singleton.mp last]
  exact free other member

/-- A row may be changed to one that clashes with no other. -/
theorem Exclusive.updateBy {key : α → κ} {k : κ} {change : α → α} {rows : List α}
    (exclusive : Exclusive clash rows) (nodup : (rows.map key).Nodup)
    (symmetric : ∀ first second, clash first second = clash second first)
    (free : ∀ row ∈ rows, key row = k → ∀ other ∈ rows, key other ≠ k → clash other (change row) = false) :
    Exclusive clash (updateBy key k change rows) := by
  unfold Exclusive Base.updateBy
  rw [List.pairwise_map]
  have pairs := exclusive.and (List.pairwise_map.mp nodup)
  refine pairs.imp_of_mem ?_
  rintro first second firstMember secondMember ⟨apart, keys⟩
  split_ifs with firstIs secondIs secondIs
  · exact absurd (firstIs.trans secondIs.symm) keys
  · rw [symmetric]
    exact free first firstMember firstIs second secondMember secondIs
  · exact free second secondMember secondIs first firstMember firstIs
  · exact apart

theorem Exclusive.clash_free {rows : List α} (exclusive : Exclusive clash rows)
    (symmetric : ∀ first second, clash first second = clash second first) {first second : α}
    (firstMember : first ∈ rows) (secondMember : second ∈ rows) (apart : first ≠ second) :
    clash first second = false := by
  have symm : Std.Symm (fun first second => clash first second = false) :=
    ⟨fun first second free => (symmetric second first).trans free⟩
  exact List.Pairwise.forall exclusive firstMember secondMember apart

end PharmaIntel.Base
