import Mathlib
import PharmaIntel.Base.Gregorian

/-! ISO 8601 weeks. A week runs from Monday to Sunday and belongs to the year of its
Thursday; year and week together name the week, whatever year its days are in. -/

namespace PharmaIntel.Base

/-- The ordinal of the Monday that begins week one of a year. -/
def isoWeek1Monday (year : Nat) : Int :=
  let firstDay : Int := daysBeforeYear year + 1
  let firstWeekday := (firstDay + 6) % 7
  if 3 < firstWeekday then firstDay - firstWeekday + 7 else firstDay - firstWeekday

namespace Date

/-- `date.isocalendar()`: the year, the week and the weekday. -/
def isocalendar (date : Date) : Nat × Nat × Nat :=
  let today : Int := date.toOrdinal
  let week := (today - isoWeek1Monday date.year) / 7
  let weekday := (today - isoWeek1Monday date.year) % 7
  if week < 0 then
    (date.year - 1, ((today - isoWeek1Monday (date.year - 1)) / 7 + 1).toNat,
      ((today - isoWeek1Monday (date.year - 1)) % 7 + 1).toNat)
  else if 52 ≤ week ∧ isoWeek1Monday (date.year + 1) ≤ today then
    (date.year + 1, 1, (weekday + 1).toNat)
  else (date.year, (week + 1).toNat, (weekday + 1).toNat)

def isoYear (date : Date) : Nat := date.isocalendar.1
def isoWeek (date : Date) : Nat := date.isocalendar.2.1
def isoWeekday (date : Date) : Nat := date.isocalendar.2.2

/-- The ordinal of the Monday of the date's week. -/
def monday (date : Date) : Int := (date.toOrdinal : Int) - ((date.toOrdinal : Int) + 6) % 7

end Date

/-! ## The first Monday of a year -/

theorem isoWeek1Monday_near (year : Nat) :
    isoWeek1Monday year % 7 = 1 ∧ (daysBeforeYear year : Int) - 2 ≤ isoWeek1Monday year ∧
      isoWeek1Monday year ≤ daysBeforeYear year + 4 := by
  unfold isoWeek1Monday
  dsimp only
  split_ifs <;> omega

/-- A year has 52 or 53 weeks. -/
theorem isoWeek1Monday_succ {year : Nat} (positive : 1 ≤ year) :
    isoWeek1Monday (year + 1) = isoWeek1Monday year + 364 ∨
      isoWeek1Monday (year + 1) = isoWeek1Monday year + 371 := by
  have here := isoWeek1Monday_near year
  have next := isoWeek1Monday_near (year + 1)
  have length : yearLength year = 365 ∨ yearLength year = 366 := by
    unfold yearLength
    split_ifs <;> simp
  rw [daysBeforeYear_succ positive] at next
  push_cast at next
  omega

theorem isoWeek1Monday_lt {first second : Nat} (positive : 1 ≤ first) (earlier : first < second) :
    isoWeek1Monday first < isoWeek1Monday second := by
  induction second, earlier using Nat.le_induction with
  | base =>
    have weeks := isoWeek1Monday_succ positive
    rw [Nat.succ_eq_add_one]
    omega
  | succ second later ih =>
    have weeks := @isoWeek1Monday_succ second (by omega)
    omega

theorem isoWeek1Monday_one : isoWeek1Monday 1 = 1 := by decide

namespace Date

/-- The week of a date, placed in its ISO year. -/
structure InIsoYear (date : Date) (year : Nat) : Prop where
  positive : 1 ≤ year
  begun : isoWeek1Monday year ≤ date.toOrdinal
  open_ : (date.toOrdinal : Int) < isoWeek1Monday (year + 1)

theorem isocalendar_spec (date : Date) :
    InIsoYear date date.isoYear ∧
      (date.isoWeek : Int) = ((date.toOrdinal : Int) - isoWeek1Monday date.isoYear) / 7 + 1 ∧
      (date.isoWeekday : Int) = ((date.toOrdinal : Int) + 6) % 7 + 1 := by
  have positive := date.valid.1.1
  obtain ⟨begun, ended⟩ := date.toOrdinal_bounds
  rw [daysBeforeYear_succ positive] at ended
  have here := isoWeek1Monday_near date.year
  have later := isoWeek1Monday_near (date.year + 1)
  have succ := isoWeek1Monday_succ positive
  rw [daysBeforeYear_succ positive] at later
  push_cast at later
  have length : yearLength date.year = 365 ∨ yearLength date.year = 366 := by
    unfold yearLength
    split_ifs <;> simp
  unfold isoYear isoWeek isoWeekday isocalendar
  dsimp only
  split_ifs with early late
  · -- the first days of the year belong to the last week of the year before
    have before : isoWeek1Monday date.year ≠ 1 := by omega
    have second : date.year ≠ 1 := fun first => before (first ▸ isoWeek1Monday_one)
    obtain ⟨previous, same⟩ : ∃ previous, date.year = previous + 1 := ⟨date.year - 1, by omega⟩
    have previousPositive : 1 ≤ previous := by omega
    have previousMonday := isoWeek1Monday_near previous
    have previousLength : yearLength previous = 365 ∨ yearLength previous = 366 := by
      unfold yearLength
      split_ifs <;> simp
    have begins := daysBeforeYear_succ previousPositive
    rw [same] at begun early here
    rw [same, Nat.add_sub_cancel]
    refine ⟨⟨previousPositive, ?_, ?_⟩, ?_, ?_⟩ <;> dsimp only <;> omega
  · -- the last days of the year belong to the first week of the next
    have following := @isoWeek1Monday_succ (date.year + 1) (by omega)
    refine ⟨⟨Nat.le_add_left 1 _, ?_, ?_⟩, ?_, ?_⟩ <;> dsimp only <;> omega
  · refine ⟨⟨positive, ?_, ?_⟩, ?_, ?_⟩ <;> dsimp only <;> omega

theorem InIsoYear.unique {first second : Date} {year other : Nat} (inYear : InIsoYear first year)
    (inOther : InIsoYear second other) (same : first.monday = second.monday) : year = other := by
  have firstMonday := isoWeek1Monday_near year
  have firstNext := isoWeek1Monday_near (year + 1)
  have secondMonday := isoWeek1Monday_near other
  have secondNext := isoWeek1Monday_near (other + 1)
  obtain ⟨positive, begun, ended⟩ := inYear
  obtain ⟨otherPositive, otherBegun, otherEnded⟩ := inOther
  unfold monday at same
  rcases lt_trichotomy year other with earlier | equal | later
  · have order : isoWeek1Monday (year + 1) ≤ isoWeek1Monday other := by
      rcases Nat.lt_or_eq_of_le earlier with strict | next
      · exact (isoWeek1Monday_lt (by omega) strict).le
      · exact next ▸ le_rfl
    omega
  · exact equal
  · have order : isoWeek1Monday (other + 1) ≤ isoWeek1Monday year := by
      rcases Nat.lt_or_eq_of_le later with strict | next
      · exact (isoWeek1Monday_lt (by omega) strict).le
      · exact next ▸ le_rfl
    omega

/-- ISO year and week name the Monday of a date's week. -/
theorem isoWeek_eq_iff_monday (first second : Date) :
    (first.isoYear = second.isoYear ∧ first.isoWeek = second.isoWeek) ↔ first.monday = second.monday := by
  obtain ⟨inYear, week, -⟩ := first.isocalendar_spec
  obtain ⟨inOther, otherWeek, -⟩ := second.isocalendar_spec
  have start := isoWeek1Monday_near first.isoYear
  constructor
  · rintro ⟨years, weeks⟩
    have begun := inYear.begun
    have otherBegun := inOther.begun
    rw [← years] at otherWeek otherBegun
    unfold monday
    omega
  · intro same
    have years := inYear.unique inOther same
    refine ⟨years, ?_⟩
    have begun := inYear.begun
    have otherBegun := inOther.begun
    rw [← years] at otherWeek otherBegun
    unfold monday at same
    omega

end Date

end PharmaIntel.Base
