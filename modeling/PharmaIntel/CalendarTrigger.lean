import Mathlib
import PharmaIntel.Base.Keyed
import PharmaIntel.CalendarDate

/-! The calendar row as the database derives it. The insert trigger replaces every value
but the date, the constraints admit the row, and the table keeps one row for a date. -/

namespace PharmaIntel.CalendarTrigger
open Base CalendarDate

/-! ## business_data_derive_calendar_date -/

/-- `lpad`, which cuts a longer text. -/
def lpad (text : List Char) (length : Nat) (fill : Char) : List Char :=
  (text.take length).leftpad length fill

/-- A `CASE` without an `ELSE`. -/
def monthNameCase : Nat → Option String
  | 1 => some "January"
  | 2 => some "February"
  | 3 => some "March"
  | 4 => some "April"
  | 5 => some "May"
  | 6 => some "June"
  | 7 => some "July"
  | 8 => some "August"
  | 9 => some "September"
  | 10 => some "October"
  | 11 => some "November"
  | 12 => some "December"
  | _ => none

def monthAbbreviationCase : Nat → Option String
  | 1 => some "Jan"
  | 2 => some "Feb"
  | 3 => some "Mar"
  | 4 => some "Apr"
  | 5 => some "May"
  | 6 => some "Jun"
  | 7 => some "Jul"
  | 8 => some "Aug"
  | 9 => some "Sep"
  | 10 => some "Oct"
  | 11 => some "Nov"
  | 12 => some "Dec"
  | _ => none

def weekdayNameCase : Nat → Option String
  | 1 => some "Monday"
  | 2 => some "Tuesday"
  | 3 => some "Wednesday"
  | 4 => some "Thursday"
  | 5 => some "Friday"
  | 6 => some "Saturday"
  | 7 => some "Sunday"
  | _ => none

/-- `date_trunc('month', date)`, `'quarter'` and `'year'`: the start of the period. -/
def truncMonth (date : Date) : Option Date := Date.ofYmd date.year date.month 1
def truncQuarter (date : Date) : Option Date := Date.ofYmd date.year ((date.month - 1) / 3 * 3 + 1) 1
def truncYear (date : Date) : Option Date := Date.ofYmd date.year 1 1

/-- `start + INTERVAL 'n months - 1 day'`. -/
def monthsLessDay (start : Date) (months : Nat) : Option Date :=
  (start.addMonths months).bind (Date.addDays · (-1))

/-- The row the trigger writes for a date; none where a value is NULL, which no column
takes, or a date leaves the years 1 to 9999. -/
def deriveCalendarDate (date : Date) : Option CalendarValues := do
  let calendarYear := date.year
  let calendarQuarter := (date.month - 1) / 3 + 1
  let calendarMonth := date.month
  let calendarDay := date.day
  let isoDay := date.isoWeekday
  let monthName ← monthNameCase calendarMonth
  let monthAbbreviation ← monthAbbreviationCase calendarMonth
  let weekdayName ← weekdayNameCase isoDay
  let weekStart ← date.addDays (-((isoDay : Int) - 1))
  let weekEnd ← date.addDays (7 - (isoDay : Int))
  let monthStart ← truncMonth date
  let monthEnd ← (truncMonth date).bind (monthsLessDay · 1)
  let quarterStart ← truncQuarter date
  let quarterEnd ← (truncQuarter date).bind (monthsLessDay · 3)
  let yearStart ← truncYear date
  let yearEnd ← (truncYear date).bind (monthsLessDay · 12)
  return {
    date := date
    dateKey := calendarYear * 10000 + calendarMonth * 100 + calendarDay
    year := calendarYear
    quarter := calendarQuarter
    month := calendarMonth
    monthName := monthName
    monthAbbreviation := monthAbbreviation
    dayOfMonth := calendarDay
    dayOfYear := date.dayOfYear
    isoYear := date.isoYear
    isoWeek := date.isoWeek
    isoWeekday := isoDay
    weekdayName := weekdayName
    isWeekend := decide (isoDay = 6 ∨ isoDay = 7)
    weekStart := weekStart
    weekEnd := weekEnd
    monthStart := monthStart
    monthEnd := monthEnd
    quarterStart := quarterStart
    quarterEnd := quarterEnd
    yearStart := yearStart
    yearEnd := yearEnd
    yearMonthKey := calendarYear * 100 + calendarMonth
    yearMonthLabel := monthAbbreviation ++ " " ++ String.ofList (lpad (Nat.toDigits 10 calendarYear) 4 '0')
    yearQuarterLabel := String.ofList (lpad (Nat.toDigits 10 calendarYear) 4 '0') ++ " Q" ++
      toString calendarQuarter }

/-! ## The two derivations agree -/

theorem monthNameCase_eq {month : Nat} (months : 1 ≤ month ∧ month ≤ 12) :
    monthNameCase month = monthNames[month]? := by
  obtain ⟨first, last⟩ := months
  interval_cases month <;> rfl

theorem monthAbbreviationCase_eq {month : Nat} (months : 1 ≤ month ∧ month ≤ 12) :
    monthAbbreviationCase month = monthAbbreviations[month]? := by
  obtain ⟨first, last⟩ := months
  interval_cases month <;> rfl

theorem weekdayNameCase_eq {weekday : Nat} (weekdays : 1 ≤ weekday ∧ weekday ≤ 7) :
    weekdayNameCase weekday = weekdayNames[weekday]? := by
  obtain ⟨first, last⟩ := weekdays
  interval_cases weekday <;> rfl

theorem lpad_eq_fourDigits {year : Nat} (supported : year ≤ 9999) :
    String.ofList (lpad (Nat.toDigits 10 year) 4 '0') = fourDigits year := by
  have digits : (Nat.toDigits 10 year).length ≤ 4 :=
    (Nat.length_toDigits_le_iff (by decide) (by decide)).mpr (by omega)
  rw [lpad, List.take_of_length_le digits, fourDigits]

/-- Months first, then the day: the last day of the months from the first of one. -/
theorem monthsLessDay_eq {year month months : Nat} (years : 1 ≤ year ∧ year ≤ 9998) (first : 1 ≤ month)
    (some_months : 1 ≤ months) (last : month + months ≤ 13) :
    (Date.ofYmd year month 1).bind (monthsLessDay · months) =
      Date.ofYmd year (month + months - 1) (daysInMonth year (month + months - 1)) := by
  have length := daysInMonth_pos year
  have monthLength := length month
  obtain ⟨before, ends⟩ : ∃ before, month + months = before + 1 := ⟨month + months - 1, by omega⟩
  rw [Date.ofYmd_valid ⟨by omega, by omega, le_rfl, by omega⟩, Option.bind_some, ends, Nat.add_sub_cancel]
  unfold monthsLessDay Date.addMonths
  dsimp only
  rcases Nat.lt_or_ge before 12 with within | december
  · have year_eq : (year * 12 + (month - 1) + months) / 12 = year := by omega
    have month_eq : (year * 12 + (month - 1) + months) % 12 + 1 = before + 1 := by omega
    have day_eq : min 1 (daysInMonth year (before + 1)) = 1 := by
      have := length (before + 1)
      omega
    rw [year_eq, month_eq, day_eq]
    exact Date.dayBefore_firstOfMonth ⟨years.1, by omega⟩ ⟨by omega, within⟩
  · obtain rfl : before = 12 := by omega
    have year_eq : (year * 12 + (month - 1) + months) / 12 = year + 1 := by omega
    have month_eq : (year * 12 + (month - 1) + months) % 12 + 1 = 1 := by omega
    have lastDay : daysInMonth year 12 = 31 := rfl
    have whole := daysBeforeMonth_succ year (show 1 ≤ 12 by omega)
    rw [daysBeforeMonth_whole, lastDay] at whole
    have day_eq : min 1 (daysInMonth (year + 1) 1) = 1 := rfl
    rw [year_eq, month_eq, day_eq, lastDay,
      @Date.ofYmd_valid (year + 1) 1 1 ⟨by omega, by omega, le_rfl, by have := daysInMonth_pos (year + 1) 1; omega⟩,
      @Date.ofYmd_valid year 12 31 ⟨by omega, by omega, by omega, lastDay.ge⟩, Option.bind_some,
      Date.addDays_eq_some_iff]
    unfold Date.toOrdinal Date.dayOfYear
    dsimp only
    have january : daysBeforeMonth (year + 1) 1 = 0 := rfl
    rw [daysBeforeYear_succ years.1, january]
    omega

theorem quarterEnd_eq {value : Date} (supported : value.year ≤ 9998) :
    (truncQuarter value).bind (monthsLessDay · 3) =
      Date.ofYmd value.year (quarterOf value * 3) (daysInMonth value.year (quarterOf value * 3)) := by
  have months := value.valid.2.1
  have quarter : quarterOf value = (value.month - 1) / 3 + 1 := rfl
  have ends : (value.month - 1) / 3 * 3 + 1 + 3 - 1 = quarterOf value * 3 := by omega
  have last := @monthsLessDay_eq value.year ((value.month - 1) / 3 * 3 + 1) 3 ⟨value.valid.1.1, supported⟩
    (by omega) (by omega) (by omega)
  rw [ends] at last
  exact last

theorem yearEnd_eq {value : Date} (supported : value.year ≤ 9998) :
    (truncYear value).bind (monthsLessDay · 12) = Date.ofYmd value.year 12 31 :=
  monthsLessDay_eq ⟨value.valid.1.1, supported⟩ le_rfl (by omega) le_rfl

theorem monthEnd_eq {value : Date} (supported : value.year ≤ 9998) :
    (truncMonth value).bind (monthsLessDay · 1) =
      Date.ofYmd value.year value.month (daysInMonth value.year value.month) :=
  monthsLessDay_eq ⟨value.valid.1.1, supported⟩ value.valid.2.1.1 le_rfl (Nat.succ_le_succ value.valid.2.1.2)

/-- The trigger and the builder give a supported date the same row. -/
theorem derive_eq_build {value : Date} (supported : value.year ≤ 9998) :
    deriveCalendarDate value = buildCalendarDate value := by
  obtain ⟨values, built⟩ := buildCalendarDate_exists supported
  have describes := describes_of_build built
  have weekday := isoWeekday_bounds value
  have monday := monday_eq value
  have quarter : quarterOf value = (value.month - 1) / 3 + 1 := rfl
  have quarterFirst : (value.month - 1) / 3 * 3 + 1 = quarterOf value * 3 - 2 := by omega
  have monthName := (monthNameCase_eq value.valid.2.1).trans describes.monthName
  have abbreviation := (monthAbbreviationCase_eq value.valid.2.1).trans describes.monthAbbreviation
  have weekdayName := (weekdayNameCase_eq weekday).trans describes.weekdayName
  have weekStart : value.addDays (-((value.isoWeekday : Int) - 1)) = some values.weekStart :=
    Date.addDays_eq_some_iff.mpr (describes.weekStart.trans monday)
  have weekEnd : value.addDays (7 - (value.isoWeekday : Int)) = some values.weekEnd := by
    rw [Date.addDays_eq_some_iff, describes.weekEnd, monday]
    omega
  have monthStart : truncMonth value = some values.monthStart := describes.monthStart
  have monthEnd := (monthEnd_eq supported).trans describes.monthEnd
  have quarterStart : truncQuarter value = some values.quarterStart := by
    rw [truncQuarter, quarterFirst, describes.quarterStart]
  have quarterEnd := (quarterEnd_eq supported).trans describes.quarterEnd
  have yearStart : truncYear value = some values.yearStart := describes.yearStart
  have yearEnd := (yearEnd_eq supported).trans describes.yearEnd
  have weekend : (value.isoWeekday = 6 ∨ value.isoWeekday = 7) ↔ 6 ≤ value.isoWeekday := by omega
  rw [built]
  unfold deriveCalendarDate
  simp only [monthName, abbreviation, weekdayName, weekStart, weekEnd, monthEnd, quarterEnd, yearEnd,
    Option.bind_eq_bind, Option.bind_some]
  simp only [monthStart, quarterStart, yearStart, Option.bind_some]
  apply congrArg some
  apply Describes.unique _ describes
  exact {
    date_eq := rfl, dateKey := rfl, year := rfl, quarter := rfl, month := rfl,
    monthName := describes.monthName, monthAbbreviation := describes.monthAbbreviation,
    dayOfMonth := rfl, dayOfYear := rfl, isoYear := rfl, isoWeek := rfl, isoWeekday := rfl,
    weekdayName := describes.weekdayName, isWeekend := decide_eq_decide.mpr weekend,
    weekStart := describes.weekStart, weekEnd := describes.weekEnd, monthStart := describes.monthStart,
    monthEnd := describes.monthEnd, quarterStart := describes.quarterStart,
    quarterEnd := describes.quarterEnd, yearStart := describes.yearStart, yearEnd := describes.yearEnd,
    yearMonthKey := rfl,
    yearMonthLabel := by rw [lpad_eq_fourDigits value.valid.1.2],
    yearQuarterLabel := by rw [lpad_eq_fourDigits value.valid.1.2]; rfl }

/-! ## business_data_calendardate -/

/-- How a statement or the command ends when it does not succeed. -/
inductive Failure where
  | commandError (message : String)
  | integrityError
  | overflowError
  | valueError
  deriving DecidableEq

def firstSupportedDate : Date := ⟨1, 1, 1, ⟨⟨le_rfl, by decide⟩, ⟨le_rfl, by decide⟩, le_rfl, by decide⟩⟩
def lastSupportedDate : Date :=
  ⟨9998, 12, 31, ⟨⟨by decide, by decide⟩, ⟨by decide, le_rfl⟩, by decide, le_rfl⟩⟩

/-- `CalendarDate.Meta.constraints`, in order. -/
def constraints (row : CalendarValues) : List Bool := [
  decide (firstSupportedDate ≤ row.date ∧ row.date ≤ lastSupportedDate),
  decide (row.year = row.date.year),
  decide (row.quarter = (row.date.month - 1) / 3 + 1),
  decide (row.month = row.date.month),
  decide (row.dayOfMonth = row.date.day),
  decide (row.isoYear = row.date.isoYear),
  decide (row.isoWeek = row.date.isoWeek),
  decide (row.isoWeekday = row.date.isoWeekday),
  decide (row.dateKey = row.year * 10000 + row.month * 100 + row.dayOfMonth),
  decide (row.yearMonthKey = row.year * 100 + row.month),
  decide (row.weekStart ≤ row.date ∧ row.date ≤ row.weekEnd ∧ row.weekStart.addDays 6 = some row.weekEnd),
  decide (row.monthStart ≤ row.date ∧ row.date ≤ row.monthEnd),
  decide (row.quarterStart ≤ row.date ∧ row.date ≤ row.quarterEnd),
  decide (row.yearStart ≤ row.date ∧ row.date ≤ row.yearEnd),
  decide ((row.isWeekend = true ∧ (row.isoWeekday = 6 ∨ row.isoWeekday = 7)) ∨
    (row.isWeekend = false ∧ 1 ≤ row.isoWeekday ∧ row.isoWeekday ≤ 5))]

def admits (row : CalendarValues) : Bool := (constraints row).all id

theorem le_lastSupportedDate (date : Date) : date ≤ lastSupportedDate ↔ date.year ≤ 9998 := by
  have day := date.day_le
  have months := date.valid.2.1
  have last : lastSupportedDate.key = 99981231 := rfl
  rw [Date.le_iff_key, last]
  unfold Date.key
  omega

theorem firstSupportedDate_le (date : Date) : firstSupportedDate ≤ date := by
  obtain ⟨years, months, days⟩ := date.valid
  have first : firstSupportedDate.key = 10101 := rfl
  rw [Date.le_iff_key, first]
  unfold Date.key
  omega

/-- The row of a supported date passes every constraint. -/
theorem admits_of_describes {date : Date} {row : CalendarValues} (supported : date.year ≤ 9998)
    (describes : Describes row date) : admits row = true := by
  have weekday := isoWeekday_bounds date
  have week : row.weekStart.addDays 6 = some row.weekEnd := by
    rw [Date.addDays_eq_some_iff, describes.weekStart, describes.weekEnd]
  have weekend : (row.isWeekend = true ∧ (row.isoWeekday = 6 ∨ row.isoWeekday = 7)) ∨
      (row.isWeekend = false ∧ 1 ≤ row.isoWeekday ∧ row.isoWeekday ≤ 5) := by
    rw [describes.isWeekend, describes.isoWeekday, decide_eq_true_eq, decide_eq_false_iff_not]
    omega
  have bounds := describes.week_period.contains
  have month := describes.month_period.contains
  have quarter := describes.quarter_period.contains
  have year := describes.year_period.contains
  obtain rfl := describes.date_eq
  have range : firstSupportedDate ≤ row.date ∧ row.date ≤ lastSupportedDate :=
    ⟨firstSupportedDate_le _, (le_lastSupportedDate _).mpr supported⟩
  have key : row.dateKey = row.year * 10000 + row.month * 100 + row.dayOfMonth := by
    rw [describes.dateKey, describes.year, describes.month, describes.dayOfMonth]
  have monthKey : row.yearMonthKey = row.year * 100 + row.month := by
    rw [describes.yearMonthKey, describes.year, describes.month]
  have quarters : row.quarter = (row.date.month - 1) / 3 + 1 := describes.quarter
  unfold admits constraints
  simp only [List.all_cons, List.all_nil, id_eq, Bool.and_true, Bool.and_eq_true, decide_eq_true_eq]
  exact ⟨range, describes.year, quarters, describes.month, describes.dayOfMonth, describes.isoYear,
    describes.isoWeek, describes.isoWeekday, key, monthKey, ⟨bounds.1, bounds.2, week⟩, month, quarter,
    year, weekend⟩

theorem supported_of_admits {row : CalendarValues} (admitted : admits row = true) : row.date.year ≤ 9998 := by
  unfold admits constraints at admitted
  rw [List.all_cons, Bool.and_eq_true, id_eq, decide_eq_true_eq] at admitted
  exact (le_lastSupportedDate _).mp admitted.1.2

theorem derive_date {date : Date} {row : CalendarValues} (derived : deriveCalendarDate date = some row) :
    row.date = date := by
  simp only [deriveCalendarDate, Option.bind_eq_bind, Option.bind_eq_some_iff] at derived
  obtain ⟨_, _, _, _, _, _, _, _, _, _, _, _, _, _, _, _, _, _, _, _, _, _, made⟩ := derived
  obtain rfl := Option.some.inj made
  rfl

/-- The rows that the trigger wrote and the constraints admitted. -/
structure CalendarTable where
  rows : List CalendarValues
  dates_nodup : (rows.map CalendarValues.date).Nodup
  keys_nodup : (rows.map CalendarValues.dateKey).Nodup
  derived : ∀ row ∈ rows, deriveCalendarDate row.date = some row
  admitted : ∀ row ∈ rows, admits row = true

def CalendarTable.empty : CalendarTable :=
  ⟨[], List.nodup_nil, List.nodup_nil, fun _ absent => (List.not_mem_nil absent).elim,
    fun _ absent => (List.not_mem_nil absent).elim⟩

/-- No row of the table has the date or the key of the new one. -/
def CalendarTable.Fresh (table : CalendarTable) (row : CalendarValues) : Prop :=
  row.date ∉ table.rows.map CalendarValues.date ∧ row.dateKey ∉ table.rows.map CalendarValues.dateKey

instance (table : CalendarTable) (row : CalendarValues) : Decidable (table.Fresh row) :=
  inferInstanceAs (Decidable (_ ∧ _))

def CalendarTable.append (table : CalendarTable) (row : CalendarValues) (fresh : table.Fresh row)
    (derived : deriveCalendarDate row.date = some row) (admitted : admits row = true) : CalendarTable :=
  ⟨table.rows ++ [row], nodup_snoc table.dates_nodup fresh.1, nodup_snoc table.keys_nodup fresh.2,
    forall_mem_snoc table.derived derived, forall_mem_snoc table.admitted admitted⟩

/-- `INSERT ... ON CONFLICT DO NOTHING` of one row: the trigger, the constraints, the keys. -/
def insertIgnoringConflicts (table : CalendarTable) (row : CalendarValues) : Except Failure CalendarTable :=
  match derived : deriveCalendarDate row.date with
  | none => .error .integrityError
  | some written =>
    if admitted : admits written = true then
      if fresh : table.Fresh written then
        .ok (table.append written fresh (derive_date derived ▸ derived) admitted)
      else .ok table
    else .error .integrityError

/-- A key is taken where its date is. -/
theorem fresh_iff {table : CalendarTable} {row : CalendarValues} (derived : deriveCalendarDate row.date = some row)
    (supported : row.date.year ≤ 9998) :
    table.Fresh row ↔ row.date ∉ table.rows.map CalendarValues.date := by
  refine ⟨And.left, fun absent => ⟨absent, ?_⟩⟩
  intro taken
  obtain ⟨other, member, same⟩ := List.mem_map.mp taken
  have built := table.derived other member
  rw [derive_eq_build (supported_of_admits (table.admitted other member))] at built
  rw [derive_eq_build supported] at derived
  have keys := (describes_of_build built).dateKey.symm.trans (same.trans (describes_of_build derived).dateKey)
  have dates : other.date = row.date := Date.key_injective keys
  exact absent (List.mem_map.mpr ⟨other, member, dates⟩)

/-- What an insert does with the row of a supported date, whatever else the client sent. -/
theorem insert_rows (table : CalendarTable) {row : CalendarValues}
    (derived : deriveCalendarDate row.date = some row) (supported : row.date.year ≤ 9998) :
    ∃ after, insertIgnoringConflicts table row = .ok after ∧
      after.rows = table.rows ++
        if row.date ∈ table.rows.map CalendarValues.date then [] else [row] := by
  have built := derived
  rw [derive_eq_build supported] at built
  have admitted := admits_of_describes supported (describes_of_build built)
  unfold insertIgnoringConflicts
  split
  · rename_i missing
    rw [derived] at missing
    cases missing
  · rename_i written written_derived
    obtain rfl : row = written := Option.some.inj (derived.symm.trans written_derived)
    rw [dif_pos admitted]
    by_cases fresh : table.Fresh row
    · rw [dif_pos fresh, if_neg ((fresh_iff derived supported).mp fresh)]
      exact ⟨_, rfl, rfl⟩
    · have taken := not_not.mp (mt (fresh_iff derived supported).mpr fresh)
      rw [dif_neg fresh, if_pos taken, List.append_nil]
      exact ⟨table, rfl, rfl⟩

end PharmaIntel.CalendarTrigger
