import Mathlib
import PharmaIntel.Base.IsoWeek
import PharmaIntel.Base.Orders

/-! The reporting calendar. Every date has one row: its names, its numbers and the first
and last days of the periods it is in. A period's bounds and the key that reports group
by select the same dates. -/

namespace PharmaIntel.CalendarDate
open Base

/-- The stored values of one date, `CALENDAR_FIELD_NAMES` in order. -/
structure CalendarValues where
  date : Date
  dateKey : Nat
  year : Nat
  quarter : Nat
  month : Nat
  monthName : String
  monthAbbreviation : String
  dayOfMonth : Nat
  dayOfYear : Nat
  isoYear : Nat
  isoWeek : Nat
  isoWeekday : Nat
  weekdayName : String
  isWeekend : Bool
  weekStart : Date
  weekEnd : Date
  monthStart : Date
  monthEnd : Date
  quarterStart : Date
  quarterEnd : Date
  yearStart : Date
  yearEnd : Date
  yearMonthKey : Nat
  yearMonthLabel : String
  yearQuarterLabel : String
  deriving DecidableEq

def monthNames : List String :=
  ["", "January", "February", "March", "April", "May", "June", "July", "August", "September",
    "October", "November", "December"]

def monthAbbreviations : List String :=
  ["", "Jan", "Feb", "Mar", "Apr", "May", "Jun", "Jul", "Aug", "Sep", "Oct", "Nov", "Dec"]

def weekdayNames : List String :=
  ["", "Monday", "Tuesday", "Wednesday", "Thursday", "Friday", "Saturday", "Sunday"]

/-- The format `04d`. -/
def fourDigits (year : Nat) : String := String.ofList ((Nat.toDigits 10 year).leftpad 4 '0')

def lastDayOfMonth (value : Date) : Option Date :=
  if value.month = 12 then Date.ofYmd value.year 12 31
  else (Date.ofYmd value.year (value.month + 1) 1).bind (Date.addDays · (-1))

def lastDayOfQuarter (value : Date) (quarterStartMonth : Nat) : Option Date :=
  if quarterStartMonth = 10 then Date.ofYmd value.year 12 31
  else (Date.ofYmd value.year (quarterStartMonth + 3) 1).bind (Date.addDays · (-1))

/-- No values where a date would leave the years 1 to 9999. -/
def buildCalendarDate (value : Date) : Option CalendarValues := do
  let isoWeekday := value.isoWeekday
  let quarter := (value.month - 1) / 3 + 1
  let quarterStartMonth := (quarter - 1) * 3 + 1
  let weekStart ← value.addDays (-((isoWeekday : Int) - 1))
  let monthName ← monthNames[value.month]?
  let monthAbbreviation ← monthAbbreviations[value.month]?
  let weekdayName ← weekdayNames[isoWeekday]?
  let weekEnd ← weekStart.addDays 6
  let monthStart ← Date.ofYmd value.year value.month 1
  let monthEnd ← lastDayOfMonth value
  let quarterStart ← Date.ofYmd value.year quarterStartMonth 1
  let quarterEnd ← lastDayOfQuarter value quarterStartMonth
  let yearStart ← Date.ofYmd value.year 1 1
  let yearEnd ← Date.ofYmd value.year 12 31
  return {
    date := value
    dateKey := value.year * 10000 + value.month * 100 + value.day
    year := value.year
    quarter := quarter
    month := value.month
    monthName := monthName
    monthAbbreviation := monthAbbreviation
    dayOfMonth := value.day
    dayOfYear := value.dayOfYear
    isoYear := value.isoYear
    isoWeek := value.isoWeek
    isoWeekday := isoWeekday
    weekdayName := weekdayName
    isWeekend := decide (6 ≤ isoWeekday)
    weekStart := weekStart
    weekEnd := weekEnd
    monthStart := monthStart
    monthEnd := monthEnd
    quarterStart := quarterStart
    quarterEnd := quarterEnd
    yearStart := yearStart
    yearEnd := yearEnd
    yearMonthKey := value.year * 100 + value.month
    yearMonthLabel := monthAbbreviation ++ " " ++ fourDigits value.year
    yearQuarterLabel := fourDigits value.year ++ " Q" ++ toString quarter }

/-! ## What the values are -/

/-- The quarter of the year, counted from one. -/
def quarterOf (date : Date) : Nat := (date.month - 1) / 3 + 1

/-- Every value of a date, with the bounds of its periods as plain dates. -/
structure Describes (values : CalendarValues) (date : Date) : Prop where
  date_eq : values.date = date
  dateKey : values.dateKey = date.year * 10000 + date.month * 100 + date.day
  year : values.year = date.year
  quarter : values.quarter = quarterOf date
  month : values.month = date.month
  monthName : monthNames[date.month]? = some values.monthName
  monthAbbreviation : monthAbbreviations[date.month]? = some values.monthAbbreviation
  dayOfMonth : values.dayOfMonth = date.day
  dayOfYear : values.dayOfYear = date.dayOfYear
  isoYear : values.isoYear = date.isoYear
  isoWeek : values.isoWeek = date.isoWeek
  isoWeekday : values.isoWeekday = date.isoWeekday
  weekdayName : weekdayNames[date.isoWeekday]? = some values.weekdayName
  isWeekend : values.isWeekend = decide (6 ≤ date.isoWeekday)
  weekStart : (values.weekStart.toOrdinal : Int) = date.monday
  weekEnd : (values.weekEnd.toOrdinal : Int) = date.monday + 6
  monthStart : Date.ofYmd date.year date.month 1 = some values.monthStart
  monthEnd : Date.ofYmd date.year date.month (daysInMonth date.year date.month) = some values.monthEnd
  quarterStart : Date.ofYmd date.year (quarterOf date * 3 - 2) 1 = some values.quarterStart
  quarterEnd : Date.ofYmd date.year (quarterOf date * 3) (daysInMonth date.year (quarterOf date * 3)) =
    some values.quarterEnd
  yearStart : Date.ofYmd date.year 1 1 = some values.yearStart
  yearEnd : Date.ofYmd date.year 12 31 = some values.yearEnd
  yearMonthKey : values.yearMonthKey = date.year * 100 + date.month
  yearMonthLabel : values.yearMonthLabel = values.monthAbbreviation ++ " " ++ fourDigits date.year
  yearQuarterLabel : values.yearQuarterLabel = fourDigits date.year ++ " Q" ++ toString (quarterOf date)

theorem Describes.unique {date : Date} {values others : CalendarValues} (describes : Describes values date)
    (describesOther : Describes others date) : values = others := by
  have name := Option.some.inj (describes.monthName.symm.trans describesOther.monthName)
  have abbreviation := Option.some.inj (describes.monthAbbreviation.symm.trans describesOther.monthAbbreviation)
  have weekday := Option.some.inj (describes.weekdayName.symm.trans describesOther.weekdayName)
  have weekStart : values.weekStart = others.weekStart :=
    Date.toOrdinal_injective (Int.ofNat_inj.mp (describes.weekStart.trans describesOther.weekStart.symm))
  have weekEnd : values.weekEnd = others.weekEnd :=
    Date.toOrdinal_injective (Int.ofNat_inj.mp (describes.weekEnd.trans describesOther.weekEnd.symm))
  have monthStart := Option.some.inj (describes.monthStart.symm.trans describesOther.monthStart)
  have monthEnd := Option.some.inj (describes.monthEnd.symm.trans describesOther.monthEnd)
  have quarterStart := Option.some.inj (describes.quarterStart.symm.trans describesOther.quarterStart)
  have quarterEnd := Option.some.inj (describes.quarterEnd.symm.trans describesOther.quarterEnd)
  have yearStart := Option.some.inj (describes.yearStart.symm.trans describesOther.yearStart)
  have yearEnd := Option.some.inj (describes.yearEnd.symm.trans describesOther.yearEnd)
  have label : values.yearMonthLabel = others.yearMonthLabel := by
    rw [describes.yearMonthLabel, describesOther.yearMonthLabel, abbreviation]
  cases values
  cases others
  congr 1
  exacts [describes.date_eq.trans describesOther.date_eq.symm,
    describes.dateKey.trans describesOther.dateKey.symm,
    describes.year.trans describesOther.year.symm,
    describes.quarter.trans describesOther.quarter.symm,
    describes.month.trans describesOther.month.symm,
    describes.dayOfMonth.trans describesOther.dayOfMonth.symm,
    describes.dayOfYear.trans describesOther.dayOfYear.symm,
    describes.isoYear.trans describesOther.isoYear.symm,
    describes.isoWeek.trans describesOther.isoWeek.symm,
    describes.isoWeekday.trans describesOther.isoWeekday.symm,
    describes.isWeekend.trans describesOther.isWeekend.symm,
    describes.yearMonthKey.trans describesOther.yearMonthKey.symm,
    describes.yearQuarterLabel.trans describesOther.yearQuarterLabel.symm]

theorem lastDayOfMonth_eq (value : Date) :
    lastDayOfMonth value = Date.ofYmd value.year value.month (daysInMonth value.year value.month) := by
  unfold lastDayOfMonth
  split_ifs with december
  · rw [december]
    rfl
  · have month := value.valid.2.1
    exact Date.dayBefore_firstOfMonth value.valid.1 ⟨month.1, by omega⟩

theorem lastDayOfQuarter_eq (value : Date) :
    lastDayOfQuarter value ((quarterOf value - 1) * 3 + 1) =
      Date.ofYmd value.year (quarterOf value * 3) (daysInMonth value.year (quarterOf value * 3)) := by
  have month := value.valid.2.1
  have quarter : quarterOf value = (value.month - 1) / 3 + 1 := rfl
  unfold lastDayOfQuarter
  split_ifs with last
  · have fourth : quarterOf value = 4 := by omega
    rw [fourth]
    rfl
  · have next : (quarterOf value - 1) * 3 + 1 + 3 = quarterOf value * 3 + 1 := by omega
    rw [next]
    exact Date.dayBefore_firstOfMonth value.valid.1 ⟨by omega, by omega⟩

theorem isoWeekday_bounds (date : Date) : 1 ≤ date.isoWeekday ∧ date.isoWeekday ≤ 7 := by
  have weekday := date.isocalendar_spec.2.2
  omega

theorem monday_eq (date : Date) : date.monday = (date.toOrdinal : Int) + -((date.isoWeekday : Int) - 1) := by
  have weekday := date.isocalendar_spec.2.2
  unfold Date.monday
  omega

/-- Through 9998 the week of a date is inside the supported years. -/
theorem week_bounds {date : Date} (supported : date.year ≤ 9998) :
    1 ≤ date.monday ∧ date.monday + 6 ≤ Date.maxOrdinal := by
  have first := date.toOrdinal_pos
  have last : date.toOrdinal ≤ daysBeforeYear 9999 :=
    date.toOrdinal_bounds.2.trans (daysBeforeYear_mono (Nat.le_add_left 1 _) (Nat.succ_le_succ supported))
  have room : Date.maxOrdinal = daysBeforeYear 9999 + 365 := rfl
  unfold Date.monday
  omega

theorem ofYmd_exists {year month day : Nat} (years : 1 ≤ year ∧ year ≤ 9999) (months : 1 ≤ month ∧ month ≤ 12)
    (days : 1 ≤ day ∧ day ≤ daysInMonth year month) : ∃ date, Date.ofYmd year month day = some date :=
  ⟨_, Date.ofYmd_valid ⟨years, months, days.1, days.2⟩⟩

/-- What is built describes its date. -/
theorem describes_of_build {value : Date} {values : CalendarValues}
    (built : buildCalendarDate value = some values) : Describes values value := by
  simp only [buildCalendarDate, Option.bind_eq_bind, Option.bind_eq_some_iff] at built
  obtain ⟨weekStart, starts, monthName, named, abbreviation, abbreviates, weekdayName, weekdayNamed, weekEnd,
    ends, monthStart, monthStarts, monthEnd, monthEnds, quarterStart, quarterStarts, quarterEnd, quarterEnds,
    yearStart, yearStarts, yearEnd, yearEnds, made⟩ := built
  obtain rfl := Option.some.inj made
  have quarter : quarterOf value = (value.month - 1) / 3 + 1 := rfl
  have quarterFirst : (quarterOf value - 1) * 3 + 1 = quarterOf value * 3 - 2 := by omega
  have startOrdinal := (Date.addDays_ordinal starts).trans (monday_eq value).symm
  rw [lastDayOfMonth_eq] at monthEnds
  rw [← quarter, quarterFirst] at quarterStarts
  rw [← quarter, lastDayOfQuarter_eq] at quarterEnds
  exact {
    date_eq := rfl, dateKey := rfl, year := rfl, quarter := rfl, month := rfl, monthName := named,
    monthAbbreviation := abbreviates, dayOfMonth := rfl, dayOfYear := rfl, isoYear := rfl, isoWeek := rfl,
    isoWeekday := rfl, weekdayName := weekdayNamed, isWeekend := rfl, weekStart := startOrdinal,
    weekEnd := (Date.addDays_ordinal ends).trans (congrArg (· + 6) startOrdinal),
    monthStart := monthStarts, monthEnd := monthEnds, quarterStart := quarterStarts,
    quarterEnd := quarterEnds, yearStart := yearStarts, yearEnd := yearEnds, yearMonthKey := rfl,
    yearMonthLabel := rfl, yearQuarterLabel := rfl }

/-- No date arithmetic of a supported date leaves the calendar. -/
theorem buildCalendarDate_exists {value : Date} (supported : value.year ≤ 9998) :
    ∃ values, buildCalendarDate value = some values := by
  obtain ⟨years, months, days⟩ := value.valid
  have quarter : quarterOf value = (value.month - 1) / 3 + 1 := rfl
  have weekday := isoWeekday_bounds value
  have week := week_bounds supported
  have length := daysInMonth_pos value.year
  have monthLength := length value.month
  have quarterLength := length (quarterOf value * 3)
  have monday := monday_eq value
  obtain ⟨weekStart, starts⟩ := @Date.addDays_exists value (-((value.isoWeekday : Int) - 1)) (by omega) (by omega)
  have startOrdinal := (Date.addDays_ordinal starts).trans monday.symm
  obtain ⟨weekEnd, ends⟩ := @Date.addDays_exists weekStart 6 (by omega) (by omega)
  obtain ⟨monthStart, monthStarts⟩ := ofYmd_exists years months ⟨le_rfl, by omega⟩
  obtain ⟨monthEnd, monthEnds⟩ := ofYmd_exists years months ⟨by omega, le_refl (daysInMonth value.year value.month)⟩
  obtain ⟨quarterStart, quarterStarts⟩ := @ofYmd_exists value.year ((quarterOf value - 1) * 3 + 1) 1 years
    (by omega) ⟨le_rfl, by have := length ((quarterOf value - 1) * 3 + 1); omega⟩
  obtain ⟨quarterEnd, quarterEnds⟩ := @ofYmd_exists value.year (quarterOf value * 3)
    (daysInMonth value.year (quarterOf value * 3)) years (by omega) ⟨by omega, le_rfl⟩
  obtain ⟨yearStart, yearStarts⟩ := @ofYmd_exists value.year 1 1 years (by omega)
    ⟨le_rfl, by have := length 1; omega⟩
  obtain ⟨yearEnd, yearEnds⟩ := @ofYmd_exists value.year 12 31 years (by omega) ⟨by omega, le_rfl⟩
  have monthNamed : monthNames[value.month]? = some _ := List.getElem?_eq_getElem (Nat.lt_succ_of_le months.2)
  have abbreviates : monthAbbreviations[value.month]? = some _ :=
    List.getElem?_eq_getElem (Nat.lt_succ_of_le months.2)
  have weekdayNamed : weekdayNames[value.isoWeekday]? = some _ :=
    List.getElem?_eq_getElem (Nat.lt_succ_of_le weekday.2)
  have monthLast := (lastDayOfMonth_eq value).trans monthEnds
  have quarterLast := (lastDayOfQuarter_eq value).trans quarterEnds
  apply Option.isSome_iff_exists.mp
  unfold buildCalendarDate
  simp only [← quarter, starts, ends, monthNamed, abbreviates, weekdayNamed, monthStarts, monthLast,
    quarterStarts, quarterLast, yearStarts, yearEnds, Option.bind_eq_bind, Option.bind_some]
  rfl

/-! ## Grouping by bounds and by key -/

def yearMonth (date : Date) : Nat × Nat := (date.year, date.month)

def yearQuarter (date : Date) : Nat × Nat := (date.year, quarterOf date)

theorem le_iff_parts {year month day : Nat} {date bound : Date} (made : Date.ofYmd year month day = some bound) :
    (bound ≤ date ↔ year * 10000 + month * 100 + day ≤ date.key) ∧
      (date ≤ bound ↔ date.key ≤ year * 10000 + month * 100 + day) := by
  obtain ⟨rfl, rfl, rfl⟩ := Date.ofYmd_eq_some made
  exact ⟨Date.le_iff_key _ _, Date.le_iff_key _ _⟩

/-- From the first of one month to the last of a later month of the year. -/
theorem mem_months {year firstMonth lastMonth : Nat} {first last date : Date}
    (begins : Date.ofYmd year firstMonth 1 = some first)
    (ends : Date.ofYmd year lastMonth (daysInMonth year lastMonth) = some last) :
    date ∈ Set.Icc first last ↔ date.year = year ∧ firstMonth ≤ date.month ∧ date.month ≤ lastMonth := by
  have day := date.day_le
  have bounds := date.valid
  obtain ⟨firstYear, firstIs, firstDay⟩ := Date.ofYmd_eq_some begins
  obtain ⟨lastYear, lastIs, lastDay⟩ := Date.ofYmd_eq_some ends
  have lastBounds := last.day_le
  have firstMonths := first.valid.2.1
  have lastMonths := last.valid.2.1
  rw [Set.mem_Icc, (le_iff_parts begins).1, (le_iff_parts ends).2]
  unfold Date.key
  constructor
  · rintro ⟨after, before⟩
    refine ⟨?_, ?_, ?_⟩ <;> omega
  · rintro ⟨rfl, after, before⟩
    refine ⟨by omega, ?_⟩
    rcases Nat.lt_or_eq_of_le before with earlier | same
    · omega
    · rw [← same]
      omega

variable {date : Date} {values : CalendarValues}

theorem Describes.month_period (describes : Describes values date) :
    IsPeriod yearMonth date values.monthStart values.monthEnd := by
  intro other
  rw [mem_months describes.monthStart describes.monthEnd]
  unfold yearMonth
  rw [Prod.mk.injEq]
  omega

theorem Describes.quarter_period (describes : Describes values date) :
    IsPeriod yearQuarter date values.quarterStart values.quarterEnd := by
  intro other
  have month := other.valid.2.1
  rw [mem_months describes.quarterStart describes.quarterEnd]
  unfold yearQuarter quarterOf
  rw [Prod.mk.injEq]
  omega

theorem Describes.year_period (describes : Describes values date) :
    IsPeriod Date.year date values.yearStart values.yearEnd := by
  intro other
  have month := other.valid.2.1
  rw [@mem_months date.year 1 12 _ _ other describes.yearStart describes.yearEnd]
  omega

theorem Describes.week_period (describes : Describes values date) :
    IsPeriod Date.monday date values.weekStart values.weekEnd := by
  intro other
  have starts := describes.weekStart
  have ends := describes.weekEnd
  rw [Set.mem_Icc, Date.le_iff_toOrdinal, Date.le_iff_toOrdinal]
  unfold Date.monday at *
  omega

theorem fourDigits_length {year : Nat} (supported : year ≤ 9999) : (fourDigits year).toList.length = 4 := by
  have digits : (Nat.toDigits 10 year).length ≤ 4 :=
    (Nat.length_toDigits_le_iff (by decide) (by decide)).mpr (by omega)
  rw [fourDigits, String.toList_ofList, List.length_leftpad]
  exact max_eq_left digits

theorem fourDigits_injective : Function.Injective fourDigits := by
  have value : ∀ year, Nat.ofDigitChars 10 (fourDigits year).toList 0 = year := by
    intro year
    rw [fourDigits, String.toList_ofList, List.leftpad, Nat.ofDigitChars_append,
      Nat.ofDigitChars_replicate_zero, Nat.mul_zero, Nat.ofDigitChars_ten_toDigits]
  intro first second same
  rw [← value first, same, value second]

theorem yearQuarterLabel_injective {first second quarter other : Nat} (supported : first ≤ 9999)
    (otherSupported : second ≤ 9999)
    (same : fourDigits first ++ " Q" ++ toString quarter = fourDigits second ++ " Q" ++ toString other) :
    first = second ∧ quarter = other := by
  have chars := congrArg String.toList same
  simp only [String.toList_append, List.append_assoc] at chars
  obtain ⟨years, rest⟩ := List.append_inj chars
    ((fourDigits_length supported).trans (fourDigits_length otherSupported).symm)
  have quarters := List.append_cancel_left rest
  rw [Nat.toString_eq_ofList_toDigits, Nat.toString_eq_ofList_toDigits, String.toList_ofList,
    String.toList_ofList] at quarters
  refine ⟨fourDigits_injective (String.toList_injective years), ?_⟩
  rw [← @Nat.ofDigitChars_ten_toDigits quarter, quarters, Nat.ofDigitChars_ten_toDigits]

variable {other : Date} {others : CalendarValues}

theorem Describes.yearMonthKey_iff (describes : Describes values date) (describesOther : Describes others other) :
    values.yearMonthKey = others.yearMonthKey ↔ yearMonth date = yearMonth other := by
  have month := date.valid.2.1
  have otherMonth := other.valid.2.1
  rw [describes.yearMonthKey, describesOther.yearMonthKey]
  unfold yearMonth
  rw [Prod.mk.injEq]
  omega

theorem Describes.yearQuarterLabel_iff (describes : Describes values date)
    (describesOther : Describes others other) :
    values.yearQuarterLabel = others.yearQuarterLabel ↔ yearQuarter date = yearQuarter other := by
  rw [describes.yearQuarterLabel, describesOther.yearQuarterLabel]
  unfold yearQuarter
  rw [Prod.mk.injEq]
  constructor
  · exact yearQuarterLabel_injective date.valid.1.2 other.valid.1.2
  · rintro ⟨years, quarters⟩
    rw [years, quarters]

theorem Describes.isoWeek_iff (describes : Describes values date) (describesOther : Describes others other) :
    (values.isoYear, values.isoWeek) = (others.isoYear, others.isoWeek) ↔ date.monday = other.monday := by
  rw [Prod.mk.injEq, describes.isoYear, describesOther.isoYear, describes.isoWeek, describesOther.isoWeek]
  exact Date.isoWeek_eq_iff_monday date other

/-- Two rows agree on a kind of period: its bounds select the rows that share its key,
it contains its own date, and two of them are equal or have no day in common. -/
structure Aligned {κ : Type} (first last : CalendarValues → Date) (key : CalendarValues → κ)
    (values others : CalendarValues) : Prop where
  selects : first values ≤ others.date ∧ others.date ≤ last values ↔ key values = key others
  contains : first values ≤ values.date ∧ values.date ≤ last values
  apart : (first values = first others ∧ last values = last others) ∨
    Disjoint (Set.Icc (first values) (last values)) (Set.Icc (first others) (last others))

theorem Aligned.of_periods {κ γ : Type} {first last : CalendarValues → Date} {key : CalendarValues → κ}
    {group : Date → γ} (period : IsPeriod group values.date (first values) (last values))
    (otherPeriod : IsPeriod group others.date (first others) (last others))
    (keys : key values = key others ↔ group values.date = group others.date) :
    Aligned first last key values others where
  selects := (period others.date).trans (eq_comm.trans keys.symm)
  contains := period.contains
  apart := period.equal_or_disjoint otherPeriod

def CalendarValues.isoYearWeek (values : CalendarValues) : Nat × Nat := (values.isoYear, values.isoWeek)

theorem grouping_agrees (date other : Date) (supported : date.year ≤ 9998) (otherSupported : other.year ≤ 9998) :
    ∃ values others, buildCalendarDate date = some values ∧ buildCalendarDate other = some others ∧
      values.date = date ∧ others.date = other ∧
      Aligned CalendarValues.monthStart CalendarValues.monthEnd CalendarValues.yearMonthKey values others ∧
      Aligned CalendarValues.quarterStart CalendarValues.quarterEnd CalendarValues.yearQuarterLabel values others ∧
      Aligned CalendarValues.yearStart CalendarValues.yearEnd CalendarValues.year values others ∧
      Aligned CalendarValues.weekStart CalendarValues.weekEnd CalendarValues.isoYearWeek values others ∧
      (values.dateKey < others.dateKey ↔ date.toOrdinal < other.toOrdinal) ∧
      (values.dateKey < others.dateKey ↔ date < other) := by
  obtain ⟨values, built⟩ := buildCalendarDate_exists supported
  obtain ⟨others, builtOther⟩ := buildCalendarDate_exists otherSupported
  have describes := describes_of_build built
  have describesOther := describes_of_build builtOther
  have keys : values.dateKey < others.dateKey ↔ date < other := by
    rw [describes.dateKey, describesOther.dateKey, ← not_le, ← not_le]
    exact not_congr (Date.le_iff_key _ _).symm
  obtain rfl := describes.date_eq
  obtain rfl := describesOther.date_eq
  refine ⟨values, others, built, builtOther, rfl, rfl, ?_, ?_, ?_, ?_, ?_, keys⟩
  · exact .of_periods describes.month_period describesOther.month_period
      (describes.yearMonthKey_iff describesOther)
  · exact .of_periods describes.quarter_period describesOther.quarter_period
      (describes.yearQuarterLabel_iff describesOther)
  · apply Aligned.of_periods describes.year_period describesOther.year_period
    rw [describes.year, describesOther.year]
  · exact .of_periods describes.week_period describesOther.week_period
      (describes.isoWeek_iff describesOther)
  · exact keys.trans Date.toOrdinal_strictMono.lt_iff_lt.symm

def newYearsEve : Date := ⟨2020, 12, 31, by decide⟩

/-- The last day of 2020 and the first of 2021 share a week. -/
theorem grouping_agrees_sample :
    ∃ values others, buildCalendarDate newYearsEve = some values ∧
      buildCalendarDate ⟨2021, 1, 1, by decide⟩ = some others ∧
      values.weekStart = others.weekStart ∧ values.isoYearWeek = (2020, 53) ∧
      values.yearQuarterLabel = "2020 Q4" ∧ others.yearQuarterLabel = "2021 Q1" := by
  obtain ⟨values, others, built, builtOther, -, -, -, -, -, week, -⟩ :=
    grouping_agrees newYearsEve ⟨2021, 1, 1, by decide⟩ (by decide) (by decide)
  have describes := describes_of_build built
  have describesOther := describes_of_build builtOther
  have isoWeek : values.isoYearWeek = (2020, 53) := by
    unfold CalendarValues.isoYearWeek
    rw [describes.isoYear, describes.isoWeek]
    decide +kernel
  have otherWeek : others.isoYearWeek = (2020, 53) := by
    unfold CalendarValues.isoYearWeek
    rw [describesOther.isoYear, describesOther.isoWeek]
    decide +kernel
  have label : values.yearQuarterLabel = "2020 Q4" := by
    rw [describes.yearQuarterLabel]
    decide +kernel
  have otherLabel : others.yearQuarterLabel = "2021 Q1" := by
    rw [describesOther.yearQuarterLabel]
    decide +kernel
  refine ⟨values, others, built, builtOther, ?_, isoWeek, label, otherLabel⟩
  have inside := week.selects.mpr (isoWeek.trans otherWeek.symm)
  rcases week.apart with same | apart
  · exact same.1
  · exact (Set.disjoint_left.mp apart inside ((describesOther.week_period others.date).mpr
      (by rw [describesOther.date_eq]))).elim

end PharmaIntel.CalendarDate
