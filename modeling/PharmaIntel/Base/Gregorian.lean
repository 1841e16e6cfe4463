import Mathlib

/-! Dates of the proleptic Gregorian calendar from year 1 to 9999, and day arithmetic on them.
Every date has an ordinal, the number of its day counted from the first of January of year 1;
the order of the dates is the order of their ordinals, and moving a date by days moves its
ordinal by as many. -/

namespace PharmaIntel.Base

/-! ## Dates -/

def isLeap (year : Nat) : Bool := year % 4 = 0 && (year % 100 ≠ 0 || year % 400 = 0)

def daysInMonth (year month : Nat) : Nat :=
  if month = 2 then (if isLeap year then 29 else 28)
  else if month = 4 ∨ month = 6 ∨ month = 9 ∨ month = 11 then 30
  else 31

structure Date where
  year : Nat
  month : Nat
  day : Nat
  valid : (1 ≤ year ∧ year ≤ 9999) ∧ (1 ≤ month ∧ month ≤ 12) ∧ 1 ≤ day ∧ day ≤ daysInMonth year month

namespace Date

/-- `date(year, month, day)`. -/
def ofYmd (year month day : Nat) : Option Date :=
  if valid : (1 ≤ year ∧ year ≤ 9999) ∧ (1 ≤ month ∧ month ≤ 12) ∧ 1 ≤ day ∧ day ≤ daysInMonth year month then
    some ⟨year, month, day, valid⟩
  else none

/-- Dates are compared by year, then month, then day. -/
def key (date : Date) : Nat := date.year * 10000 + date.month * 100 + date.day

theorem day_le (date : Date) : date.day ≤ 31 := by
  have bound := date.valid.2.2.2
  unfold daysInMonth at bound
  split_ifs at bound <;> omega

theorem key_injective : Function.Injective key := by
  intro first second same
  have firstDay := first.day_le
  have secondDay := second.day_le
  have firstMonth := first.valid.2.1.2
  have secondMonth := second.valid.2.1.2
  rcases first with ⟨year, month, day, _⟩
  rcases second with ⟨otherYear, otherMonth, otherDay, _⟩
  simp only [key] at same firstDay secondDay firstMonth secondMonth
  have years : year = otherYear := by omega
  have months : month = otherMonth := by omega
  have days : day = otherDay := by omega
  subst years months days
  rfl

instance : LinearOrder Date := LinearOrder.lift' key key_injective

theorem le_iff_key (first second : Date) : first ≤ second ↔ first.key ≤ second.key := Iff.rfl

end Date

/-! ## Days before a year and before a month -/

def yearLength (year : Nat) : Nat := if isLeap year then 366 else 365

def daysBeforeYear (year : Nat) : Nat :=
  (year - 1) * 365 + (year - 1) / 4 - (year - 1) / 100 + (year - 1) / 400

def daysBeforeMonth (year : Nat) : Nat → Nat
  | 0 => 0
  | 1 => 0
  | month + 2 => daysBeforeMonth year (month + 1) + daysInMonth year (month + 1)

theorem succ_div_eq (before divisor : Nat) :
    (before + 1) / divisor = before / divisor + if (before + 1) % divisor = 0 then 1 else 0 := by
  rw [Nat.succ_div]
  simp only [Nat.dvd_iff_mod_eq_zero]

theorem daysBeforeYear_succ {year : Nat} (positive : 1 ≤ year) :
    daysBeforeYear (year + 1) = daysBeforeYear year + yearLength year := by
  obtain ⟨before, rfl⟩ : ∃ before, year = before + 1 := ⟨year - 1, by omega⟩
  have four := succ_div_eq before 4
  have hundred := succ_div_eq before 100
  have fourHundred := succ_div_eq before 400
  have leap : yearLength (before + 1) + (if (before + 1) % 100 = 0 then 1 else 0) =
      365 + (if (before + 1) % 4 = 0 then 1 else 0) + (if (before + 1) % 400 = 0 then 1 else 0) := by
    unfold yearLength isLeap
    simp only [Bool.and_eq_true, Bool.or_eq_true, decide_eq_true_eq, ne_eq]
    clear four hundred fourHundred
    split_ifs <;> omega
  have centuries : before / 100 ≤ before / 4 := Nat.div_le_div_left (by omega) (by omega)
  have laterCenturies : (before + 1) / 100 ≤ (before + 1) / 4 := Nat.div_le_div_left (by omega) (by omega)
  unfold daysBeforeYear
  rw [Nat.add_sub_cancel, Nat.add_sub_cancel]
  omega

theorem daysBeforeYear_mono {first second : Nat} (positive : 1 ≤ first) (earlier : first ≤ second) :
    daysBeforeYear first ≤ daysBeforeYear second := by
  induction second, earlier using Nat.le_induction with
  | base => exact le_rfl
  | succ second later ih =>
    rw [daysBeforeYear_succ (positive.trans later)]
    exact ih.trans (Nat.le_add_right _ _)

theorem daysBeforeMonth_succ (year : Nat) {month : Nat} (positive : 1 ≤ month) :
    daysBeforeMonth year (month + 1) = daysBeforeMonth year month + daysInMonth year month := by
  obtain ⟨before, rfl⟩ : ∃ before, month = before + 1 := ⟨month - 1, by omega⟩
  rfl

theorem daysBeforeMonth_mono (year : Nat) {first second : Nat} (positive : 1 ≤ first)
    (earlier : first ≤ second) : daysBeforeMonth year first ≤ daysBeforeMonth year second := by
  induction second, earlier using Nat.le_induction with
  | base => exact le_rfl
  | succ second later ih =>
    rw [daysBeforeMonth_succ year (positive.trans later)]
    exact ih.trans (Nat.le_add_right _ _)

theorem daysBeforeMonth_whole (year : Nat) : daysBeforeMonth year 13 = yearLength year := by
  have february : daysInMonth year 2 + 337 = yearLength year := by
    unfold daysInMonth yearLength
    split_ifs <;> simp_all
  change 0 + 31 + daysInMonth year 2 + 31 + 30 + 31 + 30 + 31 + 31 + 30 + 31 + 30 + 31 = _
  omega

theorem daysInMonth_pos (year month : Nat) : 28 ≤ daysInMonth year month := by
  unfold daysInMonth
  split_ifs <;> omega

namespace Date

/-! ## Ordinals -/

/-- `timetuple().tm_yday`. -/
def dayOfYear (date : Date) : Nat := daysBeforeMonth date.year date.month + date.day

/-- `date.toordinal()`. -/
def toOrdinal (date : Date) : Nat := daysBeforeYear date.year + date.dayOfYear

def maxOrdinal : Nat := daysBeforeYear 10000

theorem dayOfYear_bounds (date : Date) :
    1 ≤ date.dayOfYear ∧ date.dayOfYear ≤ yearLength date.year := by
  obtain ⟨-, ⟨january, december⟩, first, last⟩ := date.valid
  have whole := daysBeforeMonth_mono date.year (Nat.succ_le_succ (Nat.zero_le date.month))
    (Nat.succ_le_succ december)
  rw [daysBeforeMonth_whole, Nat.succ_eq_add_one, daysBeforeMonth_succ date.year january] at whole
  unfold dayOfYear
  omega

/-- The ordinals of a year follow those of the years before it. -/
theorem toOrdinal_bounds (date : Date) :
    daysBeforeYear date.year < date.toOrdinal ∧ date.toOrdinal ≤ daysBeforeYear (date.year + 1) := by
  have bounds := date.dayOfYear_bounds
  rw [daysBeforeYear_succ date.valid.1.1]
  unfold toOrdinal
  omega

theorem toOrdinal_le_max (date : Date) : date.toOrdinal ≤ maxOrdinal :=
  date.toOrdinal_bounds.2.trans (daysBeforeYear_mono (Nat.succ_le_succ (Nat.zero_le _))
    (Nat.succ_le_succ date.valid.1.2))

theorem toOrdinal_pos (date : Date) : 1 ≤ date.toOrdinal :=
  (Nat.zero_le _).trans_lt date.toOrdinal_bounds.1

/-- Dates are ordered by year, then month, then day. -/
theorem lt_iff_lex (first second : Date) :
    first < second ↔ first.year < second.year ∨ first.year = second.year ∧
      (first.month < second.month ∨ first.month = second.month ∧ first.day < second.day) := by
  have firstDay := first.day_le
  have secondDay := second.day_le
  have firstMonth := first.valid.2.1.2
  have secondMonth := second.valid.2.1.2
  rw [← not_le, le_iff_key]
  unfold key
  omega

theorem toOrdinal_lt {first second : Date} (earlier : first < second) :
    first.toOrdinal < second.toOrdinal := by
  rcases (lt_iff_lex first second).mp earlier with years | ⟨years, months | ⟨months, days⟩⟩
  · calc first.toOrdinal ≤ daysBeforeYear (first.year + 1) := first.toOrdinal_bounds.2
      _ ≤ daysBeforeYear second.year := daysBeforeYear_mono (Nat.succ_le_succ (Nat.zero_le _)) years
      _ < second.toOrdinal := second.toOrdinal_bounds.1
  · have before := daysBeforeMonth_mono second.year (Nat.succ_le_succ (Nat.zero_le first.month)) months
    rw [Nat.succ_eq_add_one, daysBeforeMonth_succ _ first.valid.2.1.1] at before
    have last := first.valid.2.2.2
    have day := second.valid.2.2.1
    unfold toOrdinal dayOfYear
    rw [years] at last ⊢
    omega
  · unfold toOrdinal dayOfYear
    rw [years, months]
    omega

theorem toOrdinal_strictMono : StrictMono toOrdinal := fun _ _ earlier => toOrdinal_lt earlier

theorem toOrdinal_injective : Function.Injective toOrdinal := toOrdinal_strictMono.injective

theorem le_iff_toOrdinal (first second : Date) : first ≤ second ↔ first.toOrdinal ≤ second.toOrdinal :=
  toOrdinal_strictMono.le_iff_le.symm

/-! ## Moving by days -/

theorem ofYmd_eq_some {year month day : Nat} {date : Date} (made : ofYmd year month day = some date) :
    date.year = year ∧ date.month = month ∧ date.day = day := by
  unfold ofYmd at made
  split_ifs at made
  obtain rfl := Option.some.inj made
  exact ⟨rfl, rfl, rfl⟩

def tomorrow (date : Date) : Option Date :=
  if date.day < daysInMonth date.year date.month then ofYmd date.year date.month (date.day + 1)
  else if date.month < 12 then ofYmd date.year (date.month + 1) 1
  else ofYmd (date.year + 1) 1 1

def yesterday (date : Date) : Option Date :=
  if 1 < date.day then ofYmd date.year date.month (date.day - 1)
  else if 1 < date.month then
    ofYmd date.year (date.month - 1) (daysInMonth date.year (date.month - 1))
  else ofYmd (date.year - 1) 12 31

theorem toOrdinal_tomorrow {date next : Date} (moved : date.tomorrow = some next) :
    next.toOrdinal = date.toOrdinal + 1 := by
  obtain ⟨⟨yearPos, -⟩, ⟨january, december⟩, first, last⟩ := date.valid
  unfold tomorrow at moved
  unfold toOrdinal dayOfYear
  split_ifs at moved with inside before
  · obtain ⟨year, month, day⟩ := ofYmd_eq_some moved
    rw [year, month, day]
    omega
  · obtain ⟨year, month, day⟩ := ofYmd_eq_some moved
    rw [year, month, day, daysBeforeMonth_succ date.year january]
    omega
  · obtain ⟨year, month, day⟩ := ofYmd_eq_some moved
    have whole := daysBeforeMonth_succ date.year january
    have end_of_year : date.month + 1 = 13 := by omega
    rw [end_of_year, daysBeforeMonth_whole] at whole
    rw [year, month, day, daysBeforeYear_succ yearPos]
    simp only [daysBeforeMonth]
    omega

theorem toOrdinal_yesterday {date next : Date} (moved : date.yesterday = some next) :
    next.toOrdinal + 1 = date.toOrdinal := by
  obtain ⟨⟨yearPos, -⟩, ⟨january, december⟩, first, last⟩ := date.valid
  unfold yesterday at moved
  unfold toOrdinal dayOfYear
  split_ifs at moved with inside after
  · obtain ⟨year, month, day⟩ := ofYmd_eq_some moved
    rw [year, month, day]
    omega
  · obtain ⟨year, month, day⟩ := ofYmd_eq_some moved
    obtain ⟨before, rest⟩ : ∃ before, date.month = before + 1 := ⟨date.month - 1, by omega⟩
    rw [year, month, day, rest, Nat.add_sub_cancel, daysBeforeMonth_succ date.year (by omega)]
    omega
  · obtain ⟨year, month, day⟩ := ofYmd_eq_some moved
    have positive := next.valid.1.1
    obtain ⟨before, rest⟩ : ∃ before, date.year = before + 1 := ⟨date.year - 1, by omega⟩
    have whole := daysBeforeMonth_succ before (show 1 ≤ 12 by omega)
    have december31 : daysInMonth before 12 = 31 := rfl
    rw [daysBeforeMonth_whole, december31] at whole
    rw [year] at positive
    rw [rest, Nat.add_sub_cancel] at positive
    rw [year, month, day, rest, Nat.add_sub_cancel, daysBeforeYear_succ positive, whole]
    have first_month : date.month = 1 := by omega
    rw [first_month]
    simp only [daysBeforeMonth]
    omega

theorem ofYmd_valid {year month day : Nat}
    (valid : (1 ≤ year ∧ year ≤ 9999) ∧ (1 ≤ month ∧ month ≤ 12) ∧ 1 ≤ day ∧ day ≤ daysInMonth year month) :
    ofYmd year month day = some ⟨year, month, day, valid⟩ := dif_pos valid

theorem tomorrow_exists {date : Date} (room : date.toOrdinal < maxOrdinal) :
    ∃ next, date.tomorrow = some next := by
  obtain ⟨⟨yearPos, yearMax⟩, ⟨january, december⟩, first, last⟩ := date.valid
  have length := daysInMonth_pos
  unfold tomorrow
  split_ifs with inside before
  · exact ⟨_, ofYmd_valid ⟨⟨yearPos, yearMax⟩, ⟨january, december⟩, by omega, by omega⟩⟩
  · have month := length date.year (date.month + 1)
    exact ⟨_, ofYmd_valid ⟨⟨yearPos, yearMax⟩, ⟨by omega, by omega⟩, le_rfl, by omega⟩⟩
  · have month := length (date.year + 1) 1
    refine ⟨_, ofYmd_valid ⟨⟨by omega, ?_⟩, by omega, le_rfl, by omega⟩⟩
    by_contra beyond
    have newYearsEve : date.year = 9999 ∧ date.month = 12 := by omega
    have december31 : daysInMonth 9999 12 = 31 := rfl
    rw [newYearsEve.1, newYearsEve.2, december31] at inside
    have whole := daysBeforeMonth_succ 9999 (show 1 ≤ 12 by omega)
    rw [daysBeforeMonth_whole, december31] at whole
    have last_ordinal : maxOrdinal = daysBeforeYear 9999 + yearLength 9999 :=
      @daysBeforeYear_succ 9999 (by omega)
    unfold toOrdinal dayOfYear at room
    rw [newYearsEve.1, newYearsEve.2, last_ordinal] at room
    omega

theorem yesterday_exists {date : Date} (room : 1 < date.toOrdinal) :
    ∃ next, date.yesterday = some next := by
  obtain ⟨⟨yearPos, yearMax⟩, ⟨january, december⟩, first, last⟩ := date.valid
  have length := daysInMonth_pos
  unfold yesterday
  split_ifs with inside after
  · exact ⟨_, ofYmd_valid ⟨⟨yearPos, yearMax⟩, ⟨january, december⟩, by omega, by omega⟩⟩
  · have month := length date.year (date.month - 1)
    exact ⟨_, ofYmd_valid ⟨⟨yearPos, yearMax⟩, ⟨by omega, by omega⟩, by omega, le_rfl⟩⟩
  · have december31 : 31 ≤ daysInMonth (date.year - 1) 12 := le_rfl
    refine ⟨_, ofYmd_valid ⟨⟨?_, by omega⟩, by omega, by omega, december31⟩⟩
    by_contra under
    have firstYear : date.year = 1 := by omega
    have firstMonth : date.month = 1 := by omega
    unfold toOrdinal dayOfYear daysBeforeYear at room
    rw [firstYear, firstMonth] at room
    simp only [daysBeforeMonth] at room
    omega

def daysLater : Nat → Date → Option Date
  | 0, date => some date
  | count + 1, date => date.tomorrow.bind (daysLater count)

def daysEarlier : Nat → Date → Option Date
  | 0, date => some date
  | count + 1, date => date.yesterday.bind (daysEarlier count)

/-- `date + timedelta(days=days)`, where that is a supported date. -/
def addDays (date : Date) : Int → Option Date
  | .ofNat count => date.daysLater count
  | .negSucc count => date.daysEarlier (count + 1)

theorem daysLater_ordinal {count : Nat} {date next : Date} (moved : date.daysLater count = some next) :
    next.toOrdinal = date.toOrdinal + count := by
  induction count generalizing date with
  | zero => exact congrArg toOrdinal (Option.some.inj moved).symm
  | succ count ih =>
    obtain ⟨middle, first, later⟩ := Option.bind_eq_some_iff.mp moved
    rw [ih later, toOrdinal_tomorrow first]
    omega

theorem daysEarlier_ordinal {count : Nat} {date next : Date} (moved : date.daysEarlier count = some next) :
    next.toOrdinal + count = date.toOrdinal := by
  induction count generalizing date with
  | zero => exact congrArg toOrdinal (Option.some.inj moved).symm
  | succ count ih =>
    obtain ⟨middle, first, later⟩ := Option.bind_eq_some_iff.mp moved
    have inner := ih later
    have outer := toOrdinal_yesterday first
    omega

theorem daysLater_exists {count : Nat} {date : Date} (room : date.toOrdinal + count ≤ maxOrdinal) :
    ∃ next, date.daysLater count = some next := by
  induction count generalizing date with
  | zero => exact ⟨date, rfl⟩
  | succ count ih =>
    obtain ⟨middle, first⟩ := tomorrow_exists (show date.toOrdinal < maxOrdinal by omega)
    obtain ⟨next, later⟩ := ih (by rw [toOrdinal_tomorrow first]; omega)
    exact ⟨next, by rw [daysLater, first]; exact later⟩

theorem daysEarlier_exists {count : Nat} {date : Date} (room : count < date.toOrdinal) :
    ∃ next, date.daysEarlier count = some next := by
  induction count generalizing date with
  | zero => exact ⟨date, rfl⟩
  | succ count ih =>
    obtain ⟨middle, first⟩ := yesterday_exists (show 1 < date.toOrdinal by omega)
    have ordinal := toOrdinal_yesterday first
    obtain ⟨next, later⟩ := ih (show count < middle.toOrdinal by omega)
    exact ⟨next, by rw [daysEarlier, first]; exact later⟩

theorem addDays_ordinal {date next : Date} {days : Int} (moved : date.addDays days = some next) :
    (next.toOrdinal : Int) = date.toOrdinal + days := by
  cases days with
  | ofNat count =>
    have ordinal := daysLater_ordinal moved
    simp only [Int.ofNat_eq_natCast]
    omega
  | negSucc count =>
    have ordinal := daysEarlier_ordinal moved
    rw [Int.negSucc_eq]
    omega

theorem addDays_exists {date : Date} {days : Int} (first : 1 ≤ (date.toOrdinal : Int) + days)
    (last : (date.toOrdinal : Int) + days ≤ maxOrdinal) : ∃ next, date.addDays days = some next := by
  cases days with
  | ofNat count =>
    simp only [Int.ofNat_eq_natCast] at first last
    exact daysLater_exists (by omega)
  | negSucc count =>
    rw [Int.negSucc_eq] at first last
    exact daysEarlier_exists (by omega)

/-- Moving a date by days moves its ordinal by as many. -/
theorem addDays_eq_some_iff {date next : Date} {days : Int} :
    date.addDays days = some next ↔ (next.toOrdinal : Int) = date.toOrdinal + days := by
  constructor
  · exact addDays_ordinal
  · intro ordinal
    have first := next.toOrdinal_pos
    have last := next.toOrdinal_le_max
    obtain ⟨other, moved⟩ := @addDays_exists date days (by omega) (by omega)
    have same := addDays_ordinal moved
    obtain rfl : other = next := toOrdinal_injective (by omega)
    exact moved

/-- The day before the first of a month is the last of the month before. -/
theorem dayBefore_firstOfMonth {year month : Nat} (years : 1 ≤ year ∧ year ≤ 9999)
    (months : 1 ≤ month ∧ month < 12) :
    (ofYmd year (month + 1) 1).bind (addDays · (-1)) = ofYmd year month (daysInMonth year month) := by
  have length := daysInMonth_pos year month
  have nextLength := daysInMonth_pos year (month + 1)
  rw [ofYmd_valid ⟨years, ⟨by omega, by omega⟩, le_rfl, by omega⟩,
    ofYmd_valid ⟨years, ⟨by omega, by omega⟩, by omega, le_rfl⟩, Option.bind_some, addDays_eq_some_iff]
  unfold toOrdinal dayOfYear
  dsimp only
  rw [daysBeforeMonth_succ year months.1]
  omega

/-! ## Moving by months -/

/-- The same day some months later, or the last day of that month where there is none. -/
def addMonths (date : Date) (months : Nat) : Option Date :=
  let month := date.year * 12 + (date.month - 1) + months
  ofYmd (month / 12) (month % 12 + 1) (min date.day (daysInMonth (month / 12) (month % 12 + 1)))

end Date

end PharmaIntel.Base
