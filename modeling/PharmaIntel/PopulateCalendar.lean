import Mathlib
import PharmaIntel.Base.Keyed
import PharmaIntel.CalendarTrigger

/-! The `populate_calendar` command: complete years are inserted in batches and then
read back and compared with the builder. The transaction and its advisory lock make one
run of the command one step; a run that fails leaves the table as it was. -/

namespace PharmaIntel.PopulateCalendar
open Base CalendarDate CalendarTrigger

def maxYearSpan : Int := 100
def maxSupportedYear : Int := 9998
def batchSize : Nat := 1000

/-- The dates that `_date_range` yields, where no day of them leaves the calendar. -/
def dateRange (current finish : Date) : Except Failure (List Date) :=
  if current = finish then .ok [current]
  else match _ : current.addDays 1 with
    | none => .error .overflowError
    | some next => (dateRange next finish).map (current :: ·)
termination_by Date.maxOrdinal - current.toOrdinal
decreasing_by
  have ordinal := Date.addDays_ordinal ‹_›
  have bound := next.toOrdinal_le_max
  omega

def build (value : Date) : Except Failure CalendarValues :=
  match buildCalendarDate value with
  | none => .error .overflowError
  | some values => .ok values

/-- `bulk_create(batch, ignore_conflicts=True)`. -/
def bulkCreate (table : CalendarTable) (batch : List CalendarValues) : Except Failure CalendarTable :=
  batch.foldlM insertIgnoringConflicts table

/-- The loop of `_populate`, with the batch it fills. -/
def populateFrom : List CalendarValues → List Date → CalendarTable → Except Failure CalendarTable
  | batch, [], table => if batch.isEmpty then .ok table else bulkCreate table batch
  | batch, value :: values, table => do
    let row ← build value
    if (batch ++ [row]).length = batchSize then
      let table ← bulkCreate table (batch ++ [row])
      populateFrom [] values table
    else populateFrom (batch ++ [row]) values table

def populate (startDate endDate : Date) (table : CalendarTable) : Except Failure CalendarTable := do
  let values ← dateRange startDate endDate
  populateFrom [] values table

/-! ## Verification -/

inductive FieldValue where
  | date (value : Date)
  | number (value : Nat)
  | text (value : String)
  | flag (value : Bool)
  deriving DecidableEq

/-- The values under `CALENDAR_FIELD_NAMES`. -/
def fields (values : CalendarValues) : List (String × FieldValue) := [
  ("date", .date values.date), ("date_key", .number values.dateKey), ("year", .number values.year),
  ("quarter", .number values.quarter), ("month", .number values.month),
  ("month_name", .text values.monthName), ("month_abbreviation", .text values.monthAbbreviation),
  ("day_of_month", .number values.dayOfMonth), ("day_of_year", .number values.dayOfYear),
  ("iso_year", .number values.isoYear), ("iso_week", .number values.isoWeek),
  ("iso_weekday", .number values.isoWeekday), ("weekday_name", .text values.weekdayName),
  ("is_weekend", .flag values.isWeekend), ("week_start", .date values.weekStart),
  ("week_end", .date values.weekEnd), ("month_start", .date values.monthStart),
  ("month_end", .date values.monthEnd), ("quarter_start", .date values.quarterStart),
  ("quarter_end", .date values.quarterEnd), ("year_start", .date values.yearStart),
  ("year_end", .date values.yearEnd), ("year_month_key", .number values.yearMonthKey),
  ("year_month_label", .text values.yearMonthLabel),
  ("year_quarter_label", .text values.yearQuarterLabel)]

def inconsistentFields (stored expected : CalendarValues) : List String :=
  (((fields stored).zip (fields expected)).filter (fun pair => pair.1 ≠ pair.2)).map (fun pair => pair.1.1)

/-- The loop of `_verify`, with the first inconsistency it has found. -/
def compareFrom : Option (Date × List String) → List Date → List CalendarValues →
    Except Failure (Option (Date × List String))
  | found, [], [] => .ok found
  | found, expectedDate :: dates, storedValues :: rows => do
    let expectedValues ← build expectedDate
    if fields storedValues ≠ fields expectedValues ∧ found = none then
      compareFrom (some (expectedDate, inconsistentFields storedValues expectedValues)) dates rows
    else compareFrom found dates rows
  | _, [], _ :: _ => .error .valueError
  | _, _ :: _, [] => .error .valueError

def isoformat (date : Date) : String :=
  fourDigits date.year ++ "-" ++ String.ofList ((Nat.toDigits 10 date.month).leftpad 2 '0') ++ "-" ++
    String.ofList ((Nat.toDigits 10 date.day).leftpad 2 '0')

def inRange (startDate endDate : Date) (row : CalendarValues) : Bool :=
  decide (startDate ≤ row.date ∧ row.date ≤ endDate)

def dateOrder (first second : CalendarValues) : Bool := decide (first.date ≤ second.date)

/-- `filter(date__range=(start_date, end_date)).order_by("date")`. -/
def storedRows (startDate endDate : Date) (table : CalendarTable) : List CalendarValues :=
  (table.rows.filter (inRange startDate endDate)).mergeSort dateOrder

def verify (startDate endDate : Date) (expectedCount : Int) (table : CalendarTable) : Except Failure Unit := do
  let queryset := storedRows startDate endDate table
  let actualCount := queryset.length
  if (actualCount : Int) ≠ expectedCount then
    .error (.commandError ("Calendar population did not produce a continuous range: expected " ++
      toString expectedCount ++ " dates, found " ++ toString actualCount ++ "."))
  else
    let dates ← dateRange startDate endDate
    match ← compareFrom none dates queryset with
    | none => .ok ()
    | some (firstInconsistentDate, inconsistent) =>
      .error (.commandError ("Calendar verification failed for " ++ isoformat firstInconsistentDate ++
        "; inconsistent fields: " ++ ", ".intercalate inconsistent ++ "."))

/-! ## The command -/

def validateYears (startYear endYear : Int) : Except Failure Unit :=
  if ¬(1 ≤ startYear ∧ startYear ≤ maxSupportedYear) then
    .error (.commandError ("--start-year must be between 1 and " ++ toString maxSupportedYear ++ "."))
  else if ¬(1 ≤ endYear ∧ endYear ≤ maxSupportedYear) then
    .error (.commandError ("--end-year must be between 1 and " ++ toString maxSupportedYear ++ "."))
  else if endYear < startYear then
    .error (.commandError "--start-year cannot be after --end-year.")
  else if maxYearSpan < (endYear - startYear) + 1 then
    .error (.commandError ("A single run can populate at most " ++ toString maxYearSpan ++ " years."))
  else .ok ()

def dateOf (year month day : Nat) : Except Failure Date :=
  match Date.ofYmd year month day with
  | none => .error .valueError
  | some date => .ok date

def report (startDate endDate : Date) (expectedCount beforeCount : Int) : String :=
  "Calendar is complete and valid from " ++ isoformat startDate ++ " through " ++ isoformat endDate ++
    " (" ++ toString expectedCount ++ " dates; " ++ toString (expectedCount - beforeCount) ++ " created, " ++
    toString beforeCount ++ " already present)."

/-- `Command.handle`: its message and the table it commits. -/
def handle (startYear endYear : Int) (table : CalendarTable) : Except Failure (String × CalendarTable) := do
  validateYears startYear endYear
  let startDate ← dateOf startYear.toNat 1 1
  let endDate ← dateOf endYear.toNat 12 31
  let expectedCount : Int := (endDate.toOrdinal : Int) - startDate.toOrdinal + 1
  let beforeCount := (storedRows startDate endDate table).length
  let populated ← populate startDate endDate table
  verify startDate endDate expectedCount populated
  return (report startDate endDate expectedCount beforeCount, populated)

/-- A run of the command, whose failure is rolled back. -/
def populateCalendar (startYear endYear : Int) (table : CalendarTable) :
    Except Failure String × CalendarTable :=
  match handle startYear endYear table with
  | .ok (message, committed) => (.ok message, committed)
  | .error failure => (.error failure, table)

/-! ## The dates of the range -/

theorem dateRange_spec {current finish : Date} (ordered : current ≤ finish) :
    ∃ dates, dateRange current finish = .ok dates ∧
      dates.map Date.toOrdinal = List.range' current.toOrdinal (finish.toOrdinal - current.toOrdinal + 1) := by
  have bound := (Date.le_iff_toOrdinal _ _).mp ordered
  induction left : finish.toOrdinal - current.toOrdinal generalizing current with
  | zero =>
    obtain rfl : current = finish := Date.toOrdinal_injective (by omega)
    rw [dateRange, if_pos rfl]
    exact ⟨[current], rfl, rfl⟩
  | succ left ih =>
    have apart : current ≠ finish := by
      rintro rfl
      omega
    have last := finish.toOrdinal_le_max
    obtain ⟨next, moved⟩ := @Date.addDays_exists current 1 (by omega) (by omega)
    have ordinal := Date.addDays_ordinal moved
    have nextBound : next.toOrdinal ≤ finish.toOrdinal := by omega
    obtain ⟨dates, ranged, ordinals⟩ := ih ((Date.le_iff_toOrdinal _ _).mpr nextBound) nextBound (by omega)
    have start : current.toOrdinal + 1 = next.toOrdinal := by omega
    refine ⟨current :: dates, ?_, ?_⟩
    · rw [dateRange, if_neg apart]
      split
      · rename_i stopped
        rw [moved] at stopped
        cases stopped
      · rename_i other reached
        obtain rfl : next = other := Option.some.inj (moved.symm.trans reached)
        rw [ranged]
        rfl
    · rw [List.map_cons, ordinals, ← start]
      rfl

variable {startDate endDate : Date} {dates : List Date}

theorem mem_dates (ordinals : dates.map Date.toOrdinal =
      List.range' startDate.toOrdinal (endDate.toOrdinal - startDate.toOrdinal + 1))
    (ordered : startDate ≤ endDate) (date : Date) : date ∈ dates ↔ startDate ≤ date ∧ date ≤ endDate := by
  have bound := (Date.le_iff_toOrdinal _ _).mp ordered
  rw [← List.mem_map_of_injective Date.toOrdinal_injective, ordinals, List.mem_range'_1,
    Date.le_iff_toOrdinal, Date.le_iff_toOrdinal]
  omega

theorem dates_sorted (ordinals : dates.map Date.toOrdinal =
      List.range' startDate.toOrdinal (endDate.toOrdinal - startDate.toOrdinal + 1)) :
    dates.Pairwise (· < ·) := by
  have sorted := List.pairwise_lt_range' (s := startDate.toOrdinal)
    (n := endDate.toOrdinal - startDate.toOrdinal + 1)
  rw [← ordinals, List.pairwise_map] at sorted
  exact sorted.imp Date.toOrdinal_strictMono.lt_iff_lt.mp

/-! ## What is inserted -/

/-- `row` is the row of `date`. -/
def Builds (date : Date) (row : CalendarValues) : Prop := buildCalendarDate date = some row

theorem Builds.date_eq {date : Date} {row : CalendarValues} (builds : Builds date row) : row.date = date :=
  (describes_of_build builds).date_eq

theorem builds_exist {dates : List Date} (supported : ∀ date ∈ dates, date.year ≤ 9998) :
    ∃ rows, List.Forall₂ Builds dates rows := by
  induction dates with
  | nil => exact ⟨[], .nil⟩
  | cons date dates ih =>
    obtain ⟨row, built⟩ := buildCalendarDate_exists (supported date List.mem_cons_self)
    obtain ⟨rows, all⟩ := ih (fun other member => supported other (List.mem_cons_of_mem _ member))
    exact ⟨row :: rows, .cons built all⟩

theorem map_date {rows : List CalendarValues} (builds : List.Forall₂ Builds dates rows) :
    rows.map CalendarValues.date = dates := by
  induction builds with
  | nil => rfl
  | cons built _ ih => rw [List.map_cons, ih, built.date_eq]

/-- Batches or not, the rows are inserted one after the other. -/
theorem populateFrom_eq {rows : List CalendarValues} (builds : List.Forall₂ Builds dates rows)
    (batch : List CalendarValues) (table : CalendarTable) :
    populateFrom batch dates table = (batch ++ rows).foldlM insertIgnoringConflicts table := by
  induction builds generalizing batch table with
  | nil =>
    rw [populateFrom, List.append_nil]
    cases batch with
    | nil => rfl
    | cons row rest => rfl
  | cons built _ ih =>
    rename_i value row values rows builds
    have step : build value = .ok row := by
      unfold build
      rw [built]
    have regroup : batch ++ row :: rows = (batch ++ [row]) ++ rows := by simp
    rw [populateFrom, step, regroup, List.foldlM_append]
    change (if _ then bulkCreate _ _ >>= fun table => populateFrom [] values table else _) = _
    split_ifs with full
    · apply bind_congr
      intro after
      rw [ih, List.nil_append]
    · rw [ih, List.foldlM_append]

/-- Every row that is not there is added, and nothing else happens. -/
theorem insertAll_rows {rows : List CalendarValues} (builds : List.Forall₂ Builds dates rows)
    (nodup : dates.Nodup) (supported : ∀ date ∈ dates, date.year ≤ 9998) (table : CalendarTable) :
    ∃ after, rows.foldlM insertIgnoringConflicts table = .ok after ∧
      after.rows = table.rows ++ rows.filter (fun row => row.date ∉ table.rows.map CalendarValues.date) := by
  induction builds generalizing table with
  | nil => exact ⟨table, rfl, (List.append_nil _).symm⟩
  | cons built _ ih =>
    rename_i value row values rows builds
    obtain ⟨absent, rest⟩ := List.nodup_cons.mp nodup
    have here := supported value List.mem_cons_self
    have date := built.date_eq
    have derived : deriveCalendarDate row.date = some row := by
      rw [date, derive_eq_build here]
      exact built
    obtain ⟨middle, inserted, middleRows⟩ := insert_rows table derived (date ▸ here)
    obtain ⟨after, finished, afterRows⟩ :=
      ih rest (fun other member => supported other (List.mem_cons_of_mem _ member)) middle
    refine ⟨after, ?_, ?_⟩
    · rw [List.foldlM_cons, inserted]
      exact finished
    · have later : ∀ other ∈ rows, (other.date ∉ middle.rows.map CalendarValues.date ↔
          other.date ∉ table.rows.map CalendarValues.date) := by
        intro other member
        have apart : other.date ≠ row.date := by
          intro same
          rw [date] at same
          apply absent
          rw [← same, ← map_date builds]
          exact List.mem_map_of_mem member
        rw [middleRows, List.map_append, List.mem_append, not_or]
        split_ifs with taken
        · simp
        · simp [apart]
      rw [afterRows, List.filter_congr (fun other member => decide_eq_decide.mpr (later other member)),
        middleRows, List.append_assoc, List.filter_cons]
      by_cases taken : row.date ∈ table.rows.map CalendarValues.date
      · rw [if_pos taken, if_neg (by simpa using taken)]
        rfl
      · rw [if_neg taken, if_pos (by simpa using taken)]
        rfl

/-! ## What is read back -/

/-- A row of the table is the row that the builder gives its date. -/
theorem table_builds (table : CalendarTable) {row : CalendarValues} (member : row ∈ table.rows) :
    Builds row.date row := by
  have derived := table.derived row member
  rw [derive_eq_build (supported_of_admits (table.admitted row member))] at derived
  exact derived

theorem exists_row {rows : List CalendarValues} (builds : List.Forall₂ Builds dates rows) {date : Date}
    (member : date ∈ dates) : ∃ row ∈ rows, Builds date row := by
  induction builds with
  | nil => exact (List.not_mem_nil member).elim
  | cons built _ ih =>
    rcases List.mem_cons.mp member with rfl | later
    · exact ⟨_, List.mem_cons_self, built⟩
    · obtain ⟨row, inside, builds⟩ := ih later
      exact ⟨row, List.mem_cons_of_mem _ inside, builds⟩

/-- Once every row of the range is in the table, the range reads back as these rows. -/
theorem storedRows_eq {rows : List CalendarValues} {table : CalendarTable}
    (builds : List.Forall₂ Builds dates rows) (sorted : dates.Pairwise (· < ·))
    (range : ∀ date, date ∈ dates ↔ startDate ≤ date ∧ date ≤ endDate)
    (complete : ∀ row ∈ rows, row ∈ table.rows) : storedRows startDate endDate table = rows := by
  have rowDates := map_date builds
  have sortedRows : rows.Pairwise (fun first second => first.date < second.date) := by
    rw [← List.pairwise_map, rowDates]
    exact sorted
  have nodupRows : rows.Nodup := by
    refine List.Nodup.of_map CalendarValues.date ?_
    rw [rowDates]
    exact sorted.imp ne_of_lt
  have nodup : (table.rows.filter (inRange startDate endDate)).Nodup :=
    (List.Nodup.of_map _ table.dates_nodup).filter _
  have same : ∀ row, row ∈ table.rows.filter (inRange startDate endDate) ↔ row ∈ rows := by
    intro row
    rw [List.mem_filter, inRange, decide_eq_true_eq, ← range]
    constructor
    · rintro ⟨member, inside⟩
      obtain ⟨other, present, built⟩ := exists_row builds inside
      obtain rfl : row = other := Option.some.inj ((table_builds table member).symm.trans built)
      exact present
    · intro member
      refine ⟨complete row member, ?_⟩
      rw [← rowDates]
      exact List.mem_map_of_mem member
  unfold storedRows
  refine List.Perm.eq_of_pairwise ?_ (List.pairwise_mergeSort ?_ ?_ _)
    (sortedRows.imp (fun earlier => decide_eq_true earlier.le))
    ((List.mergeSort_perm _ _).trans ((List.perm_ext_iff_of_nodup nodup nodupRows).mpr same))
  · intro first second firstMember secondMember before after
    have inTable : first ∈ table.rows := (List.mem_filter.mp (List.mem_mergeSort.mp firstMember)).1
    exact List.inj_on_of_nodup_map table.dates_nodup inTable (complete second secondMember)
      (le_antisymm (of_decide_eq_true before) (of_decide_eq_true after))
  · intro first second third before after
    exact decide_eq_true ((of_decide_eq_true before).trans (of_decide_eq_true after))
  · intro first second
    rw [Bool.or_eq_true, dateOrder, dateOrder, decide_eq_true_eq, decide_eq_true_eq]
    exact le_total _ _

theorem compareFrom_eq {rows : List CalendarValues} (builds : List.Forall₂ Builds dates rows)
    (found : Option (Date × List String)) : compareFrom found dates rows = .ok found := by
  induction builds with
  | nil => rfl
  | cons built _ ih =>
    rename_i value row values rows builds
    have step : build value = .ok row := by
      unfold build
      rw [built]
    rw [compareFrom, step]
    change (if _ then _ else _) = _
    rw [if_neg (fun differs => differs.1 rfl)]
    exact ih

theorem dates_length (ordinals : dates.map Date.toOrdinal =
      List.range' startDate.toOrdinal (endDate.toOrdinal - startDate.toOrdinal + 1))
    (ordered : startDate ≤ endDate) :
    (dates.length : Int) = (endDate.toOrdinal : Int) - startDate.toOrdinal + 1 := by
  have bound := (Date.le_iff_toOrdinal _ _).mp ordered
  have length := congrArg List.length ordinals
  rw [List.length_map, List.length_range'] at length
  omega

/-! ## A run of the command -/

/-- The table after a run: every row of the range, and what it held before. -/
structure Populated (startDate endDate : Date) (table after : CalendarTable) : Prop where
  added : ∃ rows, after.rows = table.rows ++ rows ∧
    ∀ row ∈ rows, (startDate ≤ row.date ∧ row.date ≤ endDate) ∧ row.date ∉ table.rows.map CalendarValues.date
  complete : ∀ date, startDate ≤ date → date ≤ endDate → ∃ row ∈ after.rows, Builds date row

theorem builds_self {rows : List CalendarValues} (builds : List.Forall₂ Builds dates rows) :
    ∀ row ∈ rows, row.date ∈ dates ∧ Builds row.date row := by
  induction builds with
  | nil => exact fun row absent => (List.not_mem_nil absent).elim
  | cons built _ ih =>
    intro row member
    rcases List.mem_cons.mp member with rfl | later
    · rw [built.date_eq]
      exact ⟨List.mem_cons_self, built⟩
    · exact ⟨List.mem_cons_of_mem _ (ih row later).1, (ih row later).2⟩

theorem populate_spec (ordered : startDate ≤ endDate) (supported : endDate.year ≤ 9998) (table : CalendarTable) :
    ∃ after, populate startDate endDate table = .ok after ∧ Populated startDate endDate table after ∧
      verify startDate endDate ((endDate.toOrdinal : Int) - startDate.toOrdinal + 1) after = .ok () := by
  obtain ⟨dates, ranged, ordinals⟩ := dateRange_spec ordered
  have range := mem_dates ordinals ordered
  have sorted := dates_sorted ordinals
  have within : ∀ date ∈ dates, date.year ≤ 9998 := by
    intro date member
    have last := (le_lastSupportedDate endDate).mpr supported
    exact (le_lastSupportedDate date).mp (((range date).mp member).2.trans last)
  obtain ⟨rows, builds⟩ := builds_exist within
  obtain ⟨after, inserted, afterRows⟩ := insertAll_rows builds (sorted.imp ne_of_lt) within table
  have complete : ∀ row ∈ rows, row ∈ after.rows := by
    intro row member
    rw [afterRows, List.mem_append, List.mem_filter, decide_eq_true_eq]
    by_cases taken : row.date ∈ table.rows.map CalendarValues.date
    · obtain ⟨other, present, same⟩ := List.mem_map.mp taken
      have otherBuilt := table_builds table present
      rw [same] at otherBuilt
      obtain rfl : other = row := Option.some.inj (otherBuilt.symm.trans (builds_self builds row member).2)
      exact Or.inl present
    · exact Or.inr ⟨member, taken⟩
  have stored := storedRows_eq builds sorted range complete
  refine ⟨after, ?_, ⟨⟨_, afterRows, ?_⟩, ?_⟩, ?_⟩
  · rw [populate, ranged]
    exact (populateFrom_eq builds [] table).trans inserted
  · intro row member
    obtain ⟨inside, absent⟩ := List.mem_filter.mp member
    exact ⟨(range _).mp (builds_self builds row inside).1, of_decide_eq_true absent⟩
  · intro date first last
    obtain ⟨row, inside, built⟩ := exists_row builds ((range date).mpr ⟨first, last⟩)
    exact ⟨row, complete row inside, built⟩
  · have count : (rows.length : Int) = (endDate.toOrdinal : Int) - startDate.toOrdinal + 1 := by
      rw [← builds.length_eq]
      exact dates_length ordinals ordered
    unfold verify
    dsimp only
    rw [stored, if_neg (not_not.mpr count), ranged]
    change (compareFrom none dates rows >>= _) = _
    rw [compareFrom_eq builds]
    rfl

theorem CalendarTable.eq_of_rows {table other : CalendarTable} (same : table.rows = other.rows) :
    table = other := by
  cases table
  cases other
  cases same
  rfl

/-- A run over a range that is already complete adds nothing. -/
theorem Populated.again {table after last : CalendarTable} (populated : Populated startDate endDate table after)
    (repeated : Populated startDate endDate after last) : last = after := by
  obtain ⟨rows, appended, fresh⟩ := repeated.added
  apply CalendarTable.eq_of_rows
  cases rows with
  | nil => rw [appended, List.append_nil]
  | cons row rest =>
    obtain ⟨⟨first, final⟩, absent⟩ := fresh row List.mem_cons_self
    obtain ⟨other, present, built⟩ := populated.complete row.date first final
    exact (absent (List.mem_map.mpr ⟨other, present, built.date_eq⟩)).elim

/-- The year ranges that the command accepts. -/
def ValidYears (startYear endYear : Int) : Prop :=
  1 ≤ startYear ∧ startYear ≤ endYear ∧ endYear ≤ 9998 ∧ endYear - startYear + 1 ≤ 100

theorem validateYears_ok {startYear endYear : Int} :
    validateYears startYear endYear = .ok () ↔ ValidYears startYear endYear := by
  unfold validateYears ValidYears maxSupportedYear maxYearSpan
  split_ifs <;> simp <;> omega

theorem dateOf_exists {year : Int} {month day : Nat} (years : 1 ≤ year ∧ year ≤ 9998)
    (months : 1 ≤ month ∧ month ≤ 12) (days : 1 ≤ day ∧ day ≤ daysInMonth year.toNat month) :
    ∃ date, dateOf year.toNat month day = .ok date ∧ Date.ofYmd year.toNat month day = some date := by
  obtain ⟨date, made⟩ := @ofYmd_exists year.toNat month day (by omega) months days
  refine ⟨date, ?_, made⟩
  unfold dateOf
  rw [made]

/-- A valid range is populated, passes the verification and stays as it is. -/
theorem populateCalendar_spec {startYear endYear : Int} (valid : ValidYears startYear endYear)
    (table : CalendarTable) : ∃ startDate endDate message after,
      Date.ofYmd startYear.toNat 1 1 = some startDate ∧ Date.ofYmd endYear.toNat 12 31 = some endDate ∧
      populateCalendar startYear endYear table = (.ok message, after) ∧
      Populated startDate endDate table after := by
  have accepted := validateYears_ok.mpr valid
  obtain ⟨first, ordered, last, span⟩ := valid
  obtain ⟨startDate, starts, startMade⟩ := @dateOf_exists startYear 1 1 ⟨first, by omega⟩ (by omega)
    ⟨le_rfl, by have := daysInMonth_pos startYear.toNat 1; omega⟩
  obtain ⟨endDate, ends, endMade⟩ := @dateOf_exists endYear 12 31 ⟨by omega, last⟩ (by omega) ⟨by omega, le_rfl⟩
  obtain ⟨startYearIs, startMonth, startDay⟩ := Date.ofYmd_eq_some startMade
  obtain ⟨endYearIs, endMonth, endDay⟩ := Date.ofYmd_eq_some endMade
  have dates : startDate ≤ endDate := by
    rw [Date.le_iff_key]
    unfold Date.key
    omega
  obtain ⟨after, done, populated, verified⟩ := populate_spec dates (by omega) table
  have handled : handle startYear endYear table = .ok (report startDate endDate
      ((endDate.toOrdinal : Int) - startDate.toOrdinal + 1) (storedRows startDate endDate table).length, after) := by
    unfold handle
    simp only [accepted, starts, ends, done, verified, bind, Except.bind]
    rfl
  have ran : populateCalendar startYear endYear table = (.ok (report startDate endDate
      ((endDate.toOrdinal : Int) - startDate.toOrdinal + 1) (storedRows startDate endDate table).length), after) := by
    unfold populateCalendar
    rw [handled]
  exact ⟨startDate, endDate, _, after, startMade, endMade, ran, populated⟩

theorem inYears_iff {startYear endYear : Int} {startDate endDate : Date} (positive : 1 ≤ startYear)
    (starts : Date.ofYmd startYear.toNat 1 1 = some startDate)
    (ends : Date.ofYmd endYear.toNat 12 31 = some endDate) (date : Date) :
    (startDate ≤ date ∧ date ≤ endDate) ↔ startYear ≤ date.year ∧ (date.year : Int) ≤ endYear := by
  have day := date.day_le
  obtain ⟨years, months, days⟩ := date.valid
  rw [(le_iff_parts starts).1, (le_iff_parts ends).2]
  unfold Date.key
  omega

def inYears (startYear endYear : Int) (row : CalendarValues) : Bool :=
  decide (startYear ≤ row.date.year ∧ (row.date.year : Int) ≤ endYear)

/-- Builder and trigger give every supported date the same row; so a run over valid
years verifies, leaves one correct row for each of their dates and every other row as it
was, and a second run changes nothing. -/
theorem calendar_settles :
    (∀ date : Date, date.year ≤ 9998 →
      ∃ values, buildCalendarDate date = some values ∧ deriveCalendarDate date = some values) ∧
    ∀ (startYear endYear : Int) (table : CalendarTable), ValidYears startYear endYear →
      ∃ message again after, populateCalendar startYear endYear table = (.ok message, after) ∧
        (∀ date : Date, startYear ≤ date.year → (date.year : Int) ≤ endYear →
          ∃ row, buildCalendarDate date = some row ∧
            after.rows.filter (fun other => other.date = date) = [row]) ∧
        table.rows <+: after.rows ∧
        after.rows.filter (fun row => !inYears startYear endYear row) =
          table.rows.filter (fun row => !inYears startYear endYear row) ∧
        populateCalendar startYear endYear after = (.ok again, after) := by
  refine ⟨?_, ?_⟩
  · intro date supported
    obtain ⟨values, built⟩ := buildCalendarDate_exists supported
    exact ⟨values, built, (derive_eq_build supported).trans built⟩
  · intro startYear endYear table valid
    obtain ⟨startDate, endDate, message, after, starts, ends, ran, populated⟩ := populateCalendar_spec valid table
    obtain ⟨otherStart, otherEnd, again, last, otherStarts, otherEnds, ranAgain, repeated⟩ :=
      populateCalendar_spec valid after
    obtain rfl : startDate = otherStart := Option.some.inj (starts.symm.trans otherStarts)
    obtain rfl : endDate = otherEnd := Option.some.inj (ends.symm.trans otherEnds)
    rw [populated.again repeated] at ranAgain
    have years := inYears_iff valid.1 starts ends
    obtain ⟨rows, appended, fresh⟩ := populated.added
    refine ⟨message, again, after, ran, ?_, ⟨rows, appended.symm⟩, ?_, ranAgain⟩
    · intro date first final
      obtain ⟨row, present, built⟩ := populated.complete date ((years date).mpr ⟨first, final⟩).1
        ((years date).mpr ⟨first, final⟩).2
      refine ⟨row, built, ?_⟩
      rw [← built.date_eq, filter_key_eq after.dates_nodup, findBy_of_mem after.dates_nodup present]
      rfl
    · have none_outside : rows.filter (fun row => !inYears startYear endYear row) = [] := by
        rw [List.filter_eq_nil_iff]
        intro row member
        rw [inYears, Bool.not_eq_true, Bool.not_eq_false', decide_eq_true_eq]
        exact (years row.date).mp (fresh row member).1
      rw [appended, List.filter_append, none_outside, List.append_nil]

/-- The leap year 2024, from an empty table. -/
theorem calendar_settles_sample :
    ∃ message after, populateCalendar 2024 2024 .empty = (.ok message, after) ∧
      ∃ row, buildCalendarDate ⟨2024, 2, 29, by decide⟩ = some row ∧
        after.rows.filter (fun other => other.date = ⟨2024, 2, 29, by decide⟩) = [row] := by
  obtain ⟨message, -, after, ran, complete, -⟩ :=
    calendar_settles.2 2024 2024 .empty ⟨by decide, by decide, by decide, by decide⟩
  exact ⟨message, after, ran, complete ⟨2024, 2, 29, by decide⟩ (by decide) (by decide)⟩

end PharmaIntel.PopulateCalendar
