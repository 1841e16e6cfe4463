import Mathlib
import PharmaIntel.ColumnOrder
import PharmaIntel.CsvWriter
import PharmaIntel.DecimalText
import PharmaIntel.PopulateCalendar

/-! Which rows the contract can express: those that satisfy its field rules, and each list of them with
distinct ids. A file that `csv.writer` wrote expresses them. -/

namespace PharmaIntel.Contracts
open PharmaIntel.Base PharmaIntel.Base.Utf8 PharmaIntel.PyText PharmaIntel.Staging

/-! ## Numbers of a fixed width -/

def padded (width n : Nat) : List Char := (Nat.toDigits 10 n).leftpad width '0'

theorem digitsValue_padded (width n : Nat) : digitsValue (padded width n) = n := by
  have value : ∀ digits, digitsValue digits = Nat.ofDigitChars 10 digits 0 := by
    intro digits
    rw [Nat.ofDigitChars_eq_foldl, digitsValue]
    congr 1
    funext acc c
    rw [Nat.mul_comm]
  rw [value, padded, List.leftpad, Nat.ofDigitChars_append, Nat.ofDigitChars_replicate_zero, Nat.mul_zero,
    Nat.ofDigitChars_ten_toDigits]

theorem padded_digits {width n : Nat} {c : Char} (member : c ∈ padded width n) : isDigit c = true := by
  rw [padded, List.leftpad, List.mem_append] at member
  rcases member with zero | digit
  · rw [List.eq_of_mem_replicate zero]
    decide
  · have known := Nat.isDigit_of_mem_toDigits (by decide) (by decide) digit
    simpa [isDigit, Char.isDigit, Char.le_def] using known

theorem padded_length (width n : Nat) : (padded width n).length = max width (Nat.toDigits 10 n).length := by
  rw [padded, List.length_leftpad, max_comm]

theorem padded_fixed {width n : Nat} (positive : 0 < width) (small : n < 10 ^ width) :
    (padded width n).length = width := by
  rw [padded_length, max_eq_left ((Nat.length_toDigits_le_iff (by decide) positive).mpr small)]

theorem digit_visible {c : Char} (digit : isDigit c = true) : isspace c = false := by
  simp only [isDigit, Bool.and_eq_true, decide_eq_true_eq, Char.le_def, UInt32.le_iff_toNat_le] at digit
  change 48 ≤ c.toNat ∧ c.toNat ≤ 57 at digit
  simp only [isspace, whitespace, List.mem_cons, List.not_mem_nil, or_false, decide_eq_false_iff_not]
  omega

/-! ## Texts -/

theorem strip_visible {chars : List Char} (visible : ∀ c ∈ chars, isspace c = false) :
    strip (String.ofList chars) = String.ofList chars := by
  apply strip_of_stripped
  rw [Stripped, String.toList_ofList]
  exact ⟨fun c head => visible c (List.mem_of_mem_head? head), fun c last => visible c (List.mem_of_mem_getLast? last)⟩

section Texts
variable {ucd : UnicodeDatabase} {maxLength : Nat} {value : String}

theorem textIssues_accepted (accepted : TextAccepted ucd maxLength value) (rowNumber : Nat) (column : String) :
    textIssues ucd value rowNumber column maxLength = [] := by
  have plain : containsControlCharacter ucd value = false :=
    List.any_eq_false.mpr (fun c member => by simp [accepted.printable c member])
  rw [textIssues, if_neg (not_lt.mpr accepted.length), plain]
  rfl

theorem text_said (accepted : TextAccepted ucd maxLength value) (rowNumber : Nat) (column : String)
    (required : Bool) : text ucd value rowNumber column required maxLength false = (some value, []) := by
  have same := strip_of_stripped accepted.stripped
  have clean := textIssues_accepted accepted rowNumber column
  unfold text
  dsimp only
  rw [same, if_neg accepted.nonempty, if_neg Bool.false_ne_true, clean]

theorem upper_said (accepted : CodeAccepted ucd maxLength value) : upper ucd value = value := by
  have fixed : value.toList.flatMap ucd.upper = value.toList := by
    calc value.toList.flatMap ucd.upper = value.toList.flatMap (fun c => [c]) :=
          List.flatMap_congr accepted.uppercase
      _ = value.toList := by simp
  rw [upper, fixed, String.ofList_toList]

theorem code_said (accepted : CodeAccepted ucd maxLength value) (rowNumber : Nat) (column : String)
    (required : Bool) : text ucd value rowNumber column required maxLength true = (some value, []) := by
  have same := strip_of_stripped accepted.stripped
  have clean := textIssues_accepted accepted.toTextAccepted rowNumber column
  unfold text
  dsimp only
  rw [same, if_neg accepted.nonempty, if_pos rfl, upper_said accepted, clean]

/-- An optional code is written as an empty cell. -/
theorem option_said {code : Option String} (accepted : ∀ value ∈ code, CodeAccepted ucd 64 value)
    (rowNumber : Nat) (column : String) :
    text ucd (code.getD "") rowNumber column false 64 true = (code, []) := by
  cases code with
  | none =>
    have blank : strip "" = "" := by decide
    rw [Option.getD_none, text, if_pos blank]
    rfl
  | some value => exact code_said (accepted value rfl) rowNumber column false

end Texts

/-! ## Dates -/

theorem daysInMonth_small (year month : Nat) : daysInMonth year month ≤ 31 := by
  unfold daysInMonth
  split_ifs <;> omega

theorem isoformat_chars (date : Date) : (PopulateCalendar.isoformat date).toList =
    padded 4 date.year ++ '-' :: (padded 2 date.month ++ '-' :: padded 2 date.day) := by
  simp [PopulateCalendar.isoformat, CalendarDate.fourDigits, padded]

open PopulateCalendar in
theorem isoDate_isoformat (date : Date) : isoDate (isoformat date) = some (some date) := by
  obtain ⟨⟨yearPos, yearMax⟩, ⟨monthPos, monthMax⟩, dayPos, dayMax⟩ := date.valid
  have days := daysInMonth_small date.year date.month
  have chars := isoformat_chars date
  have digits : ∀ c ∈ padded 4 date.year ++ (padded 2 date.month ++ padded 2 date.day), isDigit c = true := by
    intro c member
    rcases List.mem_append.mp member with year | later
    · exact padded_digits year
    · exact (List.mem_append.mp later).elim padded_digits padded_digits
  have year := digitsValue_padded 4 date.year
  have month := digitsValue_padded 2 date.month
  have day := digitsValue_padded 2 date.day
  obtain ⟨y1, y2, y3, y4, yearChars⟩ := List.length_eq_four.mp (padded_fixed (by decide : 0 < 4) (by omega : date.year < 10 ^ 4))
  obtain ⟨m1, m2, monthChars⟩ := List.length_eq_two.mp (padded_fixed (by decide : 0 < 2) (by omega : date.month < 10 ^ 2))
  obtain ⟨d1, d2, dayChars⟩ := List.length_eq_two.mp (padded_fixed (by decide : 0 < 2) (by omega : date.day < 10 ^ 2))
  rw [yearChars] at year
  rw [monthChars] at month
  rw [dayChars] at day
  rw [yearChars, monthChars, dayChars] at digits chars
  have all : [y1, y2, y3, y4, m1, m2, d1, d2].all isDigit = true := List.all_eq_true.mpr digits
  rw [isoDate, chars]
  change (if [y1, y2, y3, y4, m1, m2, d1, d2].all isDigit = true then
    some (Date.ofYmd (digitsValue [y1, y2, y3, y4]) (digitsValue [m1, m2]) (digitsValue [d1, d2])) else none) = _
  rw [if_pos all, year, month, day, Date.ofYmd, dif_pos date.valid]

/-! ## Decimals -/

/-- The text of a decimal whose exponent is not positive, written out. -/
def writtenDecimal (d : Decimal) : DecimalText where
  negative := d.sign
  whole := (padded (d.exponent.natAbs + 1) d.coefficient).take
    ((padded (d.exponent.natAbs + 1) d.coefficient).length - d.exponent.natAbs)
  fraction := (padded (d.exponent.natAbs + 1) d.coefficient).drop
    ((padded (d.exponent.natAbs + 1) d.coefficient).length - d.exponent.natAbs)
  nonempty := by
    apply List.ne_nil_of_length_pos
    rw [List.length_take, padded_length]
    omega
  digits := by
    rw [List.take_append_drop]
    exact fun c => padded_digits

theorem writtenDecimal_parts {d : Decimal} (written : d.exponent ≤ 0) :
    Decimal.ofParts (writtenDecimal d).parts = d := by
  obtain ⟨sign, coefficient, exponent⟩ := d
  simp only [Decimal.ofParts, DecimalText.parts, writtenDecimal, List.take_append_drop, digitsValue_padded,
    List.length_drop, padded_length, Decimal.mk.injEq, true_and]
  dsimp only at written
  omega

theorem writtenDecimal_visible (d : Decimal) : ∀ c ∈ (writtenDecimal d).chars, isspace c = false := by
  have digits := (writtenDecimal d).digits
  intro c member
  rw [DecimalText.chars, DecimalText.point] at member
  rcases List.mem_append.mp member with sign | rest
  · split_ifs at sign
    · rw [List.mem_singleton.mp sign]
      decide
    · cases sign
  · rcases List.mem_append.mp rest with whole | point
    · exact digit_visible (digits c (List.mem_append_left _ whole))
    · split_ifs at point
      · cases point
      · rcases List.mem_cons.mp point with rfl | fraction
        · decide
        · exact digit_visible (digits c (List.mem_append_right _ fraction))

theorem writtenDecimal_length (d : Decimal) :
    (writtenDecimal d).chars.length ≤ max (d.exponent.natAbs + 1) (Nat.toDigits 10 d.coefficient).length + 2 := by
  have sign : (if d.sign then ['-'] else []).length ≤ 1 := by
    split_ifs <;> simp
  have point : (writtenDecimal d).point.length ≤ (writtenDecimal d).fraction.length + 1 := by
    unfold DecimalText.point
    split_ifs <;> simp
  have whole : (writtenDecimal d).whole.length + (writtenDecimal d).fraction.length =
      max (d.exponent.natAbs + 1) (Nat.toDigits 10 d.coefficient).length := by
    rw [← padded_length, ← List.length_append]
    exact congrArg List.length (List.take_append_drop _ _)
  rw [DecimalText.chars, List.length_append, List.length_append]
  change (if d.sign then ['-'] else []).length + _ ≤ _
  omega

theorem writtenDecimal_short {validator : DecimalValidator}
    (measure : validator ∈ [quantityValidator, revenueValidator]) {d : Decimal}
    (accepted : DecimalAccepted validator d) : (writtenDecimal d).chars.length ≤ 64 := by
  have size := writtenDecimal_length d
  have digits := accepted.accepted
  have places : d.exponent = -(d.exponent.natAbs : Int) := by
    have := accepted.written
    omega
  rw [DecimalValidator.accepts, digitsAndDecimals_written places] at digits
  simp only [Bool.and_eq_true, decide_eq_true_eq] at digits
  have few : validator.maxDigits ≤ 20 := by
    rcases List.mem_pair.mp measure with rfl | rfl <;> decide
  omega

theorem decimal_said {validator : DecimalValidator} (measure : validator ∈ [quantityValidator, revenueValidator])
    {d : Decimal} (accepted : DecimalAccepted validator d) (rowNumber : Nat) (column : String) :
    decimal (String.ofList (writtenDecimal d).chars) rowNumber column validator = (some d, []) := by
  have room := measures_room measure
  have parts := writtenDecimal_parts accepted.written
  have stripped := strip_visible (writtenDecimal_visible d)
  have fits : (writtenDecimal d).Fits validator := by
    rw [← (writtenDecimal d).accepts_iff room, parts]
    exact accepted.accepted
  have short := writtenDecimal_short measure accepted
  have accepts : Accepts validator (strip (String.ofList (writtenDecimal d).chars)) (writtenDecimal d) := by
    rw [stripped]
    refine ⟨?_, by rwa [String.length_ofList], by rw [String.toList_ofList], fits⟩
    intro empty
    have none := congrArg String.toList empty
    rw [String.toList_ofList, DecimalText.chars] at none
    exact (writtenDecimal d).nonempty (by simp_all)
  rw [decimal_accepts room accepts, parts]

/-! ## Rows -/

/-- The cells in which a row is written. -/
def writtenCells (row : SalesRowV1) : List String :=
  [row.sourceRecordId, PopulateCalendar.isoformat row.transactionDate, row.productCode, row.territoryCode,
    row.hospitalCode.getD "", row.salesRepresentativeCode.getD "", String.ofList (writtenDecimal row.quantity).chars,
    String.ofList (writtenDecimal row.revenueAmount).chars, row.currencyCode]

theorem cellValues_zip {cells : List String} (full : salesRowsV1Columns.length ≤ cells.length) {column cell : String}
    (member : (column, cell) ∈ salesRowsV1Columns.zip cells) : cellValues salesRowsV1Columns cells column = cell := by
  have distinct : ((salesRowsV1Columns.zip cells).map Prod.fst).Nodup := by
    rw [List.map_fst_zip full]
    decide
  rw [cellValues, (Dict.get_ofPairs_eq_some distinct column cell).mpr member, Option.getD_some]

section Rows
variable {ucd : UnicodeDatabase} {row : SalesRowV1}

/-- Capital letters are letters in every version of the database. -/
def KnowsLetters (ucd : UnicodeDatabase) : Prop := ∀ c, 'A' ≤ c → c ≤ 'Z' → ucd.isOther c = false

theorem currency_accepted (letters : KnowsLetters ucd) (accepted : RowAccepted ucd row) :
    CodeAccepted ucd 3 row.currencyCode ∧ isascii row.currencyCode = true := by
  have pattern := accepted.currencyCode
  simp only [currencyPattern, Bool.and_eq_true, decide_eq_true_eq, List.all_eq_true] at pattern
  obtain ⟨size, capital⟩ := pattern
  have small : ∀ c ∈ row.currencyCode.toList, c.toNat < 128 ∧ isspace c = false ∧ c.toUpper = c := by
    intro c member
    obtain ⟨low, high⟩ := capital c member
    have first := Char.le_def.mp low
    have last := Char.le_def.mp high
    rw [UInt32.le_iff_toNat_le] at first last
    change 65 ≤ c.toNat at first
    change c.toNat ≤ 90 at last
    refine ⟨by omega, ?_, ?_⟩
    · simp only [isspace, whitespace, List.mem_cons, List.not_mem_nil, or_false, decide_eq_false_iff_not]
      omega
    · refine ascii_induction (P := fun c => 'A' ≤ c → c ≤ 'Z' → c.toUpper = c) (by decide) c (by omega) low high
  refine ⟨⟨⟨?_, ?_, size.le, ?_⟩, ?_⟩, ?_⟩
  · have visible := strip_visible (fun c member => (small c member).2.1)
    rw [String.ofList_toList] at visible
    rw [← visible]
    exact strip_stripped _
  · intro empty
    rw [empty] at size
    cases size
  · exact fun c member => letters c (capital c member).1 (capital c member).2
  · intro c member
    rw [ucd.upper_ascii c (small c member).1, (small c member).2.2]
  · exact List.all_eq_true.mpr (fun c member => decide_eq_true (small c member).1)

/-- What the row's cells are under the contract's columns. -/
structure Written (row : SalesRowV1) (values : String → String) : Prop where
  sourceRecordId : values "source_record_id" = row.sourceRecordId
  transactionDate : values "transaction_date" = PopulateCalendar.isoformat row.transactionDate
  productCode : values "product_code" = row.productCode
  territoryCode : values "territory_code" = row.territoryCode
  hospitalCode : values "hospital_code" = row.hospitalCode.getD ""
  salesRepresentativeCode : values "sales_representative_code" = row.salesRepresentativeCode.getD ""
  quantity : values "quantity" = String.ofList (writtenDecimal row.quantity).chars
  revenueAmount : values "revenue_amount" = String.ofList (writtenDecimal row.revenueAmount).chars
  currencyCode : values "currency_code" = row.currencyCode

theorem written_cells (row : SalesRowV1) : Written row (cellValues salesRowsV1Columns (writtenCells row)) := by
  have full : salesRowsV1Columns.length ≤ (writtenCells row).length := by simp [salesRowsV1Columns, writtenCells]
  constructor <;> exact cellValues_zip full (by simp [salesRowsV1Columns, writtenCells])

theorem date_said {date : Date} (supported : date.year ≤ 9998) (rowNumber : Nat) :
    Contracts.date (PopulateCalendar.isoformat date) rowNumber = (some date, []) := by
  have visible : ∀ c ∈ (PopulateCalendar.isoformat date).toList, isspace c = false := by
    intro c member
    simp only [isoformat_chars, List.mem_append, List.mem_cons] at member
    rcases member with year | rfl | month | rfl | day
    · exact digit_visible (padded_digits year)
    · decide
    · exact digit_visible (padded_digits month)
    · decide
    · exact digit_visible (padded_digits day)
  have same := strip_visible visible
  rw [String.ofList_toList] at same
  have nonempty : PopulateCalendar.isoformat date ≠ "" := by
    intro empty
    have none := isoformat_chars date
    rw [empty] at none
    simp at none
  unfold Contracts.date
  dsimp only
  rw [same, if_neg nonempty, isoDate_isoformat]
  dsimp only
  rw [if_neg (by omega)]

theorem readFields_said (letters : KnowsLetters ucd) (accepted : RowAccepted ucd row) (rowNumber : Nat)
    {values : String → String} (written : Written row values) : readFields ucd rowNumber values =
      (⟨some row.sourceRecordId, some row.transactionDate, some row.productCode, some row.territoryCode,
        row.hospitalCode, row.salesRepresentativeCode, some row.quantity, some row.revenueAmount,
        some row.currencyCode⟩, []) := by
  have currency := (currency_accepted letters accepted).1
  unfold readFields
  rw [written.sourceRecordId, written.transactionDate, written.productCode, written.territoryCode,
    written.hospitalCode, written.salesRepresentativeCode, written.quantity, written.revenueAmount,
    written.currencyCode, text_said accepted.sourceRecordId, date_said accepted.transactionDate,
    code_said accepted.productCode, code_said accepted.territoryCode, option_said accepted.hospitalCode,
    option_said accepted.salesRepresentativeCode, decimal_said (by simp) accepted.quantity,
    decimal_said (by simp) accepted.revenueAmount, strip_of_stripped currency.stripped, code_said currency]
  rfl

theorem rowIssues_said (letters : KnowsLetters ucd) (accepted : RowAccepted ucd row) (rowNumber : Nat)
    {values : String → String} (written : Written row values) {seen : List String}
    (unseen : row.sourceRecordId ∉ seen) : rowIssues ucd seen rowNumber values = [] := by
  obtain ⟨code, ascii⟩ := currency_accepted letters accepted
  unfold rowIssues
  rw [readFields_said letters accepted rowNumber written, written.currencyCode, strip_of_stripped code.stripped]
  simp [currencyIssues, ascii, accepted.currencyCode, quantityIssues, accepted.nonzero, measureIssues,
    accepted.signs, duplicateIssues, unseen]

theorem validate_said (letters : KnowsLetters ucd) (accepted : RowAccepted ucd row) (rowNumber : Nat)
    {values : String → String} (written : Written row values) {v : SalesRowsV1Validator}
    (room : v.rowCount < v.maxRows) (unseen : row.sourceRecordId ∉ v.sourceRecordIds) :
    v.validate ucd rowNumber values = .ok (⟨rowNumber, some row, []⟩,
      ⟨v.maxRows, v.rowCount + 1, v.sourceRecordIds ++ [row.sourceRecordId]⟩) := by
  have noted : v.noteRow = .ok { v with rowCount := v.rowCount + 1 } := by
    rw [SalesRowsV1Validator.noteRow, if_neg (by omega)]
  rw [SalesRowsV1Validator.validate, noted]
  dsimp only
  rw [rowIssues_said letters accepted rowNumber written unseen, readFields_said letters accepted rowNumber written]
  simp [FieldValues.row, rememberId, unseen]

theorem writtenCells_shown (accepted : RowAccepted ucd row) : isBlank (writtenCells row) = false := by
  have same := strip_of_stripped accepted.sourceRecordId.stripped
  have shown := accepted.sourceRecordId.nonempty
  simp [isBlank, writtenCells, same, shown]

/-! ## Files -/

/-- Each result is one of the rows, without an issue. -/
def Yields (outcome : List SalesRowValidationResult × RowsEnd) (rows : List SalesRowV1) : Prop :=
  outcome.1.map (fun result => (result.row, result.issues)) = rows.map (fun row => (some row, [])) ∧
    outcome.2 = .finished

theorem yieldRows_said (letters : KnowsLetters ucd) {rows : List SalesRowV1} {records : List Csv.Record}
    (cells : records.map Csv.Record.cells = rows.map writtenCells) {v : SalesRowsV1Validator}
    (positive : 0 < v.rowCount + rows.length) (room : v.rowCount + rows.length ≤ v.maxRows)
    (distinct : (v.sourceRecordIds ++ rows.map SalesRowV1.sourceRecordId).Nodup)
    (accepted : ∀ row ∈ rows, RowAccepted ucd row) :
    Yields (yieldRows ucd salesRowsV1Columns .endOfFile v records) rows := by
  induction rows generalizing records v with
  | nil =>
    rw [List.map_nil, List.map_eq_nil_iff] at cells
    subst cells
    rw [List.length_nil, Nat.add_zero] at positive
    refine ⟨rfl, ?_⟩
    rw [yieldRows, rowsEnd, if_neg (by omega)]
  | cons row rows ih =>
    cases records with
    | nil => cases cells
    | cons record records =>
      rw [List.map_cons, List.map_cons, List.cons.injEq] at cells
      obtain ⟨here, later⟩ := cells
      have good := accepted row List.mem_cons_self
      have unseen : row.sourceRecordId ∉ v.sourceRecordIds := by
        intro seen
        exact (List.nodup_append.mp distinct).2.2 _ seen _ List.mem_cons_self rfl
      have answered : recordResult ucd salesRowsV1Columns v record =
          .ok (⟨record.rowNumber, some row, []⟩,
            ⟨v.maxRows, v.rowCount + 1, v.sourceRecordIds ++ [row.sourceRecordId]⟩) := by
        have full : record.cells.length = salesRowsV1Columns.length := by
          rw [here]
          rfl
        rw [recordResult, if_neg (by simp [full]), here]
        exact validate_said letters good record.rowNumber (written_cells row)
          (by rw [List.length_cons] at room; omega) unseen
      rw [yieldRows, here, writtenCells_shown good, if_neg Bool.false_ne_true, answered]
      dsimp only
      obtain ⟨said, finished⟩ := @ih records later
        ⟨v.maxRows, v.rowCount + 1, v.sourceRecordIds ++ [row.sourceRecordId]⟩ (by dsimp only; omega)
        (by rw [List.length_cons] at room; dsimp only; omega)
        (by simpa [List.append_assoc] using distinct)
        (fun other member => accepted other (List.mem_cons_of_mem row member))
      exact ⟨by rw [List.map_cons, List.map_cons, said], finished⟩

/-- The lists of rows that a file can express. -/
structure Expressible (ucd : UnicodeDatabase) (maxRows : Nat) (rows : List SalesRowV1) : Prop where
  nonempty : rows ≠ []
  limit : rows.length ≤ maxRows
  distinct : (rows.map SalesRowV1.sourceRecordId).Nodup
  accepted : ∀ row ∈ rows, RowAccepted ucd row

/-- The file of the rows, as `csv.writer` writes it and `encode("utf-8")` encodes it. -/
def writtenFile (rows : List SalesRowV1) : List UInt8 :=
  encode (Csv.writerows (salesRowsV1Columns :: rows.map writtenCells))

theorem writtenCells_short (accepted : RowAccepted ucd row) : ∀ cell ∈ writtenCells row,
    cell.length ≤ Csv.fieldSizeLimit := by
  have limit : Csv.fieldSizeLimit = 131072 := rfl
  have coded : ∀ {maxLength value}, TextAccepted ucd maxLength value → maxLength ≤ 255 →
      value.length ≤ Csv.fieldSizeLimit := by
    intro maxLength value said small
    have := said.length
    omega
  have optional : ∀ {code : Option String}, (∀ value ∈ code, CodeAccepted ucd 64 value) →
      (code.getD "").length ≤ Csv.fieldSizeLimit := by
    intro code said
    cases code with
    | none => exact Nat.zero_le _
    | some value => exact coded (said value rfl).toTextAccepted (by decide)
  have dated : (PopulateCalendar.isoformat row.transactionDate).length ≤ Csv.fieldSizeLimit := by
    obtain ⟨⟨_, year⟩, ⟨_, month⟩, _, day⟩ := row.transactionDate.valid
    have days := daysInMonth_small row.transactionDate.year row.transactionDate.month
    have size := congrArg List.length (isoformat_chars row.transactionDate)
    rw [String.length_toList] at size
    simp only [List.length_append, List.length_cons, padded_fixed (by decide : 0 < 4) (by omega :
      row.transactionDate.year < 10 ^ 4), padded_fixed (by decide : 0 < 2) (by omega :
      row.transactionDate.month < 10 ^ 2), padded_fixed (by decide : 0 < 2) (by omega :
      row.transactionDate.day < 10 ^ 2)] at size
    omega
  have measured : ∀ {validator : DecimalValidator} {d : Decimal}, validator ∈ [quantityValidator, revenueValidator] →
      DecimalAccepted validator d → (String.ofList (writtenDecimal d).chars).length ≤ Csv.fieldSizeLimit := by
    intro validator d measure said
    have := writtenDecimal_short measure said
    rw [String.length_ofList]
    omega
  have currency : row.currencyCode.length ≤ Csv.fieldSizeLimit := by
    have pattern := accepted.currencyCode
    simp only [currencyPattern, Bool.and_eq_true, decide_eq_true_eq] at pattern
    omega
  simp only [writtenCells, List.forall_mem_cons, List.not_mem_nil, false_imp_iff, implies_true, and_true]
  exact ⟨coded accepted.sourceRecordId le_rfl, dated, coded accepted.productCode.toTextAccepted (by decide),
    coded accepted.territoryCode.toTextAccepted (by decide), optional accepted.hospitalCode,
    optional accepted.salesRepresentativeCode, measured (by simp) accepted.quantity,
    measured (by simp) accepted.revenueAmount, currency⟩

theorem writtenFile_yields (letters : KnowsLetters ucd) {maxRows : Nat} {rows : List SalesRowV1}
    (expressible : Expressible ucd maxRows rows) (chunks : Inspection.Chunks (writtenFile rows)) :
    Yields (iterSalesRowsV1Csv ucd (Codecs.textIOWrapper chunks.pieces) maxRows) rows := by
  have positive := List.length_pos_of_ne_nil expressible.nonempty
  have limit := expressible.limit
  have short : ∀ row ∈ salesRowsV1Columns :: rows.map writtenCells, ∀ cell ∈ row,
      cell.length ≤ Csv.fieldSizeLimit := by
    intro cells member
    rcases List.mem_cons.mp member with rfl | inside
    · intro cell listed
      rw [← String.length_toList]
      exact (columns_short cell listed).le
    · obtain ⟨row, origin, rfl⟩ := List.mem_map.mp inside
      exact writtenCells_short (expressible.accepted row origin)
  have read : Csv.records (Codecs.textIOWrapper chunks.pieces) = _ :=
    Csv.written_reads short chunks
  rw [iterSalesRowsV1Csv, read, Csv.writtenRecords]
  dsimp only
  rw [validateSalesHeaders_contract (List.Perm.refl salesRowsV1Columns)]
  dsimp only
  rw [if_neg (by omega)]
  exact yieldRows_said letters (Csv.writtenRecords_cells _ _) (by dsimp only; omega) (by dsimp only; omega)
    (by simpa using expressible.distinct) expressible.accepted

/-- A file without an error has as many rows as it may have, and at least one. -/
theorem finished_bounds {stream : Csv.TextStream} {maxRows : Nat}
    (finished : (iterSalesRowsV1Csv ucd stream maxRows).2 = .finished) :
    1 ≤ (iterSalesRowsV1Csv ucd stream maxRows).1.length ∧
      (iterSalesRowsV1Csv ucd stream maxRows).1.length ≤ maxRows := by
  cases read : Csv.records stream with
  | mk records ending =>
    cases records with
    | nil =>
      rw [iterSalesRowsV1Csv, read] at finished
      cases ending <;> cases finished
    | cons header rest =>
      by_cases positive : 1 ≤ maxRows
      · by_cases proper : IsContractHeader (headersOf (header :: rest))
        · have outcome := outcome_rows ucd positive read proper
          obtain ⟨_, _, some, within⟩ := outcome.finished.mp finished
          rw [outcome.yielded ⟨List.cons_ne_nil _ _, proper⟩]
          omega
        · exact absurd ((outcome_refused ucd maxRows read proper).finished.mp finished).2.1.2 proper
      · rw [iterSalesRowsV1Csv, read] at finished
        dsimp only at finished
        split at finished
        · cases finished
        · rw [if_pos (by omega)] at finished
          cases finished

/-- The rows that a file of the contract can express, without an issue and in this order, are exactly
those that satisfy its rules, have distinct ids, and are at least one and not too many. -/
theorem contract_image (ucd : UnicodeDatabase) (letters : KnowsLetters ucd) (maxRows : Nat) (rows : List SalesRowV1) :
    (∃ file : List UInt8, ∀ chunks : Inspection.Chunks file,
      Yields (iterSalesRowsV1Csv ucd (Codecs.textIOWrapper chunks.pieces) maxRows) rows) ↔
    Expressible ucd maxRows rows := by
  constructor
  · rintro ⟨file, yields⟩
    obtain ⟨said, finished⟩ := yields ⟨[file], by simp⟩
    have facts := iterSalesRowsV1Csv_facts ucd (Codecs.textIOWrapper [file]) maxRows
    obtain ⟨some, within⟩ := finished_bounds finished
    have size := congrArg List.length said
    rw [List.length_map, List.length_map] at size
    have results : (iterSalesRowsV1Csv ucd (Codecs.textIOWrapper [file]) maxRows).1.map
        SalesRowValidationResult.row = rows.map Option.some := by
      have firsts := congrArg (List.map Prod.fst) said
      simpa [Function.comp_def] using firsts
    refine ⟨?_, by omega, ?_, ?_⟩
    · apply List.ne_nil_of_length_pos
      omega
    · have same : acceptedIds (iterSalesRowsV1Csv ucd (Codecs.textIOWrapper [file]) maxRows).1 =
          (rows.map Option.some).filterMap (fun row => row.map SalesRowV1.sourceRecordId) := by
        rw [← results, List.filterMap_map]
        rfl
      have ids := facts.ids
      rw [same] at ids
      simpa [List.filterMap_map, Function.comp_def] using ids
    · intro row member
      have listed : Option.some row ∈ rows.map Option.some := List.mem_map_of_mem member
      rw [← results] at listed
      obtain ⟨result, inside, same⟩ := List.mem_map.mp listed
      cases facts.judged result inside with
      | accepted accepted =>
        obtain rfl := Option.some.inj same
        exact accepted
      | refused nonempty from_row => cases same
      | miscounted expected found => cases same
  · exact fun expressible => ⟨writtenFile rows, writtenFile_yields letters expressible⟩

end Rows

namespace Sample

theorem asciiLetters : KnowsLetters asciiDatabase := by
  intro c low high
  rw [Char.le_def, UInt32.le_iff_toNat_le] at low high
  change 65 ≤ c.toNat at low
  change c.toNat ≤ 90 at high
  simp only [asciiDatabase, Bool.or_eq_false_iff, decide_eq_false_iff_not]
  omega

/-- A row whose id has to be quoted. -/
def quotedRow : SalesRowV1 where
  sourceRecordId := "A,\"1\""
  transactionDate := ⟨2026, 1, 5, by decide⟩
  productCode := "PROD"
  territoryCode := "TERR"
  hospitalCode := none
  salesRepresentativeCode := some "REP"
  quantity := ⟨true, 2500, -3⟩
  revenueAmount := ⟨true, 3125000, -4⟩
  currencyCode := "INR"

theorem coded_ascii {maxLength : Nat} {value : String} (known : strip value = value ∧ value ≠ "" ∧
    value.length ≤ maxLength ∧ value.toList.all (fun c => !asciiDatabase.isOther c) = true ∧
    value.toList.all (fun c => asciiDatabase.upper c = [c]) = true) : CodeAccepted asciiDatabase maxLength value := by
  obtain ⟨stripped, nonempty, length, printable, uppercase⟩ := known
  refine ⟨⟨stripped ▸ strip_stripped value, nonempty, length, ?_⟩, ?_⟩
  · exact fun c member => by simpa using List.all_eq_true.mp printable c member
  · exact fun c member => of_decide_eq_true (List.all_eq_true.mp uppercase c member)

theorem quotedRow_accepted : RowAccepted asciiDatabase quotedRow where
  sourceRecordId := (coded_ascii (by decide)).toTextAccepted
  transactionDate := by decide
  productCode := coded_ascii (by decide)
  territoryCode := coded_ascii (by decide)
  hospitalCode := by simp [quotedRow]
  salesRepresentativeCode := by
    simp only [quotedRow, Option.mem_some_iff, forall_eq']
    exact coded_ascii (by decide)
  quantity := ⟨by decide, by decide⟩
  revenueAmount := ⟨by decide, by decide⟩
  currencyCode := by decide
  nonzero := by decide
  signs := by decide

/-- A row of a hospital, without a representative and with positive measures. -/
def hospitalRow : SalesRowV1 where
  sourceRecordId := "A-2"
  transactionDate := ⟨2024, 2, 29, by decide⟩
  productCode := "PROD"
  territoryCode := "TERR"
  hospitalCode := some "HOSP"
  salesRepresentativeCode := none
  quantity := ⟨false, 15, 0⟩
  revenueAmount := ⟨false, 12345, -2⟩
  currencyCode := "INR"

theorem hospitalRow_accepted : RowAccepted asciiDatabase hospitalRow where
  sourceRecordId := (coded_ascii (by decide)).toTextAccepted
  transactionDate := by decide
  productCode := coded_ascii (by decide)
  territoryCode := coded_ascii (by decide)
  hospitalCode := by
    simp only [hospitalRow, Option.mem_some_iff, forall_eq']
    exact coded_ascii (by decide)
  salesRepresentativeCode := by simp [hospitalRow]
  quantity := ⟨by decide, by decide⟩
  revenueAmount := ⟨by decide, by decide⟩
  currencyCode := by decide
  nonzero := by decide
  signs := by decide

end Sample

theorem contract_image_sample : ∃ file : List UInt8, ∀ chunks : Inspection.Chunks file,
    Yields (iterSalesRowsV1Csv asciiDatabase (Codecs.textIOWrapper chunks.pieces) 3)
      [Sample.quotedRow, Sample.hospitalRow, { Sample.hospitalRow with sourceRecordId := "A-3" }] := by
  refine (contract_image asciiDatabase Sample.asciiLetters 3
    [Sample.quotedRow, Sample.hospitalRow, { Sample.hospitalRow with sourceRecordId := "A-3" }]).mpr
      ⟨by simp, le_rfl, by decide, ?_⟩
  have third : RowAccepted asciiDatabase { Sample.hospitalRow with sourceRecordId := "A-3" } :=
    { Sample.hospitalRow_accepted with
      sourceRecordId := (Sample.coded_ascii (by decide)).toTextAccepted }
  simpa using ⟨Sample.quotedRow_accepted, Sample.hospitalRow_accepted, third⟩

end PharmaIntel.Contracts
