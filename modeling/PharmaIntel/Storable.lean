import Mathlib
import PharmaIntel.Staging
import PharmaIntel.Constraints
import PharmaIntel.Publication

/-! Every row the contract accepts is storable: the staged rows of a file meet every
constraint of their table, and the facts built from them every constraint of theirs. -/

namespace PharmaIntel.Staging
open PharmaIntel.Base PharmaIntel.PyText PharmaIntel.Contracts PharmaIntel.Models
  PharmaIntel.Constraints PharmaIntel.Validation PharmaIntel.Publication

/-! ## Numbers -/

/-- The rational a decimal denotes. -/
def decimalValue (d : Decimal) : ℚ :=
  (if d.sign then -1 else 1) * (d.coefficient : ℚ) * (10 : ℚ) ^ d.exponent

def numericValue {places : Nat} (value : Numeric places) : ℚ := value.units / 10 ^ places

/-- With `decimals` of its digits after the point, a number has at least that many. -/
theorem digitsAndDecimals_written {d : Decimal} {decimals : Nat} (written : d.exponent = -(decimals : Int)) :
    digitsAndDecimals d = (max (Nat.toDigits 10 d.coefficient).length decimals, decimals) := by
  have size : d.exponent.natAbs = decimals := by omega
  unfold digitsAndDecimals
  dsimp only
  rw [size]
  by_cases whole : 0 ≤ d.exponent
  · obtain rfl : decimals = 0 := by omega
    have none : d.exponent.toNat = 0 := by omega
    rw [if_pos whole, none, Nat.add_zero, ite_self, Nat.max_zero]
  · rw [if_neg whole]
    by_cases short : (Nat.toDigits 10 d.coefficient).length < decimals
    · rw [if_pos short, max_eq_right short.le]
    · rw [if_neg short, max_eq_left (by omega)]

/-- An accepted decimal has few enough decimals and whole digits to be stored as it is. -/
theorem accepted_scaled {validator : DecimalValidator} {d : Decimal}
    (places : validator.decimalPlaces ≤ validator.maxDigits) (written : DecimalAccepted validator d) :
    ∃ decimals : Nat, d.exponent = -(decimals : Int) ∧ decimals ≤ validator.decimalPlaces ∧
      d.coefficient * 10 ^ (validator.decimalPlaces - decimals) < 10 ^ validator.maxDigits := by
  obtain ⟨accepted, nonpositive⟩ := written
  obtain ⟨decimals, same⟩ : ∃ decimals : Nat, d.exponent = -(decimals : Int) := ⟨d.exponent.natAbs, by omega⟩
  rw [DecimalValidator.accepts, digitsAndDecimals_written same] at accepted
  simp only [Bool.and_eq_true, decide_eq_true_eq] at accepted
  obtain ⟨⟨digits, few⟩, whole⟩ := accepted
  refine ⟨decimals, same, few, ?_⟩
  have small : d.coefficient < 10 ^ max (Nat.toDigits 10 d.coefficient).length decimals :=
    (Nat.length_toDigits_le_iff (by decide) (Nat.length_toDigits_pos.trans_le (le_max_left _ _))).mp
      (le_max_left _ _)
  calc d.coefficient * 10 ^ (validator.decimalPlaces - decimals)
      < 10 ^ max (Nat.toDigits 10 d.coefficient).length decimals *
          10 ^ (validator.decimalPlaces - decimals) :=
        Nat.mul_lt_mul_of_pos_right small (by positivity)
    _ = 10 ^ (max (Nat.toDigits 10 d.coefficient).length decimals +
          (validator.decimalPlaces - decimals)) := (pow_add 10 _ _).symm
    _ ≤ 10 ^ validator.maxDigits := Nat.pow_le_pow_right (by decide) (by omega)

/-- What is stored of a decimal that has no more decimals than the column. -/
theorem toNumeric_units {places decimals : Nat} {d : Decimal} (written : d.exponent = -(decimals : Int))
    (few : decimals ≤ places) :
    (toNumeric places d).units =
      (if d.sign then -1 else 1) * ((d.coefficient * 10 ^ (places - decimals) : Nat) : Int) := by
  have shift : d.exponent + places = ((places - decimals : Nat) : Int) := by omega
  simp only [toNumeric, shift]
  rw [if_pos (Int.natCast_nonneg _), Int.toNat_natCast]
  cases d.sign <;> simp

/-- A decimal that was accepted is stored exactly, inside its column. -/
structure Stored (validator : DecimalValidator) (d : Decimal)
    (value : Numeric validator.decimalPlaces) : Prop where
  exact_value : numericValue value = decimalValue d
  fits : Fits validator.maxDigits value
  zero : value.units = 0 ↔ d.isZero = true
  positive : 0 < value.units ↔ d.isPositive = true
  negative : value.units < 0 ↔ d.isNegative = true

theorem accepted_stored {validator : DecimalValidator} {d : Decimal}
    (places : validator.decimalPlaces ≤ validator.maxDigits) (accepted : DecimalAccepted validator d) :
    Stored validator d (toNumeric validator.decimalPlaces d) := by
  obtain ⟨decimals, written, few, small⟩ := accepted_scaled places accepted
  have units := toNumeric_units written few
  have scale : (0 : Int) < 10 ^ (validator.decimalPlaces - decimals) := by positivity
  have zero : d.coefficient * 10 ^ (validator.decimalPlaces - decimals) = 0 ↔ d.coefficient = 0 := by
    simp
  refine ⟨?_, ?_, ?_, ?_, ?_⟩
  · rw [numericValue, decimalValue, units, written, zpow_neg, zpow_natCast, div_eq_iff (by positivity)]
    have split : (10 : ℚ) ^ validator.decimalPlaces =
        10 ^ (validator.decimalPlaces - decimals) * 10 ^ decimals := by
      rw [← pow_add, Nat.sub_add_cancel few]
    rw [split]
    push_cast
    field_simp
  · unfold Fits
    rw [units, Int.natAbs_mul, Int.natAbs_natCast]
    cases d.sign <;> simpa using small
  · rw [units, Decimal.isZero, decide_eq_true_eq, ← zero]
    cases d.sign <;> simp
  · rw [units, Decimal.isPositive]
    cases d.sign
    · simp; omega
    · simp
  · rw [units, Decimal.isNegative]
    cases d.sign
    · simp
    · simp; omega

/-! ## Texts -/

section Texts
variable {pg : PostgresText} {ucd : UnicodeDatabase} {maxLength : Nat} {value : String}

theorem text_encodable (accepted : TextAccepted ucd maxLength value) : Encodable value := by
  intro member
  have printable := accepted.printable _ member
  rw [ucd.other_nul] at printable
  exact absurd printable (by decide)

/-- The server sees no space where the interpreter sees neither space nor control. -/
theorem not_isSpace (agrees : pg.Agrees ucd) (accepted : TextAccepted ucd maxLength value) {c : Char}
    (member : c ∈ value.toList) (visible : isspace c = false) : pg.isSpace c = false := by
  by_contra space
  rcases agrees.isSpace_known c (by simpa using space) with known | other
  · simp [visible] at known
  · simp [accepted.printable c member] at other

theorem text_not_blank (agrees : pg.Agrees ucd) (accepted : TextAccepted ucd maxLength value) :
    pg.blank value = false := by
  obtain ⟨c, member, visible⟩ := exists_visible accepted.stripped accepted.nonempty
  rw [PostgresText.blank, List.all_eq_false]
  exact ⟨c, member, by rw [not_isSpace agrees accepted member visible]; decide⟩

theorem text_no_edge_space (agrees : pg.Agrees ucd) (accepted : TextAccepted ucd maxLength value) :
    pg.edgeSpace value = false := by
  rw [PostgresText.edgeSpace, Bool.or_eq_false_iff, Option.any_eq_false, Option.any_eq_false]
  refine ⟨?_, ?_⟩
  · intro c first
    rw [not_isSpace agrees accepted (List.mem_of_mem_head? first) (accepted.stripped.head c first)]
  · intro c last
    rw [not_isSpace agrees accepted (List.mem_of_mem_getLast? last) (accepted.stripped.last c last)]

theorem code_required (agrees : pg.Agrees ucd) (accepted : CodeAccepted ucd 64 value) :
    RequiredCode pg value where
  uppercase := by
    have fixed : value.toList.map pg.upper = value.toList := by
      rw [List.map_congr_left (fun c member => agrees.upper_fixed c (accepted.uppercase c member)),
        List.map_id']
    rw [PostgresText.upperText, fixed, String.ofList_toList]
  trimmed := trim_of_stripped accepted.stripped
  length := accepted.length
  encodable := text_encodable accepted.toTextAccepted

theorem optional_required (agrees : pg.Agrees ucd) {code : Option String}
    (accepted : ∀ value ∈ code, CodeAccepted ucd 64 value) : RequiredCode pg (code.getD "") := by
  cases code with
  | none => exact ⟨rfl, trim_empty.symm, by decide, by simp [Constraints.Encodable]⟩
  | some value => exact code_required agrees (accepted value rfl)

end Texts

/-! ## Rows and facts -/

section Rows
variable {pg : PostgresText} {ucd : UnicodeDatabase} {rowNumber : Nat} {row : SalesRowV1}

theorem accepted_quantity (accepted : RowAccepted ucd row) :
    Stored quantityValidator row.quantity (toNumeric 3 row.quantity) :=
  accepted_stored (by decide) accepted.quantity

theorem accepted_revenue (accepted : RowAccepted ucd row) :
    Stored revenueValidator row.revenueAmount (toNumeric 4 row.revenueAmount) :=
  accepted_stored (by decide) accepted.revenueAmount

theorem accepted_signs (accepted : RowAccepted ucd row) :
    (toNumeric 3 row.quantity).units ≠ 0 ∧
      measureSigns (toNumeric 3 row.quantity) (toNumeric 4 row.revenueAmount) := by
  have quantity := accepted_quantity accepted
  have revenue := accepted_revenue accepted
  have signs := accepted.signs
  have nonzero : (toNumeric 3 row.quantity).units ≠ 0 := by
    rw [ne_eq, quantity.zero, accepted.nonzero]
    decide
  refine ⟨nonzero, ?_⟩
  rw [signMismatch, Bool.or_eq_false_iff, Bool.and_eq_false_iff, Bool.and_eq_false_iff] at signs
  simp only [Bool.eq_false_iff, ne_eq, ← quantity.positive, ← quantity.negative, ← revenue.positive,
    ← revenue.negative] at signs
  unfold measureSigns
  omega

theorem stagedRow_valid (agrees : pg.Agrees ucd) (accepted : RowAccepted ucd row) (first : 2 ≤ rowNumber)
    (last : rowNumber ≤ maxBigInteger) : StagedRowValid pg (stagedRow rowNumber row) where
  rowNumber_limit := last
  rowNumber_valid := first
  sourceId_limit := accepted.sourceRecordId.length
  sourceId_encodable := text_encodable accepted.sourceRecordId
  sourceId_valid := ⟨trim_of_stripped accepted.sourceRecordId.stripped, accepted.sourceRecordId.nonempty⟩
  productCode_valid := ⟨code_required agrees accepted.productCode, accepted.productCode.nonempty⟩
  territoryCode_valid := ⟨code_required agrees accepted.territoryCode, accepted.territoryCode.nonempty⟩
  hospitalCode_valid := optional_required agrees accepted.hospitalCode
  representativeCode_valid := optional_required agrees accepted.salesRepresentativeCode
  quantity_limit := (accepted_quantity accepted).fits
  revenue_limit := (accepted_revenue accepted).fits
  currency_valid := accepted.currencyCode
  measures_valid := accepted_signs accepted
  result_consistent := Or.inl ⟨rfl, rfl⟩

/-- The fact of an accepted row, whatever its codes resolve to. -/
theorem newFact_valid (agrees : pg.Agrees ucd) (accepted : RowAccepted ucd row) {sourceSystem : String}
    (source : SourceSystemValid pg sourceSystem) (refs : References) {values : SalesValues}
    (built : newFact sourceSystem (resolvedRow (stagedRow rowNumber row) refs) = some values) :
    FactValid pg values := by
  have bounds : ∀ {limit places : Nat} {value : Numeric places}, Fits limit value →
      -(10 ^ limit : Int) < value.units ∧ value.units < 10 ^ limit := by
    intro limit places value fits
    unfold Fits at fits
    have cast : ((10 ^ limit : Nat) : Int) = 10 ^ limit := by push_cast; rfl
    omega
  unfold newFact at built
  split at built
  · injection built with same
    rw [← same]
    exact
      { source_valid := source
        recordId_limit := accepted.sourceRecordId.length
        recordId_encodable := text_encodable accepted.sourceRecordId
        recordId_not_blank := text_not_blank agrees accepted.sourceRecordId
        recordId_trimmed := trim_of_stripped accepted.sourceRecordId.stripped
        record_no_edge_space := text_no_edge_space agrees accepted.sourceRecordId
        record_python_trimmed := by
          have stripped := strip_of_stripped accepted.sourceRecordId.stripped
          simp [hasPythonEdgeWhitespace, resolvedRow, stagedRow, stripped]
        currency_format := accepted.currencyCode
        quantity_nonzero := (accepted_signs accepted).1
        quantity_limit := (accepted_quantity accepted).fits
        quantity_finite := bounds (accepted_quantity accepted).fits
        revenue_limit := (accepted_revenue accepted).fits
        revenue_finite := bounds (accepted_revenue accepted).fits
        measure_signs := (accepted_signs accepted).2 }
  · cases built

end Rows

/-! ## The whole file -/

theorem judged_row {ucd : UnicodeDatabase} {width : Nat} {result : SalesRowValidationResult}
    (judged : Judged ucd width result) {row : SalesRowV1} (found : result.row = some row) :
    RowAccepted ucd row := by
  cases judged with
  | accepted accepted => exact Option.some.inj found ▸ accepted
  | refused nonempty from_row => cases found
  | miscounted expected found_width => cases found

theorem acceptedRows_numbers (results : List SalesRowValidationResult) :
    ((acceptedRows results).map SalesImportStagedRow.rowNumber).Sublist
      (results.map SalesRowValidationResult.rowNumber) := by
  induction results with
  | nil => exact List.Sublist.refl _
  | cons result rest ih =>
    rw [acceptedRows, List.filterMap_cons]
    cases result.row with
    | none => exact ih.cons _
    | some row => exact ih.cons_cons _

theorem acceptedRows_ids (results : List SalesRowValidationResult) :
    (acceptedRows results).map SalesImportStagedRow.sourceRecordId = acceptedIds results := by
  rw [acceptedRows, acceptedIds, List.map_filterMap]
  congr 1
  funext result
  rw [Option.map_map]
  rfl

section Accepted
variable (ucd : UnicodeDatabase) {text : String} (maxRows : Nat)

theorem acceptedRows_distinct :
    ((acceptedRows (iterSalesRowsV1Csv ucd (Csv.textStream text) maxRows).1).map
      SalesImportStagedRow.rowNumber).Nodup :=
  ((iterSalesRowsV1Csv_facts ucd (Csv.textStream text) maxRows).increasing.imp (fun less => less.ne)).sublist
    (acceptedRows_numbers _)

theorem acceptedRows_origin (size : text.length ≤ maxBigInteger) :
    ∀ staged ∈ acceptedRows (iterSalesRowsV1Csv ucd (Csv.textStream text) maxRows).1,
      ∃ rowNumber row, staged = stagedRow rowNumber row ∧ RowAccepted ucd row ∧ 2 ≤ rowNumber ∧
        rowNumber ≤ maxBigInteger := by
  have facts := iterSalesRowsV1Csv_facts ucd (Csv.textStream text) maxRows
  have lines := (Csv.textStream_size text).2
  intro staged member
  obtain ⟨result, inside, same⟩ := List.mem_filterMap.mp member
  obtain ⟨row, found, rfl⟩ := Option.map_eq_some_iff.mp same
  obtain ⟨first, last⟩ := facts.rowNumber_bounds result inside
  exact ⟨result.rowNumber, row, rfl, judged_row (facts.judged result inside) found, first, by omega⟩

end Accepted

/-- What holds of the staged rows of a file, and of the facts built from them. -/
structure Storable (pg : PostgresText) (rows : List SalesImportStagedRow) : Prop where
  unique : StagedRowsUnique rows
  valid : ∀ row ∈ rows, StagedRowValid pg row
  supported : ∀ row ∈ rows, 1 ≤ row.transactionDate.year ∧ row.transactionDate.year ≤ 9998
  facts : ∀ row ∈ rows, ∀ (refs : References) (sourceSystem : String) (values : SalesValues),
    SourceSystemValid pg sourceSystem → newFact sourceSystem (resolvedRow row refs) = some values →
      FactValid pg values

/-- The rows accepted from a text no longer than a stored file can be. -/
theorem accepted_storable (pg : PostgresText) (ucd : UnicodeDatabase) (agrees : pg.Agrees ucd)
    (text : String) (size : text.length ≤ maxBigInteger) (maxRows : Nat) :
    Storable pg (acceptedRows (iterSalesRowsV1Csv ucd (Csv.textStream text) maxRows).1) ∧
      (∀ settings : Settings, settings.maxRows = maxRows →
        (batches settings ucd (Csv.textStream text)).flatMap ParseBatch.stagedRows =
          acceptedRows (iterSalesRowsV1Csv ucd (Csv.textStream text) maxRows).1) ∧
      ∀ result ∈ (iterSalesRowsV1Csv ucd (Csv.textStream text) maxRows).1, ∀ row ∈ result.row,
        numericValue (toNumeric 3 row.quantity) = decimalValue row.quantity ∧
          numericValue (toNumeric 4 row.revenueAmount) = decimalValue row.revenueAmount := by
  have facts := iterSalesRowsV1Csv_facts ucd (Csv.textStream text) maxRows
  have origin := acceptedRows_origin ucd maxRows size
  refine ⟨⟨⟨?_, ?_⟩, ?_, ?_, ?_⟩, ?_, ?_⟩
  · exact acceptedRows_distinct ucd maxRows
  · rw [acceptedRows_ids]
    exact facts.ids
  · intro staged member
    obtain ⟨rowNumber, row, rfl, accepted, first, last⟩ := origin staged member
    exact stagedRow_valid agrees accepted first last
  · intro staged member
    obtain ⟨rowNumber, row, rfl, accepted, _⟩ := origin staged member
    exact ⟨row.transactionDate.valid.1.1, accepted.transactionDate⟩
  · intro staged member refs sourceSystem values source built
    obtain ⟨rowNumber, row, rfl, accepted, _⟩ := origin staged member
    exact newFact_valid agrees accepted source refs built
  · rintro settings rfl
    exact batches_rows settings ucd (Csv.textStream text)
  · intro result inside row found
    have accepted := judged_row (facts.judged result inside) found
    exact ⟨(accepted_quantity accepted).exact_value, (accepted_revenue accepted).exact_value⟩

namespace Sample

/-- A server that knows the case of ASCII letters only. -/
def asciiServer : PostgresText := ⟨fun c => if c.toNat < 128 then c.toUpper else c, isspace⟩

theorem asciiServer_agrees : asciiServer.Agrees asciiDatabase where
  upper_fixed := fun _ fixed => List.singleton_inj.mp fixed
  isSpace_known := fun _ space => Or.inl space

def text : String :=
  "source_record_id,transaction_date,product_code,territory_code,hospital_code," ++
    "sales_representative_code,quantity,revenue_amount,currency_code\n" ++
    " A-1 ,2026-01-15,prod,TERR,,,-0002.50,-0.0,inr\n"

end Sample

/-- A return with leading zeros, edge spaces and lower-case codes. -/
theorem accepted_storable_sample :
    (acceptedRows (iterSalesRowsV1Csv asciiDatabase (Csv.textStream Sample.text) 10).1).map
        (fun row => (row.sourceRecordId, row.productCode, row.quantity.units, row.currencyCode)) =
      [("A-1", "PROD", -2500, "INR")] ∧
    Storable Sample.asciiServer
      (acceptedRows (iterSalesRowsV1Csv asciiDatabase (Csv.textStream Sample.text) 10).1) :=
  ⟨by decide +kernel, (accepted_storable Sample.asciiServer asciiDatabase Sample.asciiServer_agrees Sample.text
    (by decide +kernel) 10).1⟩

end PharmaIntel.Staging
