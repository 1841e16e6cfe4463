import Mathlib
import PharmaIntel.Base.Dict
import PharmaIntel.Base.Gregorian
import PharmaIntel.PyText
import PharmaIntel.Csv

/-! The versioned, database-independent sales row contract: header check, typed
field rules, and the generator that turns a CSV stream into one validation result
for each non-blank record, possibly ended by a file-level error. -/

namespace PharmaIntel.Contracts
open PharmaIntel.Base PharmaIntel.PyText

def salesRowsV1Columns : List String :=
  ["source_record_id", "transaction_date", "product_code", "territory_code", "hospital_code",
    "sales_representative_code", "quantity", "revenue_amount", "currency_code"]

inductive SalesContractIssueCode where
  | csvMalformed
  | schemaMissingColumn
  | schemaDuplicateColumn
  | schemaUnknownColumn
  | fileNoDataRows
  | fileRowLimitExceeded
  | rowColumnCountMismatch
  | requiredValueMissing
  | valueTooLong
  | invalidControlCharacter
  | dateInvalidFormat
  | decimalInvalidFormat
  | decimalPrecisionExceeded
  | quantityZero
  | measureSignMismatch
  | currencyCodeInvalid
  | duplicateSourceRecordId
  deriving DecidableEq, Repr

/-- `str(code)`. -/
def SalesContractIssueCode.value : SalesContractIssueCode → String
  | .csvMalformed => "CSV_MALFORMED"
  | .schemaMissingColumn => "SCHEMA_MISSING_COLUMN"
  | .schemaDuplicateColumn => "SCHEMA_DUPLICATE_COLUMN"
  | .schemaUnknownColumn => "SCHEMA_UNKNOWN_COLUMN"
  | .fileNoDataRows => "FILE_NO_DATA_ROWS"
  | .fileRowLimitExceeded => "FILE_ROW_LIMIT_EXCEEDED"
  | .rowColumnCountMismatch => "ROW_COLUMN_COUNT_MISMATCH"
  | .requiredValueMissing => "REQUIRED_VALUE_MISSING"
  | .valueTooLong => "VALUE_TOO_LONG"
  | .invalidControlCharacter => "INVALID_CONTROL_CHARACTER"
  | .dateInvalidFormat => "DATE_INVALID_FORMAT"
  | .decimalInvalidFormat => "DECIMAL_INVALID_FORMAT"
  | .decimalPrecisionExceeded => "DECIMAL_PRECISION_EXCEEDED"
  | .quantityZero => "QUANTITY_ZERO"
  | .measureSignMismatch => "MEASURE_SIGN_MISMATCH"
  | .currencyCodeInvalid => "CURRENCY_CODE_INVALID"
  | .duplicateSourceRecordId => "DUPLICATE_SOURCE_RECORD_ID"

structure SalesFileContractError where
  code : SalesContractIssueCode
  message : String
  deriving DecidableEq, Repr

structure SalesRowIssue where
  rowNumber : Option Nat
  column : String
  code : SalesContractIssueCode
  message : String
  deriving DecidableEq, Repr

/-- A `decimal.Decimal` with the value `(-1)^sign * coefficient * 10^exponent`. -/
structure Decimal where
  sign : Bool
  coefficient : Nat
  exponent : Int
  deriving DecidableEq, Repr

/-- Comparisons with zero; minus zero equals zero. -/
def Decimal.isZero (d : Decimal) : Bool := d.coefficient = 0
def Decimal.isPositive (d : Decimal) : Bool := d.coefficient ≠ 0 && !d.sign
def Decimal.isNegative (d : Decimal) : Bool := d.coefficient ≠ 0 && d.sign

structure SalesRowV1 where
  sourceRecordId : String
  transactionDate : Date
  productCode : String
  territoryCode : String
  hospitalCode : Option String
  salesRepresentativeCode : Option String
  quantity : Decimal
  revenueAmount : Decimal
  currencyCode : String

structure SalesRowValidationResult where
  rowNumber : Nat
  row : Option SalesRowV1
  issues : List SalesRowIssue

def SalesRowValidationResult.isValid (result : SalesRowValidationResult) : Bool :=
  result.row.isSome && result.issues.isEmpty

/-! ## Headers -/

/-- `", ".join(sorted(set(names)))`. -/
def joinedNames (names : List String) : String :=
  ", ".intercalate (names.dedup.insertionSort (· ≤ ·))

def normalizeHeaders : List String → List String
  | [] => []
  | first :: rest => removeprefix first '\ufeff' :: rest

def duplicateHeaders (headers : List String) : List String :=
  headers.filter (fun header => decide (1 < headers.count header))

def missingHeaders (headers : List String) : List String :=
  salesRowsV1Columns.filter (fun column => decide (column ∉ headers))

def unknownHeaders (headers : List String) : List String :=
  headers.filter (fun header => decide (header ∉ salesRowsV1Columns))

def validateSalesHeaders (rawHeaders : List String) : Except SalesFileContractError (List String) :=
  let headers := normalizeHeaders rawHeaders
  if duplicateHeaders headers ≠ [] then
    .error ⟨.schemaDuplicateColumn,
      "Duplicate sales columns: " ++ joinedNames (duplicateHeaders headers) ++ "."⟩
  else if missingHeaders headers ≠ [] then
    .error ⟨.schemaMissingColumn,
      "Missing required sales columns: " ++ joinedNames (missingHeaders headers) ++ "."⟩
  else if unknownHeaders headers ≠ [] then
    .error ⟨.schemaUnknownColumn,
      "Unknown sales columns: " ++ joinedNames (unknownHeaders headers) ++ "."⟩
  else .ok headers

/-! ## Fields -/

def issue (rowNumber : Nat) (column : String) (code : SalesContractIssueCode) (message : String) :
    SalesRowIssue := ⟨some rowNumber, column, code, message⟩

def containsControlCharacter (ucd : UnicodeDatabase) (value : String) : Bool :=
  value.toList.any ucd.isOther

/-- `_text` on a value that is not blank, already upper-cased where asked for. -/
def textIssues (ucd : UnicodeDatabase) (value : String) (rowNumber : Nat) (column : String)
    (maxLength : Nat) : List SalesRowIssue :=
  (if maxLength < value.length then
    [issue rowNumber column .valueTooLong
      ("The value may contain at most " ++ toString maxLength ++ " characters.")]
  else []) ++
  (if containsControlCharacter ucd value then
    [issue rowNumber column .invalidControlCharacter "Control characters are not allowed."]
  else [])

/-- `SalesRowsV1Validator._text`. -/
def text (ucd : UnicodeDatabase) (rawValue : String) (rowNumber : Nat) (column : String)
    (required : Bool) (maxLength : Nat) (uppercase : Bool) : Option String × List SalesRowIssue :=
  if strip rawValue = "" then
    (none, if required then
      [issue rowNumber column .requiredValueMissing "A value is required."] else [])
  else
    let value := if uppercase then upper ucd (strip rawValue) else strip rawValue
    (some value, textIssues ucd value rowNumber column maxLength)

def isDigit (c : Char) : Bool := '0' ≤ c && c ≤ '9'

def digitsValue (digits : List Char) : Nat :=
  digits.foldl (fun value digit => value * 10 + (digit.toNat - '0'.toNat)) 0

/-- `date.fromisoformat` on text of the form `[0-9]{4}-[0-9]{2}-[0-9]{2}`; the outer
`none` means that the text does not have this form. -/
def isoDate (value : String) : Option (Option Date) :=
  match value.toList with
  | [y1, y2, y3, y4, '-', m1, m2, '-', d1, d2] =>
      if [y1, y2, y3, y4, m1, m2, d1, d2].all isDigit then
        some (Date.ofYmd (digitsValue [y1, y2, y3, y4]) (digitsValue [m1, m2]) (digitsValue [d1, d2]))
      else none
  | _ => none

/-- `SalesRowsV1Validator._date`. -/
def date (rawValue : String) (rowNumber : Nat) : Option Date × List SalesRowIssue :=
  let invalid := fun message => (none, [issue rowNumber "transaction_date" .dateInvalidFormat message])
  if strip rawValue = "" then
    (none, [issue rowNumber "transaction_date" .requiredValueMissing "A value is required."])
  else
    match isoDate (strip rawValue) with
    | none => invalid "Use an exact YYYY-MM-DD date."
    | some none => invalid "Use a real calendar date in YYYY-MM-DD format."
    | some (some parsed) =>
        if 9998 < parsed.year then invalid "The supported calendar ends at year 9998."
        else (some parsed, [])

/-- `^-?[0-9]+(?:\.[0-9]+)?$` split into sign, whole digits and fraction digits. -/
def decimalParts (value : String) : Option (Bool × List Char × List Char) :=
  let sign := value.toList.head? = some '-'
  let body := if sign then value.toList.tail else value.toList
  let whole := body.takeWhile isDigit
  match whole, body.dropWhile isDigit with
  | [], _ => none
  | whole, [] => some (sign, whole, [])
  | whole, '.' :: fraction =>
      if fraction ≠ [] ∧ fraction.all isDigit then some (sign, whole, fraction) else none
  | _, _ => none

/-- `Decimal(value)` on text of that form. -/
def Decimal.ofParts (parts : Bool × List Char × List Char) : Decimal :=
  ⟨parts.1, digitsValue (parts.2.1 ++ parts.2.2), -(parts.2.2.length : Int)⟩

/-- Django's `DecimalValidator`. -/
structure DecimalValidator where
  maxDigits : Nat
  decimalPlaces : Nat
  deriving DecidableEq, Repr

/-- The validator's `digits` and `decimals`, from `Decimal.as_tuple()`. -/
def digitsAndDecimals (d : Decimal) : Nat × Nat :=
  let digitTuple := Nat.toDigits 10 d.coefficient
  if 0 ≤ d.exponent then
    (if digitTuple ≠ ['0'] then digitTuple.length + d.exponent.toNat else digitTuple.length, 0)
  else if digitTuple.length < d.exponent.natAbs then (d.exponent.natAbs, d.exponent.natAbs)
  else (digitTuple.length, d.exponent.natAbs)

/-- `DecimalValidator.__call__` raises no `ValidationError`. -/
def DecimalValidator.accepts (validator : DecimalValidator) (d : Decimal) : Bool :=
  let (digits, decimals) := digitsAndDecimals d
  digits ≤ validator.maxDigits && decimals ≤ validator.decimalPlaces &&
    digits - decimals ≤ validator.maxDigits - validator.decimalPlaces

def quantityValidator : DecimalValidator := ⟨18, 3⟩
def revenueValidator : DecimalValidator := ⟨20, 4⟩

/-- `SalesRowsV1Validator._decimal`. Text of the accepted form never makes
`Decimal` raise `InvalidOperation`. -/
def decimal (rawValue : String) (rowNumber : Nat) (column : String) (validator : DecimalValidator) :
    Option Decimal × List SalesRowIssue :=
  let precisionExceeded := [issue rowNumber column .decimalPrecisionExceeded
    "The value exceeds the supported digits or decimal places."]
  if strip rawValue = "" then
    (none, [issue rowNumber column .requiredValueMissing "A value is required."])
  else if 64 < (strip rawValue).length then (none, precisionExceeded)
  else
    match decimalParts (strip rawValue) with
    | none => (none, [issue rowNumber column .decimalInvalidFormat
        "Use digits and an optional decimal point; symbols and exponents are invalid."])
    | some parts =>
        if validator.accepts (Decimal.ofParts parts) then (some (Decimal.ofParts parts), [])
        else (none, precisionExceeded)

/-- `^[A-Z]{3}$`. -/
def currencyPattern (value : String) : Bool :=
  value.length = 3 && value.toList.all (fun c => decide ('A' ≤ c) && decide (c ≤ 'Z'))

/-! ## Rows -/

structure SalesRowsV1Validator where
  maxRows : Nat
  rowCount : Nat := 0
  sourceRecordIds : List String := []
  deriving DecidableEq, Repr

def SalesRowsV1Validator.noteRow (v : SalesRowsV1Validator) :
    Except SalesFileContractError SalesRowsV1Validator :=
  if v.maxRows < v.rowCount + 1 then
    .error ⟨.fileRowLimitExceeded,
      "The file exceeds the " ++ toString v.maxRows ++ "-row safety limit."⟩
  else .ok { v with rowCount := v.rowCount + 1 }

/-- The normalized values of one row, each absent where its field has none. -/
structure FieldValues where
  sourceRecordId : Option String
  transactionDate : Option Date
  productCode : Option String
  territoryCode : Option String
  hospitalCode : Option String
  salesRepresentativeCode : Option String
  quantity : Option Decimal
  revenueAmount : Option Decimal
  currencyCode : Option String

/-- The nine fields in contract order, with the issues of each. -/
def readFields (ucd : UnicodeDatabase) (rowNumber : Nat) (values : String → String) :
    FieldValues × List SalesRowIssue :=
  let sourceRecordId := text ucd (values "source_record_id") rowNumber "source_record_id" true 255 false
  let transactionDate := date (values "transaction_date") rowNumber
  let productCode := text ucd (values "product_code") rowNumber "product_code" true 64 true
  let territoryCode := text ucd (values "territory_code") rowNumber "territory_code" true 64 true
  let hospitalCode := text ucd (values "hospital_code") rowNumber "hospital_code" false 64 true
  let representativeCode := text ucd (values "sales_representative_code") rowNumber
    "sales_representative_code" false 64 true
  let quantity := decimal (values "quantity") rowNumber "quantity" quantityValidator
  let revenueAmount := decimal (values "revenue_amount") rowNumber "revenue_amount" revenueValidator
  let currencyCode := text ucd (strip (values "currency_code")) rowNumber "currency_code" true 3 true
  (⟨sourceRecordId.1, transactionDate.1, productCode.1, territoryCode.1, hospitalCode.1,
      representativeCode.1, quantity.1, revenueAmount.1, currencyCode.1⟩,
    sourceRecordId.2 ++ transactionDate.2 ++ productCode.2 ++ territoryCode.2 ++ hospitalCode.2 ++
      representativeCode.2 ++ quantity.2 ++ revenueAmount.2 ++ currencyCode.2)

def currencyIssues (rowNumber : Nat) (rawCurrencyCode : String) (currencyCode : Option String) :
    List SalesRowIssue :=
  match currencyCode with
  | none => []
  | some code =>
      if !isascii rawCurrencyCode || !currencyPattern code then
        [issue rowNumber "currency_code" .currencyCodeInvalid
          "Use a three-letter ASCII currency code such as INR or USD."]
      else []

def quantityIssues (rowNumber : Nat) (quantity : Option Decimal) : List SalesRowIssue :=
  match quantity with
  | none => []
  | some quantity =>
      if quantity.isZero then
        [issue rowNumber "quantity" .quantityZero "Quantity cannot be zero."]
      else []

def signMismatch (quantity revenueAmount : Decimal) : Bool :=
  quantity.isPositive && revenueAmount.isNegative || quantity.isNegative && revenueAmount.isPositive

def measureIssues (rowNumber : Nat) (quantity revenueAmount : Option Decimal) : List SalesRowIssue :=
  match quantity, revenueAmount with
  | some quantity, some revenueAmount =>
      if signMismatch quantity revenueAmount then
        [issue rowNumber "revenue_amount" .measureSignMismatch
          "Sales require non-negative revenue; returns require non-positive revenue."]
      else []
  | _, _ => []

def duplicateIssues (rowNumber : Nat) (seen : List String) (sourceRecordId : Option String) :
    List SalesRowIssue :=
  match sourceRecordId with
  | none => []
  | some id =>
      if id ∈ seen then
        [issue rowNumber "source_record_id" .duplicateSourceRecordId
          "This source record ID appears more than once in the file."]
      else []

def rememberId (seen : List String) (sourceRecordId : Option String) : List String :=
  match sourceRecordId with
  | none => seen
  | some id => if id ∈ seen then seen else seen ++ [id]

/-- Every issue of one full-width row, in the order of the checks. -/
def rowIssues (ucd : UnicodeDatabase) (seen : List String) (rowNumber : Nat)
    (values : String → String) : List SalesRowIssue :=
  let fields := (readFields ucd rowNumber values).1
  (readFields ucd rowNumber values).2 ++
    currencyIssues rowNumber (strip (values "currency_code")) fields.currencyCode ++
    quantityIssues rowNumber fields.quantity ++
    measureIssues rowNumber fields.quantity fields.revenueAmount ++
    duplicateIssues rowNumber seen fields.sourceRecordId

def FieldValues.row (fields : FieldValues) : Option SalesRowV1 := do
  return {
    sourceRecordId := ← fields.sourceRecordId
    transactionDate := ← fields.transactionDate
    productCode := ← fields.productCode
    territoryCode := ← fields.territoryCode
    hospitalCode := fields.hospitalCode
    salesRepresentativeCode := fields.salesRepresentativeCode
    quantity := ← fields.quantity
    revenueAmount := ← fields.revenueAmount
    currencyCode := ← fields.currencyCode }

/-- `SalesRowsV1Validator.validate`. -/
def SalesRowsV1Validator.validate (ucd : UnicodeDatabase) (v : SalesRowsV1Validator)
    (rowNumber : Nat) (values : String → String) :
    Except SalesFileContractError (SalesRowValidationResult × SalesRowsV1Validator) :=
  match v.noteRow with
  | .error e => .error e
  | .ok v =>
      let fields := (readFields ucd rowNumber values).1
      let issues := rowIssues ucd v.sourceRecordIds rowNumber values
      .ok (⟨rowNumber, if issues ≠ [] then none else fields.row, issues⟩,
        { v with sourceRecordIds := rememberId v.sourceRecordIds fields.sourceRecordId })

/-! ## The file -/

/-- How the generator ends after its last result. -/
inductive RowsEnd where
  | finished
  | contractError (error : SalesFileContractError)
  | unicodeDecodeError
  | valueError (message : String)
  deriving DecidableEq, Repr

def malformed (lineNum : Nat) : RowsEnd :=
  .contractError ⟨.csvMalformed, "Malformed CSV near row " ++ toString lineNum ++ "."⟩

def isBlank (cells : List String) : Bool :=
  cells.isEmpty || cells.all (fun value => strip value = "")

/-- `dict(zip(headers, raw_row, strict=True))`. -/
def cellValues (headers cells : List String) (column : String) : String :=
  ((Dict.ofPairs (headers.zip cells)).get column).getD ""

def columnCountResult (rowNumber expected found : Nat) : SalesRowValidationResult :=
  ⟨rowNumber, none, [issue rowNumber "__row__" .rowColumnCountMismatch
    ("Expected " ++ toString expected ++ " cells; found " ++ toString found ++ ".")]⟩

/-- The validator's answer to one non-blank record. -/
def recordResult (ucd : UnicodeDatabase) (headers : List String) (v : SalesRowsV1Validator)
    (record : Csv.Record) :
    Except SalesFileContractError (SalesRowValidationResult × SalesRowsV1Validator) :=
  if record.cells.length ≠ headers.length then
    match v.noteRow with
    | .error e => .error e
    | .ok v => .ok (columnCountResult record.rowNumber headers.length record.cells.length, v)
  else v.validate ucd record.rowNumber (cellValues headers record.cells)

def rowsEnd (v : SalesRowsV1Validator) : Csv.Ending → RowsEnd
  | .endOfFile =>
      if v.rowCount = 0 then
        .contractError ⟨.fileNoDataRows, "The sales file contains a header but no data rows."⟩
      else .finished
  | .malformed lineNum => malformed lineNum
  | .undecodable => .unicodeDecodeError

/-- The loop over the records after the header. -/
def yieldRows (ucd : UnicodeDatabase) (headers : List String) (ending : Csv.Ending)
    (v : SalesRowsV1Validator) : List Csv.Record → List SalesRowValidationResult × RowsEnd
  | [] => ([], rowsEnd v ending)
  | record :: rest =>
      if isBlank record.cells then yieldRows ucd headers ending v rest
      else
        match recordResult ucd headers v record with
        | .error e => ([], .contractError e)
        | .ok (result, v) =>
            let later := yieldRows ucd headers ending v rest
            (result :: later.1, later.2)

/-- `iter_sales_rows_v1_csv`: the results it yields, and how it ends. -/
def iterSalesRowsV1Csv (ucd : UnicodeDatabase) (stream : Csv.TextStream) (maxRows : Nat) :
    List SalesRowValidationResult × RowsEnd :=
  match Csv.records stream with
  | ([], .endOfFile) => ([], .contractError ⟨.fileNoDataRows, "The sales file is empty."⟩)
  | ([], .malformed lineNum) => ([], malformed lineNum)
  | ([], .undecodable) => ([], .unicodeDecodeError)
  | (header :: rest, ending) =>
      match validateSalesHeaders header.cells with
      | .error e => ([], .contractError e)
      | .ok headers =>
          if maxRows < 1 then ([], .valueError "max_rows must be positive.")
          else yieldRows ucd headers ending { maxRows } rest

/-! ## Lines for worked instances -/

namespace Sample

def header : String :=
  "source_record_id,transaction_date,product_code,territory_code,hospital_code," ++
    "sales_representative_code,quantity,revenue_amount,currency_code\n"

/-- A line about the sample master data. -/
def line (sourceRecordId quantity revenueAmount : String) : String :=
  sourceRecordId ++ ",2026-01-15,PROD,TERR,HOSP,," ++ quantity ++ "," ++ revenueAmount ++ ",INR\n"

end Sample

end PharmaIntel.Contracts
