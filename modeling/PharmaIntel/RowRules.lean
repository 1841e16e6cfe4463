import Mathlib
import PharmaIntel.Contracts

/-! What the field rules guarantee of an accepted row, and which issues a refused
one can get. -/

namespace PharmaIntel.Contracts
open PharmaIntel.Base PharmaIntel.PyText

/-! ## Accepted texts -/

structure TextAccepted (ucd : UnicodeDatabase) (maxLength : Nat) (value : String) : Prop where
  stripped : Stripped value
  nonempty : value ≠ ""
  length : value.length ≤ maxLength
  printable : ∀ c ∈ value.toList, ucd.isOther c = false

/-- A text that is also upper-cased. -/
structure CodeAccepted (ucd : UnicodeDatabase) (maxLength : Nat) (value : String) : Prop
    extends TextAccepted ucd maxLength value where
  uppercase : ∀ c ∈ value.toList, ucd.upper c = [c]

theorem textIssues_nil {ucd : UnicodeDatabase} {value column : String} {rowNumber maxLength : Nat}
    (clean : textIssues ucd value rowNumber column maxLength = []) :
    value.length ≤ maxLength ∧ ∀ c ∈ value.toList, ucd.isOther c = false := by
  obtain ⟨long, control⟩ := List.append_eq_nil_iff.mp clean
  refine ⟨?_, ?_⟩
  · by_contra exceeds
    rw [if_pos (by omega)] at long
    simp at long
  · intro c member
    by_contra marked
    have found : containsControlCharacter ucd value = true :=
      List.any_eq_true.mpr ⟨c, member, by simpa using marked⟩
    rw [if_pos found] at control
    simp at control

theorem text_nonblank {ucd : UnicodeDatabase} {raw column value : String} {rowNumber maxLength : Nat}
    {required uppercase : Bool}
    (found : (text ucd raw rowNumber column required maxLength uppercase).1 = some value)
    (clean : (text ucd raw rowNumber column required maxLength uppercase).2 = []) :
    strip raw ≠ "" ∧ value = (if uppercase then upper ucd (strip raw) else strip raw) ∧
      textIssues ucd value rowNumber column maxLength = [] := by
  unfold text at found clean
  by_cases blank : strip raw = ""
  · simp [blank] at found
  · rw [if_neg blank] at found clean
    injection found with same
    subst same
    exact ⟨blank, rfl, clean⟩

theorem text_accepted {ucd : UnicodeDatabase} {raw column value : String} {rowNumber maxLength : Nat}
    {required : Bool}
    (found : (text ucd raw rowNumber column required maxLength false).1 = some value)
    (clean : (text ucd raw rowNumber column required maxLength false).2 = []) :
    TextAccepted ucd maxLength value := by
  obtain ⟨nonblank, same, unmarked⟩ := text_nonblank found clean
  obtain ⟨length, printable⟩ := textIssues_nil unmarked
  rw [if_neg Bool.false_ne_true] at same
  rw [same] at length printable ⊢
  exact ⟨strip_stripped raw, nonblank, length, printable⟩

theorem code_accepted {ucd : UnicodeDatabase} {raw column value : String} {rowNumber maxLength : Nat}
    {required : Bool}
    (found : (text ucd raw rowNumber column required maxLength true).1 = some value)
    (clean : (text ucd raw rowNumber column required maxLength true).2 = []) :
    CodeAccepted ucd maxLength value := by
  obtain ⟨nonblank, same, unmarked⟩ := text_nonblank found clean
  obtain ⟨length, printable⟩ := textIssues_nil unmarked
  rw [if_pos rfl] at same
  rw [same] at length printable ⊢
  refine ⟨⟨upper_stripped ucd (strip_stripped raw), ?_, length, printable⟩, ?_⟩
  · exact fun empty => nonblank (upper_eq_empty ucd empty)
  · exact fun c member => mem_upper_fixed ucd member

theorem text_required {ucd : UnicodeDatabase} {raw column : String} {rowNumber maxLength : Nat}
    {uppercase : Bool} (clean : (text ucd raw rowNumber column true maxLength uppercase).2 = []) :
    (text ucd raw rowNumber column true maxLength uppercase).1.isSome := by
  unfold text at clean ⊢
  by_cases blank : strip raw = ""
  · simp [blank] at clean
  · rw [if_neg blank]
    rfl

/-! ## Accepted dates and decimals -/

theorem date_supported {raw : String} {rowNumber : Nat} {parsed : Date}
    (found : (date raw rowNumber).1 = some parsed) : parsed.year ≤ 9998 := by
  unfold date at found
  by_cases blank : strip raw = ""
  · simp [blank] at found
  · rw [if_neg blank] at found
    rcases shape : isoDate (strip raw) with _ | _ | other
    · simp [shape] at found
    · simp [shape] at found
    · by_cases late : 9998 < other.year
      · simp [shape, late] at found
      · simp only [shape, if_neg late, Option.some.injEq] at found
        subst found
        omega

theorem date_required {raw : String} {rowNumber : Nat} (clean : (date raw rowNumber).2 = []) :
    (date raw rowNumber).1.isSome := by
  unfold date at clean ⊢
  by_cases blank : strip raw = ""
  · simp [blank] at clean
  · rw [if_neg blank] at clean ⊢
    rcases shape : isoDate (strip raw) with _ | _ | other
    · simp [shape] at clean
    · simp [shape] at clean
    · by_cases late : 9998 < other.year
      · simp [shape, late] at clean
      · simp [late]

/-- An accepted decimal has no positive exponent, because it was written out. -/
structure DecimalAccepted (validator : DecimalValidator) (d : Decimal) : Prop where
  accepted : validator.accepts d = true
  written : d.exponent ≤ 0

theorem decimal_accepted {raw column : String} {rowNumber : Nat} {validator : DecimalValidator}
    {d : Decimal} (found : (decimal raw rowNumber column validator).1 = some d) :
    DecimalAccepted validator d := by
  unfold decimal at found
  by_cases blank : strip raw = ""
  · simp [blank] at found
  · rw [if_neg blank] at found
    by_cases long : 64 < (strip raw).length
    · simp [long] at found
    · rw [if_neg long] at found
      rcases shape : decimalParts (strip raw) with _ | parts
      · simp [shape] at found
      · by_cases fits : validator.accepts (Decimal.ofParts parts) = true
        · simp only [shape, if_pos fits, Option.some.injEq] at found
          subst found
          exact ⟨fits, by simp [Decimal.ofParts]⟩
        · simp [shape, fits] at found

theorem decimal_required {raw column : String} {rowNumber : Nat} {validator : DecimalValidator}
    (clean : (decimal raw rowNumber column validator).2 = []) :
    (decimal raw rowNumber column validator).1.isSome := by
  unfold decimal at clean ⊢
  by_cases blank : strip raw = ""
  · simp [blank] at clean
  · rw [if_neg blank] at clean ⊢
    by_cases long : 64 < (strip raw).length
    · simp [long] at clean
    · rw [if_neg long] at clean ⊢
      rcases shape : decimalParts (strip raw) with _ | parts
      · simp [shape] at clean
      · by_cases fits : validator.accepts (Decimal.ofParts parts) = true
        · simp [fits]
        · simp [shape, fits] at clean

/-! ## Accepted rows -/

structure RowAccepted (ucd : UnicodeDatabase) (row : SalesRowV1) : Prop where
  sourceRecordId : TextAccepted ucd 255 row.sourceRecordId
  transactionDate : row.transactionDate.year ≤ 9998
  productCode : CodeAccepted ucd 64 row.productCode
  territoryCode : CodeAccepted ucd 64 row.territoryCode
  hospitalCode : ∀ code ∈ row.hospitalCode, CodeAccepted ucd 64 code
  salesRepresentativeCode : ∀ code ∈ row.salesRepresentativeCode, CodeAccepted ucd 64 code
  quantity : DecimalAccepted quantityValidator row.quantity
  revenueAmount : DecimalAccepted revenueValidator row.revenueAmount
  currencyCode : currencyPattern row.currencyCode = true
  nonzero : row.quantity.isZero = false
  signs : signMismatch row.quantity row.revenueAmount = false

theorem FieldValues.row_eq_some {fields : FieldValues} {row : SalesRowV1}
    (found : fields.row = some row) :
    fields.sourceRecordId = some row.sourceRecordId ∧
      fields.transactionDate = some row.transactionDate ∧
      fields.productCode = some row.productCode ∧ fields.territoryCode = some row.territoryCode ∧
      fields.hospitalCode = row.hospitalCode ∧
      fields.salesRepresentativeCode = row.salesRepresentativeCode ∧
      fields.quantity = some row.quantity ∧ fields.revenueAmount = some row.revenueAmount ∧
      fields.currencyCode = some row.currencyCode := by
  simp only [FieldValues.row, Option.bind_eq_bind, Option.bind_eq_some_iff, Option.pure_def,
    Option.some.injEq] at found
  obtain ⟨_, id, _, date, _, product, _, territory, _, quantity, _, revenue, _, currency, rfl⟩ := found
  exact ⟨id, date, product, territory, rfl, rfl, quantity, revenue, currency⟩

section Row
variable {ucd : UnicodeDatabase} {seen : List String} {rowNumber : Nat} {values : String → String}

/-- A row without issues has none in any of its checks. -/
structure RowClean (ucd : UnicodeDatabase) (seen : List String) (rowNumber : Nat)
    (values : String → String) : Prop where
  sourceRecordId :
    (text ucd (values "source_record_id") rowNumber "source_record_id" true 255 false).2 = []
  transactionDate : (date (values "transaction_date") rowNumber).2 = []
  productCode : (text ucd (values "product_code") rowNumber "product_code" true 64 true).2 = []
  territoryCode : (text ucd (values "territory_code") rowNumber "territory_code" true 64 true).2 = []
  hospitalCode : (text ucd (values "hospital_code") rowNumber "hospital_code" false 64 true).2 = []
  representativeCode : (text ucd (values "sales_representative_code") rowNumber
    "sales_representative_code" false 64 true).2 = []
  quantity : (decimal (values "quantity") rowNumber "quantity" quantityValidator).2 = []
  revenueAmount : (decimal (values "revenue_amount") rowNumber "revenue_amount" revenueValidator).2 = []
  currencyCode :
    (text ucd (strip (values "currency_code")) rowNumber "currency_code" true 3 true).2 = []
  currency : currencyIssues rowNumber (strip (values "currency_code"))
    (readFields ucd rowNumber values).1.currencyCode = []
  nonzero : quantityIssues rowNumber (readFields ucd rowNumber values).1.quantity = []
  signs : measureIssues rowNumber (readFields ucd rowNumber values).1.quantity
    (readFields ucd rowNumber values).1.revenueAmount = []
  duplicate : duplicateIssues rowNumber seen (readFields ucd rowNumber values).1.sourceRecordId = []

theorem row_clean (clean : rowIssues ucd seen rowNumber values = []) :
    RowClean ucd seen rowNumber values := by
  unfold rowIssues at clean
  simp only [List.append_eq_nil_iff] at clean
  obtain ⟨⟨⟨⟨fields, currency⟩, nonzero⟩, signs⟩, duplicate⟩ := clean
  simp only [readFields, List.append_eq_nil_iff] at fields
  obtain ⟨⟨⟨⟨⟨⟨⟨⟨id, date⟩, product⟩, territory⟩, hospital⟩, representative⟩, quantity⟩, revenue⟩,
    code⟩ := fields
  exact ⟨id, date, product, territory, hospital, representative, quantity, revenue, code, currency,
    nonzero, signs, duplicate⟩

theorem RowClean.row_isSome (clean : RowClean ucd seen rowNumber values) :
    (readFields ucd rowNumber values).1.row.isSome := by
  obtain ⟨_, id⟩ := Option.isSome_iff_exists.mp (text_required clean.sourceRecordId)
  obtain ⟨_, date⟩ := Option.isSome_iff_exists.mp (date_required clean.transactionDate)
  obtain ⟨_, product⟩ := Option.isSome_iff_exists.mp (text_required clean.productCode)
  obtain ⟨_, territory⟩ := Option.isSome_iff_exists.mp (text_required clean.territoryCode)
  obtain ⟨_, quantity⟩ := Option.isSome_iff_exists.mp (decimal_required clean.quantity)
  obtain ⟨_, revenue⟩ := Option.isSome_iff_exists.mp (decimal_required clean.revenueAmount)
  obtain ⟨_, currency⟩ := Option.isSome_iff_exists.mp (text_required clean.currencyCode)
  simp only [readFields, FieldValues.row, id, date, product, territory, quantity, revenue, currency,
    Option.bind_eq_bind, Option.bind_some, Option.pure_def, Option.isSome_some]

theorem RowClean.accepted (clean : RowClean ucd seen rowNumber values) {row : SalesRowV1}
    (found : (readFields ucd rowNumber values).1.row = some row) : RowAccepted ucd row := by
  obtain ⟨id, date, product, territory, hospital, representative, quantity, revenue, currency⟩ :=
    FieldValues.row_eq_some found
  have pattern := clean.currency
  have nonzero := clean.nonzero
  have signs := clean.signs
  rw [currency] at pattern
  rw [quantity] at nonzero signs
  rw [revenue] at signs
  simp only [readFields] at id date product territory hospital representative quantity revenue
  refine
    { sourceRecordId := text_accepted id clean.sourceRecordId
      transactionDate := date_supported date
      productCode := code_accepted product clean.productCode
      territoryCode := code_accepted territory clean.territoryCode
      hospitalCode := fun code member => code_accepted (hospital.trans member) clean.hospitalCode
      salesRepresentativeCode := fun code member =>
        code_accepted (representative.trans member) clean.representativeCode
      quantity := decimal_accepted quantity
      revenueAmount := decimal_accepted revenue
      currencyCode := ?_
      nonzero := ?_
      signs := ?_ }
  · by_contra wrong
    simp [currencyIssues, wrong] at pattern
  · by_contra zero
    simp [quantityIssues, zero] at nonzero
  · by_contra mismatch
    simp [measureIssues, mismatch] at signs

theorem RowClean.unseen (clean : RowClean ucd seen rowNumber values) {row : SalesRowV1}
    (found : (readFields ucd rowNumber values).1.row = some row) : row.sourceRecordId ∉ seen := by
  have duplicate := clean.duplicate
  rw [(FieldValues.row_eq_some found).1] at duplicate
  intro member
  simp [duplicateIssues, member] at duplicate

end Row

/-! ## Issues of a row -/

def issueKey (i : SalesRowIssue) : String × SalesContractIssueCode := (i.column, i.code)

def textKeys (column : String) : List (String × SalesContractIssueCode) :=
  [(column, .requiredValueMissing), (column, .valueTooLong), (column, .invalidControlCharacter)]

def dateKeys : List (String × SalesContractIssueCode) :=
  [("transaction_date", .requiredValueMissing), ("transaction_date", .dateInvalidFormat)]

def decimalKeys (column : String) : List (String × SalesContractIssueCode) :=
  [(column, .requiredValueMissing), (column, .decimalPrecisionExceeded),
    (column, .decimalInvalidFormat)]

/-- The column and code of every issue a full-width row can get, in the order of the
checks. -/
def rowIssueKeys : List (String × SalesContractIssueCode) :=
  textKeys "source_record_id" ++ dateKeys ++ textKeys "product_code" ++ textKeys "territory_code" ++
    textKeys "hospital_code" ++ textKeys "sales_representative_code" ++ decimalKeys "quantity" ++
    decimalKeys "revenue_amount" ++ textKeys "currency_code" ++
    [("currency_code", .currencyCodeInvalid)] ++ [("quantity", .quantityZero)] ++
    [("revenue_amount", .measureSignMismatch)] ++ [("source_record_id", .duplicateSourceRecordId)]

/-- The text of every issue a full-width row can get. -/
def rowMessages : List String :=
  ["A value is required.",
    "The value may contain at most 255 characters.",
    "The value may contain at most 64 characters.",
    "The value may contain at most 3 characters.",
    "Control characters are not allowed.",
    "Use an exact YYYY-MM-DD date.",
    "Use a real calendar date in YYYY-MM-DD format.",
    "The supported calendar ends at year 9998.",
    "The value exceeds the supported digits or decimal places.",
    "Use digits and an optional decimal point; symbols and exponents are invalid.",
    "Use a three-letter ASCII currency code such as INR or USD.",
    "Quantity cannot be zero.",
    "Sales require non-negative revenue; returns require non-positive revenue.",
    "This source record ID appears more than once in the file."]

/-- Issues of one row, each at most once for every key and in the order of the keys. -/
structure IssuesFrom (rowNumber : Nat) (keys : List (String × SalesContractIssueCode))
    (issues : List SalesRowIssue) : Prop where
  keys : (issues.map issueKey).Sublist keys
  rowNumber : ∀ i ∈ issues, i.rowNumber = some rowNumber
  message : ∀ i ∈ issues, i.message ∈ rowMessages

section Issues
variable {rowNumber : Nat}

theorem IssuesFrom.nil (keys : List (String × SalesContractIssueCode)) :
    IssuesFrom rowNumber keys [] := ⟨List.nil_sublist keys, by simp, by simp⟩

theorem IssuesFrom.single {keys : List (String × SalesContractIssueCode)} {column message : String}
    {code : SalesContractIssueCode} (known : (column, code) ∈ keys) (worded : message ∈ rowMessages) :
    IssuesFrom rowNumber keys [issue rowNumber column code message] where
  keys := List.singleton_sublist.mpr known
  rowNumber := by simp [issue]
  message := by simpa [issue] using worded

theorem IssuesFrom.append {firstKeys secondKeys : List (String × SalesContractIssueCode)}
    {first second : List SalesRowIssue} (left : IssuesFrom rowNumber firstKeys first)
    (right : IssuesFrom rowNumber secondKeys second) :
    IssuesFrom rowNumber (firstKeys ++ secondKeys) (first ++ second) where
  keys := by
    rw [List.map_append]
    exact left.keys.append right.keys
  rowNumber := List.forall_mem_append.mpr ⟨left.rowNumber, right.rowNumber⟩
  message := List.forall_mem_append.mpr ⟨left.message, right.message⟩

theorem IssuesFrom.cons {key : String × SalesContractIssueCode}
    {keys : List (String × SalesContractIssueCode)} {issues : List SalesRowIssue}
    (tail : IssuesFrom rowNumber keys issues) : IssuesFrom rowNumber (key :: keys) issues :=
  ⟨tail.keys.cons key, tail.rowNumber, tail.message⟩

theorem IssuesFrom.ite {keys : List (String × SalesContractIssueCode)} {marked : Prop}
    [Decidable marked] {issues : List SalesRowIssue} (from_keys : IssuesFrom rowNumber keys issues) :
    IssuesFrom rowNumber keys (if marked then issues else []) := by
  by_cases case : marked
  · rwa [if_pos case]
  · rw [if_neg case]
    exact IssuesFrom.nil keys

theorem text_issues (ucd : UnicodeDatabase) (raw column : String) (required uppercase : Bool)
    {maxLength : Nat} (limit : maxLength ∈ [255, 64, 3]) :
    IssuesFrom rowNumber (textKeys column)
      (text ucd raw rowNumber column required maxLength uppercase).2 := by
  have worded : "The value may contain at most " ++ toString maxLength ++ " characters." ∈ rowMessages := by
    simp only [List.mem_cons, List.not_mem_nil, or_false] at limit
    rcases limit with rfl | rfl | rfl <;> decide
  unfold text
  by_cases blank : strip raw = ""
  · rw [if_pos blank]
    exact (IssuesFrom.single (by simp [textKeys]) (by decide)).ite
  · rw [if_neg blank]
    have long : IssuesFrom rowNumber [(column, .valueTooLong)] [issue rowNumber column .valueTooLong
        ("The value may contain at most " ++ toString maxLength ++ " characters.")] :=
      IssuesFrom.single (List.mem_singleton.mpr rfl) worded
    have control : IssuesFrom rowNumber [(column, .invalidControlCharacter)] [issue rowNumber column
        .invalidControlCharacter "Control characters are not allowed."] :=
      IssuesFrom.single (List.mem_singleton.mpr rfl) (by decide)
    exact (long.ite.append control.ite).cons

theorem date_issues (raw : String) : IssuesFrom rowNumber dateKeys (date raw rowNumber).2 := by
  unfold date
  by_cases blank : strip raw = ""
  · rw [if_pos blank]
    exact IssuesFrom.single (by decide) (by decide)
  · rw [if_neg blank]
    rcases isoDate (strip raw) with _ | _ | parsed
    · exact IssuesFrom.single (by decide) (by decide)
    · exact IssuesFrom.single (by decide) (by decide)
    · dsimp only
      by_cases late : 9998 < parsed.year
      · rw [if_pos late]
        exact IssuesFrom.single (by decide) (by decide)
      · rw [if_neg late]
        exact IssuesFrom.nil dateKeys

theorem decimal_issues (raw column : String) (validator : DecimalValidator) :
    IssuesFrom rowNumber (decimalKeys column) (decimal raw rowNumber column validator).2 := by
  have precision : IssuesFrom rowNumber (decimalKeys column) [issue rowNumber column
      .decimalPrecisionExceeded "The value exceeds the supported digits or decimal places."] :=
    IssuesFrom.single (by simp [decimalKeys]) (by decide)
  unfold decimal
  by_cases blank : strip raw = ""
  · rw [if_pos blank]
    exact IssuesFrom.single (by simp [decimalKeys]) (by decide)
  · rw [if_neg blank]
    by_cases long : 64 < (strip raw).length
    · rw [if_pos long]
      exact precision
    · rw [if_neg long]
      rcases decimalParts (strip raw) with _ | parts
      · exact IssuesFrom.single (by simp [decimalKeys]) (by decide)
      · dsimp only
        by_cases fits : validator.accepts (Decimal.ofParts parts) = true
        · rw [if_pos fits]
          exact IssuesFrom.nil _
        · rw [if_neg fits]
          exact precision

theorem currency_issues (raw : String) (currencyCode : Option String) :
    IssuesFrom rowNumber [("currency_code", .currencyCodeInvalid)]
      (currencyIssues rowNumber raw currencyCode) := by
  cases currencyCode with
  | none => exact IssuesFrom.nil _
  | some code => exact (IssuesFrom.single (by decide) (by decide)).ite

theorem quantity_issues (quantity : Option Decimal) :
    IssuesFrom rowNumber [("quantity", .quantityZero)] (quantityIssues rowNumber quantity) := by
  cases quantity with
  | none => exact IssuesFrom.nil _
  | some quantity => exact (IssuesFrom.single (by decide) (by decide)).ite

theorem measure_issues (quantity revenueAmount : Option Decimal) :
    IssuesFrom rowNumber [("revenue_amount", .measureSignMismatch)]
      (measureIssues rowNumber quantity revenueAmount) := by
  unfold measureIssues
  split
  · exact (IssuesFrom.single (by decide) (by decide)).ite
  · exact IssuesFrom.nil _

theorem duplicate_issues (seen : List String) (sourceRecordId : Option String) :
    IssuesFrom rowNumber [("source_record_id", .duplicateSourceRecordId)]
      (duplicateIssues rowNumber seen sourceRecordId) := by
  cases sourceRecordId with
  | none => exact IssuesFrom.nil _
  | some id => exact (IssuesFrom.single (by decide) (by decide)).ite

theorem readFields_issues (ucd : UnicodeDatabase) (values : String → String) :
    IssuesFrom rowNumber
      (textKeys "source_record_id" ++ dateKeys ++ textKeys "product_code" ++
        textKeys "territory_code" ++ textKeys "hospital_code" ++
        textKeys "sales_representative_code" ++ decimalKeys "quantity" ++
        decimalKeys "revenue_amount" ++ textKeys "currency_code")
      (readFields ucd rowNumber values).2 := by
  simp only [readFields]
  refine IssuesFrom.append ?_ (text_issues ucd _ _ _ _ (by simp))
  refine IssuesFrom.append (IssuesFrom.append ?_ (decimal_issues _ _ _)) (decimal_issues _ _ _)
  refine IssuesFrom.append (IssuesFrom.append ?_ (text_issues ucd _ _ _ _ (by simp)))
    (text_issues ucd _ _ _ _ (by simp))
  refine IssuesFrom.append (IssuesFrom.append ?_ (text_issues ucd _ _ _ _ (by simp)))
    (text_issues ucd _ _ _ _ (by simp))
  exact IssuesFrom.append (text_issues ucd _ _ _ _ (by simp)) (date_issues _)

theorem rowIssues_from (ucd : UnicodeDatabase) (seen : List String) (values : String → String) :
    IssuesFrom rowNumber rowIssueKeys (rowIssues ucd seen rowNumber values) := by
  unfold rowIssues rowIssueKeys
  exact ((((readFields_issues ucd values).append (currency_issues _ _)).append
    (quantity_issues _)).append (measure_issues _ _)).append (duplicate_issues _ _)

end Issues

end PharmaIntel.Contracts
