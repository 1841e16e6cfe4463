import Mathlib
import PharmaIntel.Base.Lists
import PharmaIntel.ParserOutcome

/-! The order of the columns does not matter: a file whose header and full-width records
are put in another order gives the same results and the same file-level error. -/

namespace PharmaIntel.Contracts
open PharmaIntel.Base PharmaIntel.PyText

/-- A permutation of the nine column positions. -/
abbrev ColumnOrder := Equiv.Perm (Fin salesRowsV1Columns.length)

/-- A record in another column order; a blank or wrong-width one is left as it is. -/
def reorderRecord (order : ColumnOrder) (record : Csv.Record) : Csv.Record :=
  if isBlank record.cells then record else { record with cells := reorder order record.cells }

variable (ucd : UnicodeDatabase) (order : ColumnOrder)

@[simp] theorem reorderRecord_rowNumber (record : Csv.Record) :
    (reorderRecord order record).rowNumber = record.rowNumber := by
  unfold reorderRecord
  split_ifs <;> rfl

@[simp] theorem reorderRecord_length (record : Csv.Record) :
    (reorderRecord order record).cells.length = record.cells.length := by
  unfold reorderRecord
  split_ifs
  · rfl
  · exact length_reorder order record.cells

theorem isBlank_reorder (cells : List String) : isBlank (reorder order cells) = isBlank cells := by
  have perm := reorder_perm order cells
  unfold isBlank
  rw [perm.all_eq, perm.isEmpty_eq]

@[simp] theorem isBlank_reorderRecord (record : Csv.Record) :
    isBlank (reorderRecord order record).cells = isBlank record.cells := by
  unfold reorderRecord
  split_ifs
  · rfl
  · exact isBlank_reorder order record.cells

/-- Each cell still belongs to its column. -/
theorem cellValues_reorder {headers cells : List String} (contract : IsContractHeader headers)
    (full : cells.length = headers.length) :
    cellValues (reorder order headers) (reorder order cells) = cellValues headers cells := by
  have width : headers.length = salesRowsV1Columns.length := contract.length_eq
  have distinct := ((isContractHeader_iff headers).mp contract).1
  have perm : ((reorder order headers).zip (reorder order cells)).Perm (headers.zip cells) := by
    rw [reorder_zip order width (full.trans width)]
    exact reorder_perm order (headers.zip cells)
  have keys : ((headers.zip cells).map Prod.fst).Nodup := by
    rwa [List.map_fst_zip full.ge]
  funext column
  unfold cellValues
  rw [Dict.get_ofPairs_perm perm.symm keys column]

theorem recordResult_reorder {headers : List String} (contract : IsContractHeader headers)
    (v : SalesRowsV1Validator) {record : Csv.Record} (nonblank : isBlank record.cells = false) :
    recordResult ucd (reorder order headers) v (reorderRecord order record) =
      recordResult ucd headers v record := by
  unfold recordResult
  rw [reorderRecord_length, length_reorder, reorderRecord_rowNumber]
  split_ifs with miscounted
  · rfl
  · have cells : (reorderRecord order record).cells = reorder order record.cells := by
      simp [reorderRecord, nonblank]
    rw [cells, cellValues_reorder order contract (not_not.mp miscounted)]

theorem yieldRows_reorder {headers : List String} (contract : IsContractHeader headers)
    (ending : Csv.Ending) (v : SalesRowsV1Validator) (records : List Csv.Record) :
    yieldRows ucd (reorder order headers) ending v (records.map (reorderRecord order)) =
      yieldRows ucd headers ending v records := by
  induction records generalizing v with
  | nil => rfl
  | cons record rest ih =>
    rw [List.map_cons, yieldRows, yieldRows, isBlank_reorderRecord]
    by_cases blank : isBlank record.cells = true
    · rw [if_pos blank, if_pos blank]
      exact ih v
    · rw [if_neg blank, if_neg blank,
        recordResult_reorder ucd order contract v (Bool.eq_false_of_not_eq_true blank)]
      cases recordResult ucd headers v record with
      | error e => rfl
      | ok answer =>
        dsimp only
        rw [ih answer.2]

theorem normalizeHeaders_contract {headers : List String} (contract : IsContractHeader headers) :
    normalizeHeaders headers = headers := by
  cases headers with
  | nil => rfl
  | cons first rest =>
    have plain : ∀ column ∈ salesRowsV1Columns, removeprefix column '\ufeff' = column := by decide
    rw [normalizeHeaders, plain first (contract.mem_iff.mp List.mem_cons_self)]

theorem validateSalesHeaders_contract {headers : List String} (contract : IsContractHeader headers) :
    validateSalesHeaders headers = .ok headers := by
  have same := normalizeHeaders_contract contract
  have accepted := @validateSalesHeaders_accepts headers (by rwa [same])
  rwa [same] at accepted

/-- Two files whose records differ by one column order, applied to the header and to every
full-width record, give the same results and end in the same way. -/
theorem columnOrder_irrelevant {first second : Csv.TextStream} {header : Csv.Record}
    {rest : List Csv.Record} {ending : Csv.Ending} (maxRows : Nat)
    (contract : IsContractHeader header.cells)
    (read : Csv.records first = (header :: rest, ending))
    (reordered : Csv.records second =
      ({ header with cells := reorder order header.cells } :: rest.map (reorderRecord order), ending)) :
    iterSalesRowsV1Csv ucd second maxRows = iterSalesRowsV1Csv ucd first maxRows := by
  have reorderedContract : IsContractHeader (reorder order header.cells) :=
    (reorder_perm order header.cells).trans contract
  rw [iterSalesRowsV1Csv, iterSalesRowsV1Csv, read, reordered]
  dsimp only
  rw [validateSalesHeaders_contract contract, validateSalesHeaders_contract reorderedContract]
  dsimp only
  split_ifs with limit
  · rfl
  · exact yieldRows_reorder ucd order contract ending _ rest

/-- The nine columns and one row, forwards and backwards, with a short record after them. -/
theorem columnOrder_irrelevant_sample :
    iterSalesRowsV1Csv asciiDatabase
      { lines := [
          "currency_code,revenue_amount,quantity,sales_representative_code,hospital_code," ++
            "territory_code,product_code,transaction_date,source_record_id\n",
          "INR,2,1,,H1,T1,P1,2024-01-31,id-1\n", "id-2,x\n"] } 5 =
    iterSalesRowsV1Csv asciiDatabase
      { lines := [
          "source_record_id,transaction_date,product_code,territory_code,hospital_code," ++
            "sales_representative_code,quantity,revenue_amount,currency_code\n",
          "id-1,2024-01-31,P1,T1,H1,,1,2,INR\n", "id-2,x\n"] } 5 :=
  @columnOrder_irrelevant asciiDatabase Fin.revPerm _ _ ⟨1, salesRowsV1Columns⟩
    [⟨2, ["id-1", "2024-01-31", "P1", "T1", "H1", "", "1", "2", "INR"]⟩, ⟨3, ["id-2", "x"]⟩]
    .endOfFile 5 (List.Perm.refl _) (by decide +kernel) (by decide +kernel)

end PharmaIntel.Contracts
