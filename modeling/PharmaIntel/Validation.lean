import Mathlib
import PharmaIntel.Base.Dict
import PharmaIntel.Base.Lists
import PharmaIntel.Tables
import PharmaIntel.Collector

/-! Validating staged rows against one snapshot of the reporting calendar, the master
data, the dated assignments and the facts: the set-based check of the import, and the
row-by-row rule it has to agree with. -/

namespace PharmaIntel.Validation
open PharmaIntel.Base PharmaIntel.Models PharmaIntel.Collector

abbrev Period := Date × Option Date

/-! ## Prefetching for one chunk -/

/-- `{item.code: item for item in model.objects.filter(code__in=codes)}`. -/
def masterMap {α : Type} (code : α → String) (items : List α) (codes : List String) : Dict String α :=
  Dict.ofPairs ((items.filter (fun item => decide (code item ∈ codes))).map (fun item => (code item, item)))

/-- The periods that touch the window of the chunk's dates, by identity and territory. -/
def effectiveAssignmentIds (assignments : List TerritoryAssignment) (identityIds territoryIds : List Nat)
    (minimumDate maximumDate : Date) : Dict (Nat × Nat) (List Period) :=
  if identityIds = [] ∨ territoryIds = [] then Dict.empty
  else Dict.group ((assignments.filter (fun a =>
      decide (a.identityId ∈ identityIds) && decide (a.territoryId ∈ territoryIds) &&
        decide (a.effectiveFrom ≤ maximumDate) &&
        a.effectiveTo.all (fun last => decide (minimumDate ≤ last)))).map
    (fun a => ((a.identityId, a.territoryId), (a.effectiveFrom, a.effectiveTo))))

/-- `_is_effective`. -/
def isEffective (periods : List Period) (transactionDate : Date) : Bool :=
  periods.any (fun period => decide (period.1 ≤ transactionDate) &&
    period.2.all (fun last => decide (transactionDate ≤ last)))

structure Lookups where
  calendars : Dict Date Date
  products : Dict String CodedMasterData
  territories : Dict String Territory
  hospitals : Dict String CodedMasterData
  representatives : Dict String CodedMasterData
  hospitalAssignments : Dict (Nat × Nat) (List Period)
  representativeAssignments : Dict (Nat × Nat) (List Period)
  existingFacts : Dict String SalesTransaction

/-- The facts of the source system that carry one of the rows' ids, by id. -/
def existingFacts (facts : List SalesTransaction) (sourceSystem : String)
    (rows : List SalesImportStagedRow) : Dict String SalesTransaction :=
  Dict.ofPairs ((facts.filter (fun fact => fact.sourceSystem = sourceSystem &&
      decide (fact.sourceRecordId ∈ rows.map SalesImportStagedRow.sourceRecordId))).map
    (fun fact => (fact.sourceRecordId, fact)))

/-- The queries of one chunk, given the earliest and the latest of its dates. -/
def prefetch (master : MasterData) (facts : List SalesTransaction) (sourceSystem : String)
    (rows : List SalesImportStagedRow) (minimumDate maximumDate : Date) : Lookups :=
  let territories := masterMap Territory.code master.territories
    (rows.map SalesImportStagedRow.territoryCode)
  let hospitals := masterMap CodedMasterData.code master.hospitals
    ((rows.map SalesImportStagedRow.hospitalCode).filter (fun code => code ≠ ""))
  let representatives := masterMap CodedMasterData.code master.representatives
    ((rows.map SalesImportStagedRow.salesRepresentativeCode).filter (fun code => code ≠ ""))
  { calendars := Dict.ofPairs ((master.calendar.filter (fun date =>
      decide (date ∈ rows.map SalesImportStagedRow.transactionDate))).map (fun date => (date, date)))
    products := masterMap CodedMasterData.code master.products (rows.map SalesImportStagedRow.productCode)
    territories := territories
    hospitals := hospitals
    representatives := representatives
    hospitalAssignments := effectiveAssignmentIds master.hospitalAssignments
      (hospitals.values.map CodedMasterData.pk) (territories.values.map Territory.pk)
      minimumDate maximumDate
    representativeAssignments := effectiveAssignmentIds master.representativeAssignments
      (representatives.values.map CodedMasterData.pk) (territories.values.map Territory.pk)
      minimumDate maximumDate
    existingFacts := existingFacts facts sourceSystem rows }

/-! ## One row -/

/-- What a row's codes resolve to. -/
structure References where
  calendar : Option Date
  product : Option CodedMasterData
  territory : Option Territory
  hospital : Option CodedMasterData
  representative : Option CodedMasterData
  deriving DecidableEq

def lookUp (lookups : Lookups) (row : SalesImportStagedRow) : References where
  calendar := lookups.calendars.get row.transactionDate
  product := lookups.products.get row.productCode
  territory := lookups.territories.get row.territoryCode
  hospital := if row.hospitalCode ≠ "" then lookups.hospitals.get row.hospitalCode else none
  representative :=
    if row.salesRepresentativeCode ≠ "" then lookups.representatives.get row.salesRepresentativeCode
    else none

def masterIssue (row : SalesImportStagedRow) (column code message : String) : SalesImportIssue :=
  ⟨some row.rowNumber, column, code, message, .masterData⟩

def territoryIssues (row : SalesImportStagedRow) : Option Territory → List SalesImportIssue
  | none => [masterIssue row "territory_code" "TERRITORY_NOT_FOUND" "The territory code does not exist."]
  | some territory =>
      if territory.level ≠ .territory then
        [masterIssue row "territory_code" "TERRITORY_NOT_LEAF"
          "Sales rows must use a Territory-level territory."]
      else []

/-- The references a row names and the snapshot does not have. -/
def referenceIssues (row : SalesImportStagedRow) (refs : References) : List SalesImportIssue :=
  (if refs.calendar = none then
    [masterIssue row "transaction_date" "CALENDAR_DATE_NOT_FOUND"
      "The transaction date is missing from the reporting calendar."] else []) ++
  (if refs.product = none then
    [masterIssue row "product_code" "PRODUCT_NOT_FOUND" "The product code does not exist."] else []) ++
  territoryIssues row refs.territory ++
  (if row.hospitalCode ≠ "" ∧ refs.hospital = none then
    [masterIssue row "hospital_code" "HOSPITAL_NOT_FOUND" "The hospital code does not exist."] else []) ++
  (if row.salesRepresentativeCode ≠ "" ∧ refs.representative = none then
    [masterIssue row "sales_representative_code" "SALES_REPRESENTATIVE_NOT_FOUND"
      "The sales representative code does not exist."] else [])

/-- The mismatches of dated assignments. -/
def mismatchIssues (row : SalesImportStagedRow) (hospitalMismatch representativeMismatch : Bool) :
    List SalesImportIssue :=
  (if hospitalMismatch then
    [masterIssue row "hospital_code" "HOSPITAL_TERRITORY_MISMATCH"
      "The hospital was not assigned to this territory on the transaction date."] else []) ++
  (if representativeMismatch then
    [masterIssue row "sales_representative_code" "SALES_REPRESENTATIVE_TERRITORY_MISMATCH"
      "The sales representative was not assigned to this territory on the transaction date."] else [])

/-- An identity and a territory are known, and no prefetched period covers the date. -/
def assignmentMismatch (assignments : Dict (Nat × Nat) (List Period)) (identity : Option CodedMasterData)
    (territory : Option Territory) (transactionDate : Date) : Bool :=
  match identity, territory with
  | some identity, some territory =>
      !isEffective ((assignments.get (identity.pk, territory.pk)).getD []) transactionDate
  | _, _ => false

def masterDataIssues (lookups : Lookups) (row : SalesImportStagedRow) : List SalesImportIssue :=
  referenceIssues row (lookUp lookups row) ++
    mismatchIssues row
      (assignmentMismatch lookups.hospitalAssignments (lookUp lookups row).hospital
        (lookUp lookups row).territory row.transactionDate)
      (assignmentMismatch lookups.representativeAssignments (lookUp lookups row).representative
        (lookUp lookups row).territory row.transactionDate)

/-- The row with its references filled in. -/
def resolvedRow (row : SalesImportStagedRow) (refs : References) : SalesImportStagedRow :=
  { row with
    calendarDateId := refs.calendar
    productId := refs.product.map CodedMasterData.pk
    territoryId := refs.territory.map Territory.pk
    hospitalId := refs.hospital.map CodedMasterData.pk
    salesRepresentativeId := refs.representative.map CodedMasterData.pk }

/-- `_fact_matches`. -/
def factMatches (row : SalesImportStagedRow) (fact : SalesTransaction) : Bool :=
  fact.calendarDateId = row.transactionDate &&
    some fact.productId = row.productId &&
    some fact.territoryId = row.territoryId &&
    fact.hospitalId = row.hospitalId &&
    fact.salesRepresentativeId = row.salesRepresentativeId &&
    fact.quantity = row.quantity &&
    fact.revenueAmount = row.revenueAmount &&
    fact.currencyCode = row.currencyCode

def conflictIssue (row : SalesImportStagedRow) : SalesImportIssue :=
  ⟨some row.rowNumber, "source_record_id", "SOURCE_RECORD_CONFLICT",
    "This source record ID already exists with different sales values.", .idempotency⟩

/-- The existing fact with the row's id, if it differs from the row. -/
def conflicts (existing : Dict String SalesTransaction) (row : SalesImportStagedRow) : Bool :=
  (existing.get row.sourceRecordId).any (fun fact => !factMatches row fact)

/-! ## One chunk -/

structure ChunkState where
  collector : IssueCollector
  invalidRows : Nat := 0
  changedRows : List SalesImportStagedRow := []

def validateRow (lookups : Lookups) (state : ChunkState) (row : SalesImportStagedRow) : ChunkState :=
  let collector := state.collector.addAll (masterDataIssues lookups row)
  let resolved := resolvedRow row (lookUp lookups row)
  if state.collector.total < collector.total then
    ⟨collector, state.invalidRows + 1, state.changedRows⟩
  else if conflicts lookups.existingFacts resolved then
    ⟨collector.add (conflictIssue row), state.invalidRows + 1, state.changedRows⟩
  else ⟨collector, state.invalidRows, state.changedRows ++ [resolved]⟩

/-- `_resolve_and_validate_chunk`: the collector, the number of invalid rows and the
rows whose references are saved. -/
def resolveAndValidateChunk (master : MasterData) (facts : List SalesTransaction) (sourceSystem : String)
    (rows : List SalesImportStagedRow) (collector : IssueCollector) : Except PyError ChunkState :=
  match (rows.map SalesImportStagedRow.transactionDate).min?,
      (rows.map SalesImportStagedRow.transactionDate).max? with
  | some minimumDate, some maximumDate =>
      .ok (rows.foldl (validateRow (prefetch master facts sourceSystem rows minimumDate maximumDate))
        { collector })
  | _, _ => .error (.valueError "min() iterable argument is empty")

/-- The variables of the validation loop; `stored` are the issues written so far and
`resolved` the rows whose references have been saved. -/
structure ValidationState where
  collector : IssueCollector
  invalidRows : Nat := 0
  stored : List SalesImportIssue := []
  resolved : List SalesImportStagedRow := []

/-- The chunks one after another, each drained before the next. -/
def validateBatches (master : MasterData) (facts : List SalesTransaction) (sourceSystem : String)
    (state : ValidationState) : List (List SalesImportStagedRow) → Except PyError ValidationState
  | [] => .ok state
  | rows :: rest =>
      match resolveAndValidateChunk master facts sourceSystem rows state.collector with
      | .error e => .error e
      | .ok chunk =>
          validateBatches master facts sourceSystem
            ⟨chunk.collector.drain.2, state.invalidRows + chunk.invalidRows,
              state.stored ++ chunk.collector.drain.1, state.resolved ++ chunk.changedRows⟩ rest

/-! ## The row-by-row rule -/

/-- `_is_effective_on`, one query on the periods of an identity in a territory. -/
def isEffectiveOn (assignments : List TerritoryAssignment) (onDate : Date) : Bool :=
  assignments.any (fun a => decide (a.effectiveFrom ≤ onDate) &&
    a.effectiveTo.all (fun last => decide (onDate ≤ last)))

def assignmentsOf (assignments : List TerritoryAssignment) (identityId territoryId : Nat) :
    List TerritoryAssignment :=
  assignments.filter (fun a => a.identityId = identityId && a.territoryId = territoryId)

/-- The error of an optional identity that had no period in the territory. -/
def assignmentErrors (assignments : List TerritoryAssignment) (field message : String)
    (identity : Option CodedMasterData) (territory : Territory) (onDate : Date) :
    List (String × String) :=
  match identity with
  | none => []
  | some identity =>
      if isEffectiveOn (assignmentsOf assignments identity.pk territory.pk) onDate then []
      else [(field, message)]

/-- `validate_sales_dimensions` on saved records: the errors by field. -/
def validateSalesDimensions (master : MasterData) (onDate : Date) (territory : Option Territory)
    (hospital salesRepresentative : Option CodedMasterData) : List (String × String) :=
  match territory with
  | none => []
  | some territory =>
      (if territory.level ≠ .territory then
        [("territory", "Sales transactions must use a Territory-level territory.")] else []) ++
      assignmentErrors master.hospitalAssignments "hospital"
        "This hospital was not assigned to the selected territory on the transaction date."
        hospital territory onDate ++
      assignmentErrors master.representativeAssignments "sales_representative"
        ("This sales representative was not assigned to the selected territory " ++
          "on the transaction date.")
        salesRepresentative territory onDate

def reports (errors : List (String × String)) (field : String) : Bool :=
  errors.any (fun error => error.1 = field)

/-- One query for each reference of the row. -/
def references (master : MasterData) (row : SalesImportStagedRow) : References where
  calendar := if row.transactionDate ∈ master.calendar then some row.transactionDate else none
  product := findBy CodedMasterData.code row.productCode master.products
  territory := findBy Territory.code row.territoryCode master.territories
  hospital :=
    if row.hospitalCode = "" then none else findBy CodedMasterData.code row.hospitalCode master.hospitals
  representative :=
    if row.salesRepresentativeCode = "" then none
    else findBy CodedMasterData.code row.salesRepresentativeCode master.representatives

/-- The plain rules for the row's own date. -/
def dimensionErrors (master : MasterData) (row : SalesImportStagedRow) : List (String × String) :=
  validateSalesDimensions master row.transactionDate (references master row).territory
    (references master row).hospital (references master row).representative

def rowMasterIssues (master : MasterData) (row : SalesImportStagedRow) : List SalesImportIssue :=
  referenceIssues row (references master row) ++
    mismatchIssues row (reports (dimensionErrors master row) "hospital")
      (reports (dimensionErrors master row) "sales_representative")

/-- The row with the references its own codes resolve to. -/
def resolve (master : MasterData) (row : SalesImportStagedRow) : SalesImportStagedRow :=
  resolvedRow row (references master row)

/-- A fact with the row's key differs from it in some value. -/
def rowConflicts (master : MasterData) (facts : List SalesTransaction) (sourceSystem : String)
    (row : SalesImportStagedRow) : Bool :=
  (findBy SalesTransaction.key (sourceSystem, row.sourceRecordId) facts).any
    (fun fact => !factMatches (resolve master row) fact)

/-- Every issue of one row, checked on its own. -/
def rowIssues (master : MasterData) (facts : List SalesTransaction) (sourceSystem : String)
    (row : SalesImportStagedRow) : List SalesImportIssue :=
  if rowMasterIssues master row ≠ [] then rowMasterIssues master row
  else if rowConflicts master facts sourceSystem row then [conflictIssue row]
  else []

/-! ## A small snapshot for worked instances -/

namespace Sample

def day : Date := ⟨2026, 1, 15, by decide⟩

/-- One product, one leaf territory, and one hospital that was assigned there from the
sample day on. -/
def master : MasterData where
  calendar := [day]
  products := [⟨1, "PROD"⟩]
  territories := [⟨1, "TERR", .territory⟩]
  hospitals := [⟨1, "HOSP"⟩]
  representatives := []
  hospitalAssignments := [⟨1, 1, day, none⟩]
  representativeAssignments := []
  products_unique := by decide
  territories_unique := by decide
  hospitals_unique := by decide
  representatives_unique := by decide

def row (rowNumber : Nat) (sourceRecordId productCode : String) : SalesImportStagedRow where
  rowNumber := rowNumber
  sourceRecordId := sourceRecordId
  transactionDate := day
  productCode := productCode
  territoryCode := "TERR"
  hospitalCode := "HOSP"
  salesRepresentativeCode := ""
  quantity := ⟨2000⟩
  revenueAmount := ⟨100000⟩
  currencyCode := "INR"

/-- A fact of the same source whose revenue differs from the sample row's. -/
def otherFact (sourceRecordId : String) : SalesValues :=
  ⟨day, 1, 1, some 1, none, ⟨2000⟩, ⟨90000⟩, "INR", "ERP", sourceRecordId⟩

def table (sourceRecordId : String) : FactTable :=
  FactTable.empty.push (otherFact sourceRecordId) 1 0 (by simp [FactTable.empty])

end Sample

end PharmaIntel.Validation
