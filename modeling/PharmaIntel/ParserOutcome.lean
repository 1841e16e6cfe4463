import Mathlib
import PharmaIntel.RowStream

/-! What a stream of CSV records makes the row generator do: which results it yields,
in which order, and which of the competing file errors ends it. -/

namespace PharmaIntel.Contracts
open PharmaIntel.Base PharmaIntel.PyText

/-! ## Headers -/

/-- The nine contract columns, in any order. -/
def IsContractHeader (headers : List String) : Prop := headers.Perm salesRowsV1Columns

instance (headers : List String) : Decidable (IsContractHeader headers) :=
  inferInstanceAs (Decidable (headers.Perm salesRowsV1Columns))

theorem duplicateHeaders_nil (headers : List String) :
    duplicateHeaders headers = [] ↔ headers.Nodup := by
  rw [duplicateHeaders, List.filter_eq_nil_iff, List.nodup_iff_count_le_one]
  constructor
  · intro single header
    by_cases member : header ∈ headers
    · have few := single header member
      simp only [decide_eq_true_eq] at few
      omega
    · rw [List.count_eq_zero_of_not_mem member]
      omega
  · intro few header _
    have single := few header
    simp only [decide_eq_true_eq]
    omega

theorem missingHeaders_nil (headers : List String) :
    missingHeaders headers = [] ↔ ∀ column ∈ salesRowsV1Columns, column ∈ headers := by
  simp [missingHeaders, List.filter_eq_nil_iff]

theorem unknownHeaders_nil (headers : List String) :
    unknownHeaders headers = [] ↔ ∀ header ∈ headers, header ∈ salesRowsV1Columns := by
  simp [unknownHeaders, List.filter_eq_nil_iff]

theorem isContractHeader_iff (headers : List String) :
    IsContractHeader headers ↔ headers.Nodup ∧ (∀ column ∈ salesRowsV1Columns, column ∈ headers) ∧
      ∀ header ∈ headers, header ∈ salesRowsV1Columns := by
  have columns : salesRowsV1Columns.Nodup := by decide
  constructor
  · intro perm
    exact ⟨perm.nodup_iff.mpr columns, fun column member => perm.mem_iff.mpr member,
      fun header member => perm.mem_iff.mp member⟩
  · rintro ⟨distinct, complete, known⟩
    exact (List.perm_ext_iff_of_nodup distinct columns).mpr
      fun name => ⟨known name, complete name⟩

/-- The error that names what is wrong with a header. -/
def schemaCode (headers : List String) : SalesContractIssueCode :=
  if ¬headers.Nodup then .schemaDuplicateColumn
  else if ¬∀ column ∈ salesRowsV1Columns, column ∈ headers then .schemaMissingColumn
  else .schemaUnknownColumn

theorem validateSalesHeaders_accepts {raw : List String}
    (proper : IsContractHeader (normalizeHeaders raw)) :
    validateSalesHeaders raw = .ok (normalizeHeaders raw) := by
  obtain ⟨distinct, complete, known⟩ := (isContractHeader_iff _).mp proper
  unfold validateSalesHeaders
  dsimp only
  rw [if_neg (not_not.mpr ((duplicateHeaders_nil _).mpr distinct)),
    if_neg (not_not.mpr ((missingHeaders_nil _).mpr complete)),
    if_neg (not_not.mpr ((unknownHeaders_nil _).mpr known))]

theorem validateSalesHeaders_refuses {raw : List String}
    (improper : ¬IsContractHeader (normalizeHeaders raw)) :
    ∃ message, validateSalesHeaders raw = .error ⟨schemaCode (normalizeHeaders raw), message⟩ := by
  unfold validateSalesHeaders schemaCode
  dsimp only
  by_cases distinct : (normalizeHeaders raw).Nodup
  · rw [if_neg (not_not.mpr ((duplicateHeaders_nil _).mpr distinct)), if_neg (not_not.mpr distinct)]
    by_cases complete : ∀ column ∈ salesRowsV1Columns, column ∈ normalizeHeaders raw
    · rw [if_neg (not_not.mpr ((missingHeaders_nil _).mpr complete)), if_neg (not_not.mpr complete)]
      have unknown : unknownHeaders (normalizeHeaders raw) ≠ [] := by
        intro none
        exact improper ((isContractHeader_iff _).mpr
          ⟨distinct, complete, (unknownHeaders_nil _).mp none⟩)
      rw [if_pos unknown]
      exact ⟨_, rfl⟩
    · rw [if_pos (fun none => complete ((missingHeaders_nil _).mp none)), if_pos complete]
      exact ⟨_, rfl⟩
  · rw [if_pos (fun none => distinct ((duplicateHeaders_nil _).mp none)), if_pos distinct]
    exact ⟨_, rfl⟩

/-! ## The result of one record -/

/-- The record id a full-width record brings, if it is not blank. -/
def recordId (headers : List String) (record : Csv.Record) : Option String :=
  if record.cells.length = headers.length ∧ strip (cellValues headers record.cells "source_record_id") ≠ ""
  then some (strip (cellValues headers record.cells "source_record_id"))
  else none

/-- The result of a record that comes after the records `earlier`. -/
def judgedRecord (ucd : UnicodeDatabase) (headers : List String) (earlier : List Csv.Record)
    (record : Csv.Record) : SalesRowValidationResult :=
  if record.cells.length ≠ headers.length then
    columnCountResult record.rowNumber headers.length record.cells.length
  else
    let values := cellValues headers record.cells
    let issues := rowIssues ucd (earlier.filterMap (recordId headers)) record.rowNumber values
    ⟨record.rowNumber, if issues ≠ [] then none else (readFields ucd record.rowNumber values).1.row, issues⟩

def judgedRecords (ucd : UnicodeDatabase) (headers : List String) (earlier : List Csv.Record) :
    List Csv.Record → List SalesRowValidationResult
  | [] => []
  | record :: rest =>
      judgedRecord ucd headers earlier record :: judgedRecords ucd headers (earlier ++ [record]) rest

theorem judgedRecords_length (ucd : UnicodeDatabase) (headers : List String)
    (earlier records : List Csv.Record) :
    (judgedRecords ucd headers earlier records).length = records.length := by
  induction records generalizing earlier with
  | nil => rfl
  | cons record rest ih => rw [judgedRecords, List.length_cons, List.length_cons, ih]

theorem judgedRecords_get (ucd : UnicodeDatabase) (headers : List String)
    (earlier records : List Csv.Record) (index : Nat) (record : Csv.Record)
    (listed : records[index]? = some record) :
    (judgedRecords ucd headers earlier records)[index]? =
      some (judgedRecord ucd headers (earlier ++ records.take index) record) := by
  induction records generalizing earlier index with
  | nil => simp at listed
  | cons first rest ih =>
    cases index with
    | zero =>
      rw [List.getElem?_cons_zero, Option.some.injEq] at listed
      rw [judgedRecords, List.getElem?_cons_zero, List.take_zero, List.append_nil, listed]
    | succ index =>
      rw [List.getElem?_cons_succ] at listed
      rw [judgedRecords, List.getElem?_cons_succ, ih _ _ listed, List.take_succ_cons, List.append_assoc]
      rfl

theorem text_stripped (ucd : UnicodeDatabase) (raw column : String) (rowNumber maxLength : Nat)
    (required : Bool) :
    (text ucd raw rowNumber column required maxLength false).1 =
      if strip raw ≠ "" then some (strip raw) else none := by
  unfold text
  by_cases blank : strip raw = ""
  · rw [if_pos blank, if_neg (not_not.mpr blank)]
  · rw [if_neg blank, if_pos blank]
    rfl

theorem readFields_sourceRecordId (ucd : UnicodeDatabase) (rowNumber : Nat) (values : String → String) :
    (readFields ucd rowNumber values).1.sourceRecordId =
      if strip (values "source_record_id") ≠ "" then some (strip (values "source_record_id")) else none := by
  have field : (readFields ucd rowNumber values).1.sourceRecordId =
      (text ucd (values "source_record_id") rowNumber "source_record_id" true 255 false).1 := rfl
  rw [field, text_stripped]

theorem recordId_wide {headers : List String} {record : Csv.Record} (ucd : UnicodeDatabase)
    (wide : record.cells.length = headers.length) :
    (readFields ucd record.rowNumber (cellValues headers record.cells)).1.sourceRecordId =
      recordId headers record := by
  rw [readFields_sourceRecordId, recordId]
  by_cases blank : strip (cellValues headers record.cells "source_record_id") ≠ ""
  · rw [if_pos blank, if_pos ⟨wide, blank⟩]
  · rw [if_neg blank, if_neg (fun both => blank both.2)]

/-- Only membership in the seen ids matters. -/
theorem duplicateIssues_seen {first second : List String} (rowNumber : Nat)
    (sourceRecordId : Option String) (same : ∀ id, id ∈ first ↔ id ∈ second) :
    duplicateIssues rowNumber first sourceRecordId = duplicateIssues rowNumber second sourceRecordId := by
  cases sourceRecordId with
  | none => rfl
  | some id =>
    rw [duplicateIssues, duplicateIssues]
    by_cases known : id ∈ first
    · rw [if_pos known, if_pos ((same id).mp known)]
    · rw [if_neg known, if_neg (fun other => known ((same id).mpr other))]

theorem rowIssues_seen (ucd : UnicodeDatabase) {first second : List String} (rowNumber : Nat)
    (values : String → String) (same : ∀ id, id ∈ first ↔ id ∈ second) :
    rowIssues ucd first rowNumber values = rowIssues ucd second rowNumber values := by
  rw [rowIssues, rowIssues, duplicateIssues_seen rowNumber _ same]

theorem mem_rememberId_iff (seen : List String) (sourceRecordId : Option String) (id : String) :
    id ∈ rememberId seen sourceRecordId ↔ id ∈ seen ∨ sourceRecordId = some id := by
  cases sourceRecordId with
  | none => simp [rememberId]
  | some other =>
    rw [rememberId]
    by_cases known : other ∈ seen
    · rw [if_pos known]
      constructor
      · exact Or.inl
      · rintro (listed | same)
        · exact listed
        · exact Option.some.inj same ▸ known
    · rw [if_neg known, List.mem_append, List.mem_singleton, Option.some.injEq, eq_comm (a := other)]

/-! ## The loop over the records -/

/-- The validator after the non-blank records `earlier`. -/
structure After (headers : List String) (maxRows : Nat) (earlier : List Csv.Record)
    (v : SalesRowsV1Validator) : Prop where
  maxRows : v.maxRows = maxRows
  rowCount : v.rowCount = earlier.length
  seen : ∀ id, id ∈ v.sourceRecordIds ↔ id ∈ earlier.filterMap (recordId headers)

theorem noteRow_within {v : SalesRowsV1Validator} (room : v.rowCount < v.maxRows) :
    v.noteRow = .ok { v with rowCount := v.rowCount + 1 } := by
  rw [SalesRowsV1Validator.noteRow, if_neg (by omega)]

theorem noteRow_beyond {v : SalesRowsV1Validator} (full : v.maxRows ≤ v.rowCount) :
    ∃ message, v.noteRow = .error ⟨.fileRowLimitExceeded, message⟩ := by
  rw [SalesRowsV1Validator.noteRow, if_pos (by omega)]
  exact ⟨_, rfl⟩

theorem recordResult_within {ucd : UnicodeDatabase} {headers : List String} {maxRows : Nat}
    {earlier : List Csv.Record} {v : SalesRowsV1Validator} (after : After headers maxRows earlier v)
    (record : Csv.Record) (room : earlier.length < maxRows) :
    ∃ next, recordResult ucd headers v record = .ok (judgedRecord ucd headers earlier record, next) ∧
      After headers maxRows (earlier ++ [record]) next := by
  have noted := noteRow_within (v := v) (by rw [after.rowCount, after.maxRows]; exact room)
  by_cases wide : record.cells.length = headers.length
  · refine ⟨{ v with
      rowCount := v.rowCount + 1
      sourceRecordIds := rememberId v.sourceRecordIds (recordId headers record) }, ?_, ?_⟩
    · rw [recordResult, if_neg (not_not.mpr wide), SalesRowsV1Validator.validate, noted, judgedRecord,
        if_neg (not_not.mpr wide)]
      dsimp only
      rw [rowIssues_seen ucd _ _ after.seen, recordId_wide ucd wide]
    · refine ⟨after.maxRows, ?_, ?_⟩
      · rw [List.length_append, ← after.rowCount]
        rfl
      · intro id
        rw [mem_rememberId_iff, after.seen, List.filterMap_append, List.mem_append]
        simp [eq_comm]
  · refine ⟨{ v with rowCount := v.rowCount + 1 }, ?_, ?_⟩
    · rw [recordResult, if_pos wide, noted, judgedRecord, if_pos wide]
    · refine ⟨after.maxRows, ?_, ?_⟩
      · rw [List.length_append, ← after.rowCount]
        rfl
      · intro id
        have none : recordId headers record = none := if_neg (fun both => wide both.1)
        rw [List.filterMap_append, List.filterMap_cons, none]
        simpa using after.seen id

theorem recordResult_beyond {ucd : UnicodeDatabase} {headers : List String} {maxRows : Nat}
    {earlier : List Csv.Record} {v : SalesRowsV1Validator} (after : After headers maxRows earlier v)
    (record : Csv.Record) (full : maxRows ≤ earlier.length) :
    ∃ message, recordResult ucd headers v record = .error ⟨.fileRowLimitExceeded, message⟩ := by
  obtain ⟨message, noted⟩ := noteRow_beyond (v := v) (by rw [after.rowCount, after.maxRows]; exact full)
  refine ⟨message, ?_⟩
  rw [recordResult]
  split_ifs
  · rw [noted]
  · rw [SalesRowsV1Validator.validate, noted]

/-- The records that count as rows. -/
def dataRecords (records : List Csv.Record) : List Csv.Record :=
  records.filter (fun record => !isBlank record.cells)

/-- How the loop ends after `count` rows. -/
inductive LoopEnds (maxRows count : Nat) (ending : Csv.Ending) : RowsEnd → Prop where
  | rowLimit {message : String} (beyond : maxRows < count) :
      LoopEnds maxRows count ending (.contractError ⟨.fileRowLimitExceeded, message⟩)
  | malformed {lineNum : Nat} {message : String} (within : count ≤ maxRows)
      (stopped : ending = .malformed lineNum) :
      LoopEnds maxRows count ending (.contractError ⟨.csvMalformed, message⟩)
  | undecodable (within : count ≤ maxRows) (stopped : ending = .undecodable) :
      LoopEnds maxRows count ending .unicodeDecodeError
  | noDataRows {message : String} (none : count = 0) (stopped : ending = .endOfFile) :
      LoopEnds maxRows count ending (.contractError ⟨.fileNoDataRows, message⟩)
  | finished (some : 1 ≤ count) (within : count ≤ maxRows) (stopped : ending = .endOfFile) :
      LoopEnds maxRows count ending .finished

theorem yieldRows_outcome (ucd : UnicodeDatabase) (headers : List String) (ending : Csv.Ending)
    {maxRows : Nat} (records : List Csv.Record) {earlier : List Csv.Record} {v : SalesRowsV1Validator}
    (after : After headers maxRows earlier v) (room : earlier.length ≤ maxRows) :
    (yieldRows ucd headers ending v records).1 =
        judgedRecords ucd headers earlier ((dataRecords records).take (maxRows - earlier.length)) ∧
      LoopEnds maxRows (earlier.length + (dataRecords records).length) ending
        (yieldRows ucd headers ending v records).2 := by
  induction records generalizing earlier v with
  | nil =>
    refine ⟨by simp [yieldRows, dataRecords, judgedRecords], ?_⟩
    rw [yieldRows]
    simp only [dataRecords, List.filter_nil, List.length_nil, Nat.add_zero]
    cases ending with
    | endOfFile =>
      rw [rowsEnd, after.rowCount]
      split_ifs with none
      · exact .noDataRows none rfl
      · exact .finished (by omega) room rfl
    | malformed lineNum => exact .malformed room rfl
    | undecodable => exact .undecodable room rfl
  | cons record rest ih =>
    rw [yieldRows]
    by_cases blank : isBlank record.cells = true
    · rw [if_pos blank]
      have skipped : dataRecords (record :: rest) = dataRecords rest := by
        simp [dataRecords, blank]
      rw [skipped]
      exact ih after room
    · rw [if_neg blank]
      have counted : dataRecords (record :: rest) = record :: dataRecords rest := by
        simp [dataRecords, blank]
      rw [counted]
      by_cases within : earlier.length < maxRows
      · obtain ⟨next, answered, afterNext⟩ := @recordResult_within ucd _ _ _ _ after record within
        have size : (earlier ++ [record]).length = earlier.length + 1 := List.length_append
        obtain ⟨laterResults, laterEnd⟩ := ih afterNext (by omega)
        rw [answered]
        dsimp only
        rw [laterResults, size]
        refine ⟨?_, ?_⟩
        · have split : maxRows - earlier.length = maxRows - (earlier.length + 1) + 1 := by omega
          rw [split, List.take_succ_cons, judgedRecords]
        · rw [size] at laterEnd
          rw [List.length_cons, Nat.add_comm (dataRecords rest).length 1, ← Nat.add_assoc]
          exact laterEnd
      · obtain ⟨message, refused⟩ := @recordResult_beyond ucd _ _ _ _ after record (by omega)
        rw [refused]
        have none : maxRows - earlier.length = 0 := by omega
        refine ⟨by rw [none, List.take_zero]; rfl, .rowLimit ?_⟩
        rw [List.length_cons]
        omega

/-! ## Repeated ids -/

theorem rowIssues_duplicate (ucd : UnicodeDatabase) (seen : List String) (rowNumber : Nat)
    (values : String → String) :
    (∃ issue ∈ rowIssues ucd seen rowNumber values, issue.code = .duplicateSourceRecordId) ↔
      ∃ id, (readFields ucd rowNumber values).1.sourceRecordId = some id ∧ id ∈ seen := by
  have others : ∀ issue ∈ (readFields ucd rowNumber values).2 ++
      currencyIssues rowNumber (strip (values "currency_code"))
        (readFields ucd rowNumber values).1.currencyCode ++
      quantityIssues rowNumber (readFields ucd rowNumber values).1.quantity ++
      measureIssues rowNumber (readFields ucd rowNumber values).1.quantity
        (readFields ucd rowNumber values).1.revenueAmount,
      issue.code ≠ .duplicateSourceRecordId := by
    have front := (((@readFields_issues rowNumber ucd values).append
      (currency_issues (strip (values "currency_code"))
        (readFields ucd rowNumber values).1.currencyCode)).append
      (quantity_issues (readFields ucd rowNumber values).1.quantity)).append
      (measure_issues (readFields ucd rowNumber values).1.quantity
        (readFields ucd rowNumber values).1.revenueAmount)
    intro issue member same
    have listed := front.keys.subset (List.mem_map_of_mem (f := issueKey) member)
    have code := List.mem_map_of_mem (f := Prod.snd) listed
    rw [issueKey, same] at code
    change SalesContractIssueCode.duplicateSourceRecordId ∈ _ at code
    exact absurd code (by decide)
  rw [rowIssues]
  constructor
  · rintro ⟨issue, member, code⟩
    rcases List.mem_append.mp member with front | last
    · exact absurd code (others issue front)
    · cases found : (readFields ucd rowNumber values).1.sourceRecordId with
      | none => simp [found, duplicateIssues] at last
      | some id =>
        rw [found, duplicateIssues] at last
        by_cases known : id ∈ seen
        · exact ⟨id, rfl, known⟩
        · rw [if_neg known] at last
          exact absurd last List.not_mem_nil
  · rintro ⟨id, found, known⟩
    rw [found, duplicateIssues, if_pos known]
    exact ⟨_, List.mem_append_right _ (List.mem_singleton_self _), rfl⟩

theorem judgedRecord_duplicate (ucd : UnicodeDatabase) (headers : List String)
    (earlier : List Csv.Record) (record : Csv.Record) :
    (∃ issue ∈ (judgedRecord ucd headers earlier record).issues,
        issue.code = .duplicateSourceRecordId) ↔
      ∃ id, recordId headers record = some id ∧ ∃ other ∈ earlier, recordId headers other = some id := by
  rw [judgedRecord]
  by_cases wide : record.cells.length = headers.length
  · rw [if_neg (not_not.mpr wide)]
    dsimp only
    rw [rowIssues_duplicate, recordId_wide ucd wide]
    simp only [List.mem_filterMap]
  · rw [if_pos wide]
    have none : recordId headers record = none := if_neg (fun both => wide both.1)
    simp [columnCountResult, issue, none]

/-! ## The outcome of a stream -/

def RowsEnd.code : RowsEnd → Option SalesContractIssueCode
  | .contractError error => some error.code
  | _ => none

/-- The column names of the first record, without a leading byte-order mark. -/
def headersOf (records : List Csv.Record) : List String :=
  normalizeHeaders ((records.head?.map Csv.Record.cells).getD [])

/-- There is a first record and it names the contract columns. -/
def ProperHeader (records : List Csv.Record) : Prop :=
  records ≠ [] ∧ IsContractHeader (headersOf records)

/-- The non-blank records after the header. -/
def rowRecords (records : List Csv.Record) : List Csv.Record := dataRecords records.tail

/-- What the records and the way they end decide about the results and the last error. -/
structure ParserOutcome (ucd : UnicodeDatabase) (maxRows : Nat) (records : List Csv.Record)
    (ending : Csv.Ending) (results : List SalesRowValidationResult) (last : RowsEnd) : Prop where
  noDataRows : last.code = some .fileNoDataRows ↔
    ending = .endOfFile ∧ (records = [] ∨ ProperHeader records ∧ rowRecords records = [])
  schema : (∃ code ∈ [SalesContractIssueCode.schemaDuplicateColumn, .schemaMissingColumn,
      .schemaUnknownColumn], last.code = some code) ↔
    records ≠ [] ∧ ¬IsContractHeader (headersOf records)
  schemaMatches : records ≠ [] → ¬IsContractHeader (headersOf records) →
    last.code = some (schemaCode (headersOf records))
  rowLimit : last.code = some .fileRowLimitExceeded ↔
    ProperHeader records ∧ maxRows < (rowRecords records).length
  malformed : last.code = some .csvMalformed ↔
    (∃ lineNum, ending = .malformed lineNum) ∧
      (records = [] ∨ ProperHeader records ∧ (rowRecords records).length ≤ maxRows)
  finished : last = .finished ↔ ending = .endOfFile ∧ ProperHeader records ∧
    1 ≤ (rowRecords records).length ∧ (rowRecords records).length ≤ maxRows
  otherwise : ending ≠ .undecodable → last.code = none →
    last = .finished ∧ 1 ≤ results.length ∧ results.length ≤ maxRows
  refused : ¬ProperHeader records → results = []
  yielded : ProperHeader records → results.length = min maxRows (rowRecords records).length
  each : ProperHeader records → ∀ index record, (rowRecords records)[index]? = some record →
    index < maxRows → ∃ result, results[index]? = some result ∧
      result = judgedRecord ucd (headersOf records) ((rowRecords records).take index) record ∧
      (record.cells.length ≠ 9 → result = columnCountResult record.rowNumber 9 record.cells.length) ∧
      ((∃ issue ∈ result.issues, issue.code = .duplicateSourceRecordId) ↔
        ∃ id, recordId (headersOf records) record = some id ∧
          ∃ other ∈ (rowRecords records).take index, recordId (headersOf records) other = some id)

theorem LoopEnds.code_rowLimit {maxRows count : Nat} {ending : Csv.Ending} {last : RowsEnd}
    (ends : LoopEnds maxRows count ending last) :
    last.code = some .fileRowLimitExceeded ↔ maxRows < count := by
  cases ends <;> simp [RowsEnd.code] <;> omega

theorem LoopEnds.code_malformed {maxRows count : Nat} {ending : Csv.Ending} {last : RowsEnd}
    (ends : LoopEnds maxRows count ending last) :
    last.code = some .csvMalformed ↔ (∃ lineNum, ending = .malformed lineNum) ∧ count ≤ maxRows := by
  cases ends <;> simp_all [RowsEnd.code]

theorem LoopEnds.code_noDataRows {maxRows count : Nat} {ending : Csv.Ending} {last : RowsEnd}
    (ends : LoopEnds maxRows count ending last) :
    last.code = some .fileNoDataRows ↔ ending = .endOfFile ∧ count = 0 := by
  cases ends <;> simp_all [RowsEnd.code] <;> omega

theorem LoopEnds.is_finished {maxRows count : Nat} {ending : Csv.Ending} {last : RowsEnd}
    (ends : LoopEnds maxRows count ending last) :
    last = .finished ↔ ending = .endOfFile ∧ 1 ≤ count ∧ count ≤ maxRows := by
  cases ends <;> simp_all

theorem LoopEnds.finished_of_none {maxRows count : Nat} {ending : Csv.Ending} {last : RowsEnd}
    (ends : LoopEnds maxRows count ending last) (decodable : ending ≠ .undecodable)
    (none : last.code = none) : last = .finished ∧ 1 ≤ count ∧ count ≤ maxRows := by
  cases ends with
  | finished some within stopped => exact ⟨rfl, some, within⟩
  | undecodable within stopped => exact absurd stopped decodable
  | rowLimit beyond => cases none
  | malformed within stopped => cases none
  | noDataRows zero stopped => cases none

theorem LoopEnds.code_other {maxRows count : Nat} {ending : Csv.Ending} {last : RowsEnd}
    (ends : LoopEnds maxRows count ending last) :
    ¬∃ code ∈ [SalesContractIssueCode.schemaDuplicateColumn, .schemaMissingColumn,
      .schemaUnknownColumn], last.code = some code := by
  cases ends <;> simp [RowsEnd.code]

theorem schemaCode_listed (headers : List String) :
    schemaCode headers ∈ [SalesContractIssueCode.schemaDuplicateColumn, .schemaMissingColumn,
      .schemaUnknownColumn] := by
  rw [schemaCode]
  split_ifs <;> decide

theorem columnCount_nine {headers : List String} (proper : IsContractHeader headers) :
    headers.length = 9 := proper.length_eq

/-- No record at all. -/
theorem outcome_empty (ucd : UnicodeDatabase) {stream : Csv.TextStream} (maxRows : Nat)
    {ending : Csv.Ending} (read : Csv.records stream = ([], ending)) :
    ParserOutcome ucd maxRows [] ending (iterSalesRowsV1Csv ucd stream maxRows).1
      (iterSalesRowsV1Csv ucd stream maxRows).2 := by
  have none : ¬ProperHeader [] := fun proper => proper.1 rfl
  unfold iterSalesRowsV1Csv
  rw [read]
  cases ending <;> constructor <;> simp [none, RowsEnd.code, malformed]

/-- A first record that is no contract header. -/
theorem outcome_refused (ucd : UnicodeDatabase) {stream : Csv.TextStream} (maxRows : Nat)
    {header : Csv.Record} {rest : List Csv.Record} {ending : Csv.Ending}
    (read : Csv.records stream = (header :: rest, ending))
    (improper : ¬IsContractHeader (headersOf (header :: rest))) :
    ParserOutcome ucd maxRows (header :: rest) ending (iterSalesRowsV1Csv ucd stream maxRows).1
      (iterSalesRowsV1Csv ucd stream maxRows).2 := by
  obtain ⟨message, refused⟩ := @validateSalesHeaders_refuses header.cells improper
  have none : ¬ProperHeader (header :: rest) := fun proper => improper proper.2
  have listed := schemaCode_listed (headersOf (header :: rest))
  have run : iterSalesRowsV1Csv ucd stream maxRows =
      ([], .contractError ⟨schemaCode (headersOf (header :: rest)), message⟩) := by
    rw [iterSalesRowsV1Csv, read]
    dsimp only
    rw [refused]
    rfl
  rw [run]
  have apart : ∀ code, code ∉ [SalesContractIssueCode.schemaDuplicateColumn, .schemaMissingColumn,
      .schemaUnknownColumn] → schemaCode (headersOf (header :: rest)) ≠ code :=
    fun code outside same => outside (same ▸ listed)
  constructor
  · simp [RowsEnd.code, none, apart .fileNoDataRows (by decide)]
  · simp only [RowsEnd.code, improper, not_false_eq_true, and_true]
    exact ⟨fun _ => List.cons_ne_nil _ _, fun _ => ⟨_, listed, rfl⟩⟩
  · exact fun _ _ => rfl
  · simp [RowsEnd.code, none, apart .fileRowLimitExceeded (by decide)]
  · simp [RowsEnd.code, none, apart .csvMalformed (by decide)]
  · simp [none]
  · simp [RowsEnd.code]
  · exact fun _ => rfl
  · exact fun proper => absurd proper none
  · exact fun proper => absurd proper none

/-- A contract header and the records after it. -/
theorem outcome_rows (ucd : UnicodeDatabase) {stream : Csv.TextStream} {maxRows : Nat}
    (positive : 1 ≤ maxRows) {header : Csv.Record} {rest : List Csv.Record} {ending : Csv.Ending}
    (read : Csv.records stream = (header :: rest, ending))
    (proper : IsContractHeader (headersOf (header :: rest))) :
    ParserOutcome ucd maxRows (header :: rest) ending (iterSalesRowsV1Csv ucd stream maxRows).1
      (iterSalesRowsV1Csv ucd stream maxRows).2 := by
  have headed : ProperHeader (header :: rest) := ⟨List.cons_ne_nil _ _, proper⟩
  have start : After (headersOf (header :: rest)) maxRows [] { maxRows } := ⟨rfl, rfl, by simp⟩
  have run : iterSalesRowsV1Csv ucd stream maxRows =
      yieldRows ucd (headersOf (header :: rest)) ending { maxRows } rest := by
    have accepted := @validateSalesHeaders_accepts header.cells proper
    rw [iterSalesRowsV1Csv, read]
    dsimp only
    rw [accepted]
    dsimp only
    rw [if_neg (by omega)]
    rfl
  obtain ⟨results, ends⟩ := yieldRows_outcome ucd (headersOf (header :: rest)) ending rest start
    (Nat.zero_le _)
  rw [List.length_nil, Nat.sub_zero] at results
  rw [List.length_nil, Nat.zero_add] at ends
  rw [run, results]
  have nonempty : header :: rest ≠ [] := List.cons_ne_nil _ _
  have same : rowRecords (header :: rest) = dataRecords rest := rfl
  constructor
  · rw [ends.code_noDataRows, same, List.length_eq_zero_iff]
    simp only [nonempty, headed, true_and, false_or]
  · exact ⟨fun some => absurd some ends.code_other, fun improper => absurd proper improper.2⟩
  · exact fun _ improper => absurd proper improper
  · rw [ends.code_rowLimit, same]
    simp only [headed, true_and]
  · rw [ends.code_malformed, same]
    simp only [nonempty, headed, true_and, false_or]
  · rw [ends.is_finished, same]
    simp only [headed, true_and]
  · intro decodable none
    obtain ⟨finished, some, within⟩ := ends.finished_of_none decodable none
    rw [judgedRecords_length, List.length_take]
    exact ⟨finished, by omega, by omega⟩
  · exact fun none => absurd headed none
  · intro _
    rw [judgedRecords_length, List.length_take, same]
  · intro _ index record listed within
    rw [same] at listed ⊢
    have inside : ((dataRecords rest).take maxRows)[index]? = some record := by
      rw [List.getElem?_take_of_lt within, listed]
    refine ⟨judgedRecord ucd (headersOf (header :: rest)) ((dataRecords rest).take index) record,
      ?_, rfl, ?_, judgedRecord_duplicate ucd _ _ record⟩
    · rw [judgedRecords_get ucd _ [] _ index record inside, List.nil_append, List.take_take,
        min_eq_left (Nat.le_of_lt within)]
    · intro wide
      rw [judgedRecord, columnCount_nine proper, if_pos wide]

theorem outcome_of_read (ucd : UnicodeDatabase) {stream : Csv.TextStream} {maxRows : Nat} (positive : 1 ≤ maxRows)
    {records : List Csv.Record} {ending : Csv.Ending} (read : Csv.records stream = (records, ending)) :
    ParserOutcome ucd maxRows records ending (iterSalesRowsV1Csv ucd stream maxRows).1
      (iterSalesRowsV1Csv ucd stream maxRows).2 := by
  cases records with
  | nil => exact outcome_empty ucd maxRows read
  | cons header rest =>
    by_cases proper : IsContractHeader (headersOf (header :: rest))
    · exact outcome_rows ucd positive read proper
    · exact outcome_refused ucd maxRows read proper

/-- The records of the tokenizer and the way they end determine the results and the error. -/
theorem parser_outcome (ucd : UnicodeDatabase) (stream : Csv.TextStream) (maxRows : Nat)
    (positive : 1 ≤ maxRows) :
    ParserOutcome ucd maxRows (Csv.records stream).1 (Csv.records stream).2
      (iterSalesRowsV1Csv ucd stream maxRows).1 (iterSalesRowsV1Csv ucd stream maxRows).2 :=
  outcome_of_read ucd positive rfl

namespace Sample

/-- A valid row, two blank records, a short row, a repeated id and one row too many. -/
def mixedFile : Csv.TextStream where
  lines := [header, line "A-1" "2.000" "1000.00", "\n", ",,,,,,,,\n", "A-2\n",
    line "A-1" "3.000" "1500.00", line "A-3" "1.000" "500.00"]

end Sample

theorem parser_outcome_sample :
    ParserOutcome asciiDatabase 3 (Csv.records Sample.mixedFile).1 (Csv.records Sample.mixedFile).2
        (iterSalesRowsV1Csv asciiDatabase Sample.mixedFile 3).1
        (iterSalesRowsV1Csv asciiDatabase Sample.mixedFile 3).2 ∧
      (iterSalesRowsV1Csv asciiDatabase Sample.mixedFile 3).1.map
          (fun result => (result.rowNumber, result.issues.map SalesRowIssue.code)) =
        [(2, []), (5, [.rowColumnCountMismatch]), (6, [.duplicateSourceRecordId])] ∧
      (iterSalesRowsV1Csv asciiDatabase Sample.mixedFile 3).2.code = some .fileRowLimitExceeded :=
  ⟨parser_outcome asciiDatabase Sample.mixedFile 3 (by decide), by decide +kernel, by decide +kernel⟩

end PharmaIntel.Contracts
