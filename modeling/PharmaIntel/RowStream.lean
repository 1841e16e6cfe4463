import Mathlib
import PharmaIntel.RowRules

/-! What holds of the results along a CSV stream: where their row numbers come from,
how each was judged, and that no accepted record id comes twice. -/

namespace PharmaIntel.Csv

/-! ## Row numbers and cell counts of the records -/

theorem recordsFrom_rowNumbers (decodable : Bool) (lines : List String) (r : Reader)
    (start lineNum : Nat) (begun : start ≤ lineNum + 1) :
    ((recordsFrom decodable r start lineNum lines).1.map Record.rowNumber).Pairwise (· < ·) ∧
      ∀ record ∈ (recordsFrom decodable r start lineNum lines).1,
        start ≤ record.rowNumber ∧ record.rowNumber ≤ lineNum + lines.length := by
  induction lines generalizing r start lineNum with
  | nil => simp [recordsFrom]
  | cons line rest ih =>
    rw [recordsFrom]
    cases processed : r.processLine line with
    | error e => simp
    | ok next =>
      dsimp only
      by_cases complete : next.state = .startRecord
      · rw [if_pos complete]
        obtain ⟨increasing, bounds⟩ := ih .reset (lineNum + 2) (lineNum + 1) (by omega)
        refine ⟨?_, ?_⟩
        · rw [List.map_cons, List.pairwise_cons]
          refine ⟨?_, increasing⟩
          intro number later
          obtain ⟨record, member, rfl⟩ := List.mem_map.mp later
          have bound := (bounds record member).1
          dsimp only
          omega
        · intro record member
          rw [List.length_cons]
          rcases List.mem_cons.mp member with rfl | later
          · dsimp only
            omega
          · have bound := bounds record later
            omega
      · rw [if_neg complete]
        obtain ⟨increasing, bounds⟩ := ih next start (lineNum + 1) (by omega)
        refine ⟨increasing, ?_⟩
        intro record member
        have bound := bounds record member
        rw [List.length_cons]
        omega

/-- The header record starts on line one and every later record on a later line. -/
theorem records_rowNumbers {stream : TextStream} {header : Record} {rest : List Record}
    {ending : Ending} (read : records stream = (header :: rest, ending)) :
    (rest.map Record.rowNumber).Pairwise (· < ·) ∧
      ∀ record ∈ rest, 2 ≤ record.rowNumber ∧ record.rowNumber ≤ stream.lines.length := by
  obtain ⟨increasing, bounds⟩ :=
    recordsFrom_rowNumbers stream.decodable stream.lines .reset 1 0 (by omega)
  rw [← records, read] at increasing bounds
  rw [List.map_cons, List.pairwise_cons] at increasing
  refine ⟨increasing.2, ?_⟩
  intro record member
  have first := (bounds header List.mem_cons_self).1
  have after := increasing.1 _ (List.mem_map_of_mem member)
  have bound := (bounds record (List.mem_cons_of_mem header member)).2
  omega

theorem addChar_fields {r next : Reader} {c : Char} (added : r.addChar c = .ok next) :
    next.fields = r.fields := by
  unfold Reader.addChar at added
  split_ifs at added
  cases added
  rfl

@[simp] theorem saveField_fields (r : Reader) : r.saveField.fields.length = r.fields.length + 1 := by
  simp [Reader.saveField]

@[simp] theorem endRecord_fields (r : Reader) (c : Option Char) :
    (r.endRecord c).fields.length = r.fields.length + 1 := saveField_fields r

theorem processStartField_fields {r next : Reader} {c : Option Char}
    (processed : r.processStartField c = .ok next) : next.fields.length ≤ r.fields.length + 1 := by
  unfold Reader.processStartField at processed
  cases c with
  | none =>
    cases processed
    simp
  | some ch =>
    dsimp only at processed
    split_ifs at processed
    · cases processed
      simp
    · cases processed
      simp
    · cases processed
      simp
    · rw [addChar_fields processed]
      simp

theorem processInField_fields {r next : Reader} {c : Option Char}
    (processed : r.processInField c = .ok next) : next.fields.length ≤ r.fields.length + 1 := by
  unfold Reader.processInField at processed
  cases c with
  | none =>
    cases processed
    simp
  | some ch =>
    dsimp only at processed
    split_ifs at processed
    · cases processed
      simp
    · cases processed
      simp
    · rw [addChar_fields processed]
      simp

theorem processQuoteInQuotedField_fields {r next : Reader} {c : Option Char}
    (processed : r.processQuoteInQuotedField c = .ok next) :
    next.fields.length ≤ r.fields.length + 1 := by
  unfold Reader.processQuoteInQuotedField at processed
  cases c with
  | none =>
    cases processed
    simp
  | some ch =>
    dsimp only at processed
    split_ifs at processed
    · rw [addChar_fields processed]
      simp
    · cases processed
      simp
    · cases processed
      simp

theorem processChar_fields {r next : Reader} {c : Option Char} (processed : r.processChar c = .ok next) :
    next.fields.length ≤ r.fields.length + 1 := by
  unfold Reader.processChar at processed
  cases state : r.state with
  | startRecord =>
    simp only [state] at processed
    split_ifs at processed
    · cases processed
      simp
    · cases processed
      simp
    · exact processStartField_fields processed
  | startField =>
    simp only [state] at processed
    exact processStartField_fields processed
  | inField =>
    simp only [state] at processed
    exact processInField_fields processed
  | inQuotedField =>
    simp only [state] at processed
    cases c with
    | none =>
      cases processed
      simp
    | some ch =>
      dsimp only at processed
      split_ifs at processed
      · cases processed
        simp
      · rw [addChar_fields processed]
        simp
  | quoteInQuotedField =>
    simp only [state] at processed
    exact processQuoteInQuotedField_fields processed
  | eatCrnl =>
    simp only [state] at processed
    cases c with
    | none =>
      cases processed
      simp
    | some ch =>
      dsimp only at processed
      split_ifs at processed
      cases processed
      simp

theorem processChars_fields (chars : List (Option Char)) {r next : Reader}
    (processed : chars.foldlM Reader.processChar r = .ok next) :
    next.fields.length ≤ r.fields.length + chars.length := by
  induction chars generalizing r with
  | nil =>
    cases processed
    simp
  | cons c rest ih =>
    rw [List.foldlM_cons] at processed
    cases first : r.processChar c with
    | error e => simp [first, bind, Except.bind] at processed
    | ok middle =>
      rw [first] at processed
      have later := ih processed
      have here := processChar_fields first
      rw [List.length_cons]
      omega

/-- One cell at most for every character and every line end. -/
def capacity (lines : List String) : Nat := (lines.map (fun line => line.length + 1)).sum

@[simp] theorem capacity_cons (line : String) (lines : List String) :
    capacity (line :: lines) = line.length + 1 + capacity lines := by
  simp only [capacity, List.map_cons, List.sum_cons]

theorem recordsFrom_cells (decodable : Bool) (lines : List String) (r : Reader) (start lineNum : Nat) :
    ∀ record ∈ (recordsFrom decodable r start lineNum lines).1,
      record.cells.length ≤ r.fields.length + capacity lines := by
  induction lines generalizing r start lineNum with
  | nil => simp [recordsFrom]
  | cons line rest ih =>
    rw [recordsFrom]
    cases processed : r.processLine line with
    | error e => simp
    | ok next =>
      have grown := processChars_fields _ processed
      rw [List.length_append, List.length_map, String.length_toList, List.length_singleton] at grown
      rw [capacity_cons]
      dsimp only
      by_cases complete : next.state = .startRecord
      · rw [if_pos complete]
        intro record member
        rcases List.mem_cons.mp member with rfl | later
        · dsimp only
          omega
        · have bound := ih .reset (lineNum + 2) (lineNum + 1) record later
          have none : Reader.reset.fields.length = 0 := rfl
          omega
      · rw [if_neg complete]
        intro record member
        have bound := ih next start (lineNum + 1) record member
        omega

theorem records_cells (stream : TextStream) :
    ∀ record ∈ (records stream).1, record.cells.length ≤ capacity stream.lines := by
  intro record member
  have bound := recordsFrom_cells stream.decodable stream.lines .reset 1 0 record member
  have none : Reader.reset.fields.length = 0 := rfl
  omega

/-! ## Unquoted cells -/

/-- A character that stands for itself outside quotes. -/
def Plain (c : Char) : Prop := c ≠ ',' ∧ c ≠ '"' ∧ c ≠ '\n' ∧ c ≠ '\r'

theorem processInField_plain {r : Reader} {c : Char} (plain : Plain c)
    (room : r.field.length < fieldSizeLimit) :
    r.processInField (some c) = .ok { r with field := r.field ++ [c] } := by
  obtain ⟨comma, _, newline, carriage⟩ := plain
  simp [Reader.processInField, endsLine, comma, newline, carriage, Reader.addChar, room]

/-- Plain characters are added to the open field one by one. -/
theorem processChars_plain (word : List Char) (plain : ∀ c ∈ word, Plain c) {r : Reader}
    (inside : r.state = .inField) (room : r.field.length + word.length ≤ fieldSizeLimit) :
    (word.map some).foldlM Reader.processChar r = .ok { r with field := r.field ++ word } := by
  induction word generalizing r with
  | nil =>
    rw [List.append_nil]
    rfl
  | cons c rest ih =>
    rw [List.length_cons] at room
    have short : r.field.length < fieldSizeLimit := by omega
    have first : r.processChar (some c) = .ok { r with field := r.field ++ [c] } := by
      simpa only [Reader.processChar, inside] using processInField_plain (plain c List.mem_cons_self) short
    rw [List.map_cons, List.foldlM_cons, first]
    have longer : (r.field ++ [c]).length + rest.length ≤ fieldSizeLimit := by
      rw [List.length_append, List.length_singleton]
      omega
    have later := @ih (fun other member => plain other (List.mem_cons_of_mem c member))
      { r with field := r.field ++ [c] } inside longer
    rw [List.append_assoc, List.singleton_append] at later
    exact later

/-- A word of plain characters opens a field and fills it. -/
theorem processChars_word {c : Char} (rest : List Char) (plain : ∀ d ∈ c :: rest, Plain d) {r : Reader}
    (start : r.state = .startRecord ∨ r.state = .startField) (empty : r.field = [])
    (room : (c :: rest).length ≤ fieldSizeLimit) :
    ((c :: rest).map some).foldlM Reader.processChar r =
      .ok { r with state := .inField, field := c :: rest } := by
  obtain ⟨comma, quote, newline, carriage⟩ := plain c List.mem_cons_self
  rw [List.length_cons] at room
  have opened : r.processChar (some c) = .ok { r with state := .inField, field := [c] } := by
    have limit : ¬fieldSizeLimit ≤ 0 := by decide
    rcases start with record | field
    · simp [Reader.processChar, record, Reader.processStartField, endsLine, comma, quote, newline, carriage,
        Reader.addChar, empty, limit]
    · simp [Reader.processChar, field, Reader.processStartField, endsLine, comma, quote, newline, carriage,
        Reader.addChar, empty, limit]
  rw [List.map_cons, List.foldlM_cons, opened]
  exact processChars_plain rest (fun d member => plain d (List.mem_cons_of_mem c member)) rfl
    (by simp only [List.length_singleton]; omega)

theorem splitLinesFrom_plain (line chars : List Char) (plain : ∀ c ∈ chars, c ≠ '\n' ∧ c ≠ '\r') :
    splitLinesFrom line chars = if (line ++ chars).isEmpty then [] else [String.ofList (line ++ chars)] := by
  fun_induction splitLinesFrom line chars with
  | case1 line empty => simp [empty]
  | case2 line filled => simp [filled]
  | case3 line rest ih => exact absurd rfl (plain '\r' (by simp)).2
  | case4 line rest _ ih => exact absurd rfl (plain '\r' (by simp)).2
  | case5 line rest ih => exact absurd rfl (plain '\n' (by simp)).1
  | case6 line c rest _ _ _ ih =>
    rw [ih (fun d member => plain d (List.mem_cons_of_mem c member)), List.append_assoc,
      List.singleton_append]

/-- A single line that repeats one plain cell. -/
theorem records_repeated {c : Char} (rest : List Char) (plain : ∀ d ∈ c :: rest, Plain d)
    (room : (c :: rest).length ≤ fieldSizeLimit) :
    records (textStream (String.ofList (c :: rest ++ ',' :: c :: rest))) =
      ([⟨1, [String.ofList (c :: rest), String.ofList (c :: rest)]⟩], .endOfFile) := by
  have lines : (textStream (String.ofList (c :: rest ++ ',' :: c :: rest))).lines =
      [String.ofList (c :: rest ++ ',' :: c :: rest)] := by
    rw [textStream, String.toList_ofList, splitLinesFrom_plain]
    · simp
    · intro d member
      rcases List.mem_append.mp member with first | second
      · exact ⟨(plain d first).2.2.1, (plain d first).2.2.2⟩
      · rcases List.mem_cons.mp second with rfl | later
        · decide
        · exact ⟨(plain d later).2.2.1, (plain d later).2.2.2⟩
  have word : Reader.processLine .reset (String.ofList (c :: rest ++ ',' :: c :: rest)) =
      .ok ⟨.startRecord, [], [String.ofList (c :: rest), String.ofList (c :: rest)]⟩ := by
    have second := @processChars_word c rest plain ⟨.startField, [], [String.ofList (c :: rest)]⟩ (Or.inr rfl)
      rfl room
    rw [Reader.processLine, String.toList_ofList, List.map_append, List.append_assoc, List.foldlM_append,
      processChars_word rest plain (Or.inl rfl) rfl room]
    change List.foldlM Reader.processChar ⟨.startField, [], [String.ofList (c :: rest)]⟩
      ((c :: rest).map some ++ [none]) = _
    rw [List.foldlM_append, second]
    rfl
  rw [records, lines, recordsFrom, word]
  rfl

/-! ## The lines of a text -/

theorem splitLinesFrom_size (line chars : List Char) :
    capacity (splitLinesFrom line chars) ≤ 2 * (line.length + chars.length) ∧
      (splitLinesFrom line chars).length ≤ line.length + chars.length := by
  fun_induction splitLinesFrom line chars with
  | case1 line empty => simp [capacity]
  | case2 line filled =>
    have positive := List.length_pos_of_ne_nil (List.isEmpty_eq_false_iff.mp (by simpa using filled))
    simp only [capacity, List.map_cons, List.map_nil, List.sum_cons, List.sum_nil,
      String.length_ofList, List.length_cons, List.length_nil]
    omega
  | case3 line rest ih =>
    simp only [capacity_cons, String.length_ofList, List.length_append, List.length_cons,
      List.length_nil] at ih ⊢
    omega
  | case4 line rest _ ih =>
    simp only [capacity_cons, String.length_ofList, List.length_append, List.length_cons,
      List.length_nil] at ih ⊢
    omega
  | case5 line rest ih =>
    simp only [capacity_cons, String.length_ofList, List.length_append, List.length_cons,
      List.length_nil] at ih ⊢
    omega
  | case6 line c rest _ _ _ ih =>
    simp only [List.length_append, List.length_cons, List.length_nil] at ih ⊢
    omega

theorem textStream_size (text : String) :
    capacity (textStream text).lines ≤ 2 * text.length ∧
      (textStream text).lines.length ≤ text.length := by
  have size := splitLinesFrom_size [] text.toList
  rwa [List.length_nil, Nat.zero_add, String.length_toList] at size

end PharmaIntel.Csv

namespace PharmaIntel.Contracts
open PharmaIntel.Base PharmaIntel.PyText

/-! ## One record -/

/-- How a yielded result came about; `width` bounds the cell counts it can mention. -/
inductive Judged (ucd : UnicodeDatabase) (width : Nat) : SalesRowValidationResult → Prop where
  | accepted {rowNumber : Nat} {row : SalesRowV1} (accepted : RowAccepted ucd row) :
      Judged ucd width ⟨rowNumber, some row, []⟩
  | refused {rowNumber : Nat} {issues : List SalesRowIssue} (nonempty : issues ≠ [])
      (from_row : IssuesFrom rowNumber rowIssueKeys issues) :
      Judged ucd width ⟨rowNumber, none, issues⟩
  | miscounted {rowNumber expected found : Nat} (expected_width : expected ≤ width)
      (found_width : found ≤ width) : Judged ucd width (columnCountResult rowNumber expected found)

theorem noteRow_ok {v next : SalesRowsV1Validator} (noted : v.noteRow = .ok next) :
    next = { v with rowCount := v.rowCount + 1 } ∧ v.rowCount + 1 ≤ v.maxRows := by
  unfold SalesRowsV1Validator.noteRow at noted
  split_ifs at noted with full
  injection noted with same
  exact ⟨same.symm, by omega⟩

theorem mem_rememberId {seen : List String} {id : String} : id ∈ rememberId seen (some id) := by
  unfold rememberId
  by_cases known : id ∈ seen
  · simp [known]
  · simp [known]

theorem subset_rememberId (seen : List String) (id : Option String) : seen ⊆ rememberId seen id := by
  cases id with
  | none => exact List.Subset.refl seen
  | some id =>
    unfold rememberId
    by_cases known : id ∈ seen
    · simp [known]
    · simp [known]

/-- What one record does to the validator. -/
structure RecordStep (ucd : UnicodeDatabase) (width : Nat) (v : SalesRowsV1Validator)
    (record : Csv.Record) (result : SalesRowValidationResult) (next : SalesRowsV1Validator) : Prop where
  rowNumber : result.rowNumber = record.rowNumber
  judged : Judged ucd width result
  unseen : ∀ row ∈ result.row, row.sourceRecordId ∉ v.sourceRecordIds
  remembered : ∀ row ∈ result.row, row.sourceRecordId ∈ next.sourceRecordIds
  kept : v.sourceRecordIds ⊆ next.sourceRecordIds
  counted : next.rowCount = v.rowCount + 1
  maxRows : next.maxRows = v.maxRows
  room : v.rowCount + 1 ≤ v.maxRows

theorem validate_step {ucd : UnicodeDatabase} {v next : SalesRowsV1Validator} {record : Csv.Record}
    {values : String → String} {result : SalesRowValidationResult} (width : Nat)
    (validated : v.validate ucd record.rowNumber values = .ok (result, next)) :
    RecordStep ucd width v record result next := by
  unfold SalesRowsV1Validator.validate at validated
  cases noted : v.noteRow with
  | error e => simp [noted] at validated
  | ok counted =>
    obtain ⟨same, room⟩ := noteRow_ok noted
    subst same
    simp only [noted, Except.ok.injEq, Prod.mk.injEq] at validated
    obtain ⟨rfl, rfl⟩ := validated
    by_cases clean : rowIssues ucd v.sourceRecordIds record.rowNumber values = []
    · have fields := row_clean clean
      obtain ⟨row, found⟩ := Option.isSome_iff_exists.mp fields.row_isSome
      have id := (FieldValues.row_eq_some found).1
      simp only [clean, ne_eq, not_true_eq_false, if_false, found, id]
      refine ⟨rfl, .accepted (fields.accepted found), ?_, ?_, ?_, rfl, rfl, room⟩
      · rintro other ⟨⟩
        exact fields.unseen found
      · rintro other ⟨⟩
        exact mem_rememberId
      · exact subset_rememberId v.sourceRecordIds (some row.sourceRecordId)
    · simp only [ne_eq, clean, not_false_eq_true, if_true]
      exact ⟨rfl, .refused clean (rowIssues_from ucd _ values), by simp, by simp,
        subset_rememberId _ _, rfl, rfl, room⟩

theorem recordResult_step {ucd : UnicodeDatabase} {headers : List String}
    {v next : SalesRowsV1Validator} {record : Csv.Record} {result : SalesRowValidationResult}
    {width : Nat} (headers_width : headers.length ≤ width) (record_width : record.cells.length ≤ width)
    (answered : recordResult ucd headers v record = .ok (result, next)) :
    RecordStep ucd width v record result next := by
  unfold recordResult at answered
  split_ifs at answered with miscounted
  · cases noted : v.noteRow with
    | error e => simp [noted] at answered
    | ok counted =>
      obtain ⟨same, room⟩ := noteRow_ok noted
      subst same
      simp only [noted, Except.ok.injEq, Prod.mk.injEq] at answered
      obtain ⟨rfl, rfl⟩ := answered
      exact ⟨rfl, .miscounted headers_width record_width, by simp [columnCountResult],
        by simp [columnCountResult], List.Subset.refl _, rfl, rfl, room⟩
  · exact validate_step width answered

/-! ## The whole stream -/

def acceptedIds (results : List SalesRowValidationResult) : List String :=
  results.filterMap (fun result => result.row.map SalesRowV1.sourceRecordId)

structure StreamFacts (ucd : UnicodeDatabase) (width : Nat) (records : List Csv.Record)
    (results : List SalesRowValidationResult) : Prop where
  rowNumbers : (results.map SalesRowValidationResult.rowNumber).Sublist
    (records.map Csv.Record.rowNumber)
  judged : ∀ result ∈ results, Judged ucd width result
  ids : (acceptedIds results).Nodup

theorem yieldRows_facts (ucd : UnicodeDatabase) (headers : List String) (ending : Csv.Ending)
    (width : Nat) (headers_width : headers.length ≤ width) (records : List Csv.Record)
    (v : SalesRowsV1Validator) (records_width : ∀ record ∈ records, record.cells.length ≤ width) :
    StreamFacts ucd width records (yieldRows ucd headers ending v records).1 ∧
      ∀ id ∈ acceptedIds (yieldRows ucd headers ending v records).1, id ∉ v.sourceRecordIds := by
  induction records generalizing v with
  | nil => exact ⟨⟨by simp [yieldRows], by simp [yieldRows], by simp [yieldRows, acceptedIds]⟩,
      by simp [yieldRows, acceptedIds]⟩
  | cons record rest ih =>
    have later_width : ∀ other ∈ rest, other.cells.length ≤ width :=
      fun other member => records_width other (List.mem_cons_of_mem record member)
    rw [yieldRows]
    by_cases blank : isBlank record.cells = true
    · rw [if_pos blank]
      obtain ⟨facts, unseen⟩ := ih v later_width
      exact ⟨⟨facts.rowNumbers.cons _, facts.judged, facts.ids⟩, unseen⟩
    · rw [if_neg blank]
      cases answered : recordResult ucd headers v record with
      | error e => exact ⟨⟨by simp, by simp, by simp [acceptedIds]⟩, by simp [acceptedIds]⟩
      | ok pair =>
        obtain ⟨result, next⟩ := pair
        have step := recordResult_step headers_width (records_width record List.mem_cons_self) answered
        obtain ⟨facts, unseen⟩ := ih next later_width
        dsimp only
        refine ⟨⟨?_, ?_, ?_⟩, ?_⟩
        · rw [List.map_cons, List.map_cons, step.rowNumber]
          exact facts.rowNumbers.cons_cons _
        · intro other member
          rcases List.mem_cons.mp member with rfl | later
          · exact step.judged
          · exact facts.judged other later
        · cases row : result.row with
          | none => simpa [acceptedIds, row] using facts.ids
          | some accepted =>
            have apart := fun member => unseen _ member (step.remembered accepted row)
            rw [acceptedIds, List.filterMap_cons, row]
            exact List.nodup_cons.mpr ⟨apart, facts.ids⟩
        · intro id member known
          cases row : result.row with
          | none =>
            rw [acceptedIds, List.filterMap_cons, row] at member
            exact unseen id member (step.kept known)
          | some accepted =>
            rw [acceptedIds, List.filterMap_cons, row] at member
            rcases List.mem_cons.mp member with rfl | later
            · exact step.unseen accepted row known
            · exact unseen id later (step.kept known)

/-- Every run of the generator: the results are judged, their row numbers increase
from two on, and their accepted ids are distinct. -/
structure ResultFacts (ucd : UnicodeDatabase) (stream : Csv.TextStream)
    (results : List SalesRowValidationResult) : Prop where
  increasing : (results.map SalesRowValidationResult.rowNumber).Pairwise (· < ·)
  rowNumber_bounds : ∀ result ∈ results,
    2 ≤ result.rowNumber ∧ result.rowNumber ≤ stream.lines.length
  judged : ∀ result ∈ results, Judged ucd (Csv.capacity stream.lines) result
  ids : (acceptedIds results).Nodup

theorem ResultFacts.nil (ucd : UnicodeDatabase) (stream : Csv.TextStream) : ResultFacts ucd stream [] :=
  ⟨by simp, by simp, by simp, by simp [acceptedIds]⟩

theorem normalizeHeaders_length (headers : List String) :
    (normalizeHeaders headers).length = headers.length := by
  cases headers with
  | nil => rfl
  | cons first rest => rfl

theorem validateSalesHeaders_ok {raw headers : List String}
    (accepted : validateSalesHeaders raw = .ok headers) : headers = normalizeHeaders raw := by
  unfold validateSalesHeaders at accepted
  dsimp only at accepted
  split_ifs at accepted
  injection accepted with same
  exact same.symm

theorem iterSalesRowsV1Csv_facts (ucd : UnicodeDatabase) (stream : Csv.TextStream) (maxRows : Nat) :
    ResultFacts ucd stream (iterSalesRowsV1Csv ucd stream maxRows).1 := by
  unfold iterSalesRowsV1Csv
  have cells := Csv.records_cells stream
  split
  · exact ResultFacts.nil ucd stream
  · exact ResultFacts.nil ucd stream
  · exact ResultFacts.nil ucd stream
  · rename_i header rest ending read
    rw [read] at cells
    cases accepted : validateSalesHeaders header.cells with
    | error e => exact ResultFacts.nil ucd stream
    | ok headers =>
      dsimp only
      by_cases refused : maxRows < 1
      · rw [if_pos refused]
        exact ResultFacts.nil ucd stream
      · rw [if_neg refused]
        have width : headers.length ≤ Csv.capacity stream.lines := by
          rw [validateSalesHeaders_ok accepted, normalizeHeaders_length]
          exact cells header List.mem_cons_self
        obtain ⟨increasing, bounds⟩ := Csv.records_rowNumbers read
        have facts := (yieldRows_facts ucd headers ending _ width rest { maxRows }
          (fun record member => cells record (List.mem_cons_of_mem header member))).1
        refine ⟨increasing.sublist facts.rowNumbers, ?_, facts.judged, facts.ids⟩
        intro result member
        have origin := facts.rowNumbers.subset (List.mem_map_of_mem member)
        obtain ⟨record, member, same⟩ := List.mem_map.mp origin
        rw [← same]
        exact bounds record member

end PharmaIntel.Contracts
