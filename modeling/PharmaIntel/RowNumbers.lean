import Mathlib
import PharmaIntel.ParserOutcome

/-! Row numbers are physical line numbers. The lines of a file fall into the spans of its
records; a record's number is the number of the line on which its span begins, and each
result of the row generator carries the number of the record it answers. -/

namespace PharmaIntel.Csv

/-! ## The lines of one record -/

/-- Reading these lines, from the reader as it stands, completes one record with the last. -/
inductive Reads : Reader → List String → List String → Prop where
  | last {r next : Reader} {line : String} (processed : r.processLine line = .ok next)
      (complete : next.state = .startRecord) : Reads r [line] next.fields
  | more {r next : Reader} {line : String} {rest cells : List String}
      (processed : r.processLine line = .ok next) (incomplete : next.state ≠ .startRecord)
      (reads : Reads next rest cells) : Reads r (line :: rest) cells

/-- The physical lines of one whole record, however many its quoted cells span. -/
structure Span where
  lines : List String
  cells : List String
  whole : Reads .reset lines cells

def spanLines (spans : List Span) : List String := spans.flatMap Span.lines

/-- The records of consecutive spans, each numbered by the line after those before it. -/
def numbered : Nat → List Span → List Record
  | _, [] => []
  | before, span :: rest => ⟨before + 1, span.cells⟩ :: numbered (before + span.lines.length) rest

theorem Reads.length_pos {r : Reader} {own cells : List String} (reads : Reads r own cells) :
    0 < own.length := by
  cases reads <;> simp

theorem Reads.recordsFrom {r : Reader} {own cells : List String} (reads : Reads r own cells)
    (decodable : Bool) (start lineNum : Nat) (after : List String) :
    recordsFrom decodable r start lineNum (own ++ after) =
      (⟨start, cells⟩ ::
          (Csv.recordsFrom decodable .reset (lineNum + own.length + 1) (lineNum + own.length) after).1,
        (Csv.recordsFrom decodable .reset (lineNum + own.length + 1) (lineNum + own.length) after).2) := by
  induction reads generalizing lineNum with
  | last processed complete =>
    rw [List.cons_append, List.nil_append, Csv.recordsFrom, processed]
    dsimp only
    rw [if_pos complete]
    rfl
  | @more r next line rest cells processed incomplete reads ih =>
    have shift : lineNum + 1 + rest.length = lineNum + (line :: rest).length := by
      simp only [List.length_cons]
      omega
    rw [List.cons_append, Csv.recordsFrom, processed]
    dsimp only
    rw [if_neg incomplete, ih (lineNum + 1), shift]

/-- Where a record comes out at all, its lines stand at the front. -/
theorem recordsFrom_first (decodable : Bool) (lines : List String) (r : Reader) (start lineNum : Nat) :
    (recordsFrom decodable r start lineNum lines).1 = [] ∨
      ∃ own cells after, lines = own ++ after ∧ Reads r own cells := by
  induction lines generalizing r start lineNum with
  | nil => exact .inl rfl
  | cons line rest ih =>
    rw [recordsFrom]
    cases processed : r.processLine line with
    | error e => exact .inl rfl
    | ok next =>
      dsimp only
      by_cases complete : next.state = .startRecord
      · exact .inr ⟨[line], next.fields, rest, rfl, .last processed complete⟩
      · rw [if_neg complete]
        rcases ih next start (lineNum + 1) with none | ⟨own, cells, after, rfl, reads⟩
        · exact .inl none
        · exact .inr ⟨line :: own, cells, after, rfl, .more processed complete reads⟩

/-- The lines taken for records fall into spans, numbered by what stands before them. -/
theorem recordsFrom_spans (decodable : Bool) (lines : List String) (lineNum : Nat) :
    ∃ spans tail, lines = spanLines spans ++ tail ∧
      (recordsFrom decodable .reset (lineNum + 1) lineNum lines).1 = numbered lineNum spans := by
  induction size : lines.length using Nat.strong_induction_on generalizing lines lineNum with
  | _ count ih =>
    rcases recordsFrom_first decodable lines .reset (lineNum + 1) lineNum with none |
      ⟨own, cells, after, rfl, reads⟩
    · exact ⟨[], lines, rfl, none⟩
    · have shorter : after.length < count := by
        have := reads.length_pos
        rw [List.length_append] at size
        omega
      obtain ⟨spans, tail, rfl, later⟩ := ih after.length shorter after (lineNum + own.length) rfl
      refine ⟨⟨own, cells, reads⟩ :: spans, tail, ?_, ?_⟩
      · simp [spanLines]
      · rw [reads.recordsFrom, numbered]
        dsimp only
        rw [later]

theorem recordsFrom_spanLines (spans : List Span) (lineNum : Nat) :
    recordsFrom true .reset (lineNum + 1) lineNum (spanLines spans) =
      (numbered lineNum spans, .endOfFile) := by
  induction spans generalizing lineNum with
  | nil => rfl
  | cons span rest ih =>
    have lines : spanLines (span :: rest) = span.lines ++ spanLines rest := rfl
    rw [lines, span.whole.recordsFrom, ih, numbered]

/-- A file made of whole spans holds exactly their records. -/
theorem records_spanLines (spans : List Span) :
    records { lines := spanLines spans } = (numbered 0 spans, .endOfFile) :=
  recordsFrom_spanLines spans 0

theorem numbered_split {spans : List Span} {before : Nat} {earlier later : List Record} {record : Record}
    (split : numbered before spans = earlier ++ record :: later) :
    ∃ front span back, spans = front ++ span :: back ∧ earlier = numbered before front ∧
      record = ⟨before + (spanLines front).length + 1, span.cells⟩ := by
  induction earlier generalizing before spans with
  | nil =>
    cases spans with
    | nil => simp [numbered] at split
    | cons span rest =>
      rw [numbered, List.nil_append, List.cons.injEq] at split
      exact ⟨[], span, rest, rfl, rfl, split.1.symm⟩
  | cons first others ih =>
    cases spans with
    | nil => simp [numbered] at split
    | cons span rest =>
      rw [numbered, List.cons_append, List.cons.injEq] at split
      obtain ⟨front, own, back, rfl, rfl, rfl⟩ := ih split.2
      refine ⟨span :: front, own, back, rfl, ?_, ?_⟩
      · rw [numbered, split.1]
      · have lines : spanLines (span :: front) = span.lines ++ spanLines front := rfl
        rw [lines, List.length_append, Nat.add_assoc before]

/-- The record begins on the line it is numbered by: the lines before that one hold just
the records before it, and those from it on begin with the record's own lines. -/
def StartsAt (lines : List String) (earlier : List Record) (record : Record) : Prop :=
  ∃ before own after, lines = before ++ own ++ after ∧ record.rowNumber = before.length + 1 ∧
    records { lines := before } = (earlier, .endOfFile) ∧
    records { lines := own } = ([⟨1, record.cells⟩], .endOfFile)

theorem records_startsAt {stream : TextStream} {earlier later : List Record} {record : Record}
    (read : (records stream).1 = earlier ++ record :: later) :
    StartsAt stream.lines earlier record := by
  obtain ⟨spans, tail, lines, same⟩ := recordsFrom_spans stream.decodable stream.lines 0
  obtain ⟨front, span, back, rfl, rfl, rfl⟩ := numbered_split (same.symm.trans read)
  refine ⟨spanLines front, span.lines, spanLines back ++ tail, ?_, ?_, records_spanLines front, ?_⟩
  · rw [lines]
    simp [spanLines]
  · dsimp only
    omega
  · have alone := records_spanLines [span]
    simpa [spanLines, numbered] using alone

end PharmaIntel.Csv

namespace PharmaIntel.Contracts
open PharmaIntel.Base PharmaIntel.PyText

/-! ## The results -/

/-- A result that answers a record of the file, whatever it says of it. -/
structure Answers (stream : Csv.TextStream) (result : SalesRowValidationResult) (record : Csv.Record) :
    Prop where
  starts : ∃ earlier, Csv.StartsAt stream.lines earlier record
  rowNumber : result.rowNumber = record.rowNumber
  issues : ∀ issue ∈ result.issues, issue.rowNumber = some record.rowNumber

theorem judgedRecord_rowNumber (ucd : UnicodeDatabase) (headers : List String)
    (earlier : List Csv.Record) (record : Csv.Record) :
    (judgedRecord ucd headers earlier record).rowNumber = record.rowNumber ∧
      ∀ issue ∈ (judgedRecord ucd headers earlier record).issues,
        issue.rowNumber = some record.rowNumber := by
  unfold judgedRecord
  split_ifs
  · refine ⟨rfl, ?_⟩
    intro marked member
    rw [List.mem_singleton.mp member]
    rfl
  · exact ⟨rfl, (rowIssues_from ucd _ _).rowNumber⟩

theorem judgedRecords_answers (ucd : UnicodeDatabase) (headers : List String) {stream : Csv.TextStream}
    (earlier records : List Csv.Record)
    (starts : ∀ record ∈ records, ∃ before, Csv.StartsAt stream.lines before record) :
    List.Forall₂ (Answers stream) (judgedRecords ucd headers earlier records) records := by
  induction records generalizing earlier with
  | nil => exact .nil
  | cons record rest ih =>
    obtain ⟨rowNumber, issues⟩ := judgedRecord_rowNumber ucd headers earlier record
    refine .cons ⟨starts record List.mem_cons_self, rowNumber, issues⟩ (ih _ ?_)
    intro other member
    exact starts other (List.mem_cons_of_mem record member)

theorem rowRecords_starts {stream : Csv.TextStream} {record : Csv.Record}
    (member : record ∈ rowRecords (Csv.records stream).1) :
    ∃ earlier, Csv.StartsAt stream.lines earlier record := by
  have listed := List.mem_of_mem_tail (List.mem_of_mem_filter member)
  obtain ⟨earlier, later, split⟩ := List.append_of_mem listed
  exact ⟨earlier, Csv.records_startsAt split⟩

/-- The results answer the first rows of the file, one each and in order. -/
theorem iterSalesRowsV1Csv_answers (ucd : UnicodeDatabase) (stream : Csv.TextStream) (maxRows : Nat) :
    List.Forall₂ (Answers stream) (iterSalesRowsV1Csv ucd stream maxRows).1
      ((rowRecords (Csv.records stream).1).take (iterSalesRowsV1Csv ucd stream maxRows).1.length) := by
  unfold iterSalesRowsV1Csv
  split
  · exact .nil
  · exact .nil
  · exact .nil
  · rename_i header rest ending read
    cases accepted : validateSalesHeaders header.cells with
    | error e => exact .nil
    | ok headers =>
      dsimp only
      split_ifs
      · exact .nil
      · have start : After headers maxRows [] { maxRows } := ⟨rfl, rfl, by simp⟩
        obtain ⟨results, -⟩ := yieldRows_outcome ucd headers ending rest start (Nat.zero_le _)
        have rows : rowRecords (Csv.records stream).1 = dataRecords rest := by
          rw [read]
          rfl
        rw [List.length_nil, Nat.sub_zero] at results
        have front : (dataRecords rest).take ((dataRecords rest).take maxRows).length =
            (dataRecords rest).take maxRows := by
          rw [List.length_take, List.take_eq_take_iff]
          omega
        rw [results, judgedRecords_length, rows, front]
        apply judgedRecords_answers
        intro record member
        exact rowRecords_starts (rows ▸ List.mem_of_mem_take member)

/-- Row numbers are physical line numbers, whatever the results say. -/
theorem rowNumbers_physical (ucd : UnicodeDatabase) (stream : Csv.TextStream) (maxRows : Nat) :
    ((iterSalesRowsV1Csv ucd stream maxRows).1.map SalesRowValidationResult.rowNumber).Pairwise (· < ·) ∧
    (∀ result ∈ (iterSalesRowsV1Csv ucd stream maxRows).1, 2 ≤ result.rowNumber) ∧
    List.Forall₂ (Answers stream) (iterSalesRowsV1Csv ucd stream maxRows).1
      ((rowRecords (Csv.records stream).1).take (iterSalesRowsV1Csv ucd stream maxRows).1.length) := by
  have facts := iterSalesRowsV1Csv_facts ucd stream maxRows
  refine ⟨facts.increasing, ?_, iterSalesRowsV1Csv_answers ucd stream maxRows⟩
  intro result member
  exact (facts.rowNumber_bounds result member).1

end PharmaIntel.Contracts
