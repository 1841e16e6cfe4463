import Mathlib
import PharmaIntel.RowStream
import PharmaIntel.Collector
import PharmaIntel.Constraints

/-! The texts of issue records against the limits of their columns. Every message is fixed
or built from bounded numbers, except that a refused header names its columns in full. -/

namespace PharmaIntel.Staging
open PharmaIntel.Base PharmaIntel.PyText PharmaIntel.Contracts PharmaIntel.Models
  PharmaIntel.Constraints

/-! ## Texts -/

def ColumnText (s : String) : Prop := s.length ≤ 64 ∧ s = trim s ∧ s ≠ ""

def CodeText (s : String) : Prop := s.length ≤ 64 ∧ codeFormat s = true

def MessageText (s : String) : Prop := s.length ≤ 1000 ∧ s = trim s ∧ s ≠ ""

instance (s : String) : Decidable (ColumnText s) := inferInstanceAs (Decidable (_ ∧ _))
instance (s : String) : Decidable (CodeText s) := inferInstanceAs (Decidable (_ ∧ _))
instance (s : String) : Decidable (MessageText s) := inferInstanceAs (Decidable (_ ∧ _))

theorem issueValid_of_texts {rowNumber : Option Nat} {column code message : String}
    {phase : SalesImportIssue.Phase} (numbered : ∀ n ∈ rowNumber, 2 ≤ n ∧ n ≤ maxBigInteger)
    (columnText : ColumnText column) (codeText : CodeText code) (messageText : MessageText message) :
    IssueValid ⟨rowNumber, column, code, message, phase⟩ :=
  ⟨numbered, columnText.1, columnText.2, codeText.1, codeText.2, messageText.1, messageText.2⟩

/-- A text between two words fits when it is short enough. -/
theorem messageText_framed {front middle back : String} (first : front.toList.head?.any (· ≠ ' ') = true)
    (last : back.toList.getLast?.any (· ≠ ' ') = true) :
    MessageText (front ++ middle ++ back) ↔ front.length + middle.length + back.length ≤ 1000 := by
  have size : (front ++ middle ++ back).length = front.length + middle.length + back.length := by
    rw [String.length_append, String.length_append]
  obtain ⟨c, start, notSpace⟩ := Option.any_eq_true _ _ |>.mp first
  obtain ⟨d, stop, notSpaceLast⟩ := Option.any_eq_true _ _ |>.mp last
  have edges : NoEdge (fun c => decide (c = ' ')) (front ++ middle ++ back).toList := by
    rw [String.toList_append, String.toList_append]
    refine ⟨?_, ?_⟩
    · intro other begins
      rw [List.append_assoc, List.head?_append, start, Option.some_or, Option.mem_some] at begins
      simpa [begins] using notSpace
    · intro other ends
      rw [List.getLast?_append, stop, Option.some_or, Option.mem_some] at ends
      simpa [ends] using notSpaceLast
  have trimmed : front ++ middle ++ back = trim (front ++ middle ++ back) := by
    rw [trim, trimBy_of_noEdge edges, String.ofList_toList]
  have nonempty : front ++ middle ++ back ≠ "" := by
    intro empty
    have chars := congrArg String.toList empty
    rw [String.toList_append, String.toList_append] at chars
    have none := (List.append_eq_nil_iff.mp (List.append_eq_nil_iff.mp chars).1).1
    rw [none] at start
    cases start
  unfold MessageText
  rw [size]
  exact ⟨fun fits => fits.1, fun short => ⟨short, trimmed, nonempty⟩⟩

/-- A number below `10 ^ digits` is written with at most that many digits. -/
theorem toString_length {n digits : Nat} (small : n < 10 ^ digits) (positive : 0 < digits) :
    (toString n).length ≤ digits := by
  rw [Nat.toString_eq_ofList_toDigits, String.length_ofList]
  exact (Nat.length_toDigits_le_iff (by decide) positive).mpr small

/-- More than any count of rows, cells or issues of one file. -/
def countLimit : Nat := 10 ^ 24

theorem toString_count {n : Nat} (counted : n < countLimit) : (toString n).length ≤ 24 :=
  toString_length counted (by decide)

theorem rowKeys_text : ∀ key ∈ rowIssueKeys, ColumnText key.1 := by decide +kernel

theorem rowMessages_text : ∀ message ∈ rowMessages, MessageText message := by decide +kernel

theorem code_text (code : SalesContractIssueCode) : CodeText code.value := by
  cases code <;> decide +kernel

/-! ## Refused headers -/

theorem intercalate_length (separator : String) (names : List String) :
    (separator.intercalate names).length ≤
      (names.map (fun name => name.length + separator.length)).sum := by
  induction names with
  | nil => simp
  | cons name rest ih =>
    cases rest with
    | nil => simp
    | cons other rest =>
      rw [String.intercalate_cons_cons, String.length_append, String.length_append, List.map_cons,
        List.sum_cons]
      omega

theorem joinedNames_length (names : List String) :
    (joinedNames names).length ≤ (names.map (fun name => name.length + 2)).sum := by
  have perm := List.perm_insertionSort (· ≤ ·) names.dedup
  have separated : ", ".length = 2 := by decide
  calc (joinedNames names).length
      ≤ ((names.dedup.insertionSort (· ≤ ·)).map (fun name => name.length + 2)).sum := by
        have joined := intercalate_length ", " (names.dedup.insertionSort (· ≤ ·))
        rwa [separated] at joined
    _ = (names.dedup.map (fun name => name.length + 2)).sum := (perm.map _).sum_eq
    _ ≤ (names.map (fun name => name.length + 2)).sum :=
        ((List.dedup_sublist names).map _).sum_le_sum (fun _ _ => Nat.zero_le _)

/-- The names a refused header would be reported with are short enough. -/
def HeaderNamesFit (headers : List String) : Prop :=
  (duplicateHeaders headers ≠ [] → (joinedNames (duplicateHeaders headers)).length ≤ 974) ∧
    (duplicateHeaders headers = [] → missingHeaders headers = [] →
      (joinedNames (unknownHeaders headers)).length ≤ 976)

instance (headers : List String) : Decidable (HeaderNamesFit headers) := inferInstanceAs (Decidable (_ ∧ _))

theorem missing_text (headers : List String) :
    MessageText ("Missing required sales columns: " ++ joinedNames (missingHeaders headers) ++ ".") := by
  rw [messageText_framed (by decide +kernel) (by decide +kernel)]
  have bound := joinedNames_length (missingHeaders headers)
  have few : ((missingHeaders headers).map (fun name => name.length + 2)).sum ≤
      (salesRowsV1Columns.map (fun name => name.length + 2)).sum :=
    (List.filter_sublist.map _).sum_le_sum (fun _ _ => Nat.zero_le _)
  have columns : (salesRowsV1Columns.map (fun name => name.length + 2)).sum ≤ 900 := by decide +kernel
  have front : "Missing required sales columns: ".length = 32 := by decide
  have back : ".".length = 1 := by decide
  omega

/-- A refused header is reported in a message that fits exactly when its names do. -/
theorem header_text {raw : List String} {error : SalesFileContractError}
    (refused : validateSalesHeaders raw = .error error) :
    MessageText error.message ↔ HeaderNamesFit (normalizeHeaders raw) := by
  have duplicateFront : "Duplicate sales columns: ".length = 25 := by decide
  have unknownFront : "Unknown sales columns: ".length = 23 := by decide
  have back : ".".length = 1 := by decide
  unfold validateSalesHeaders at refused
  dsimp only at refused
  split_ifs at refused with duplicate missing unknown
  · injection refused with same
    subst same
    rw [messageText_framed (by decide +kernel) (by decide +kernel)]
    exact ⟨fun short => ⟨fun _ => by omega, fun none => absurd none duplicate⟩,
      fun fits => by have short := fits.1 duplicate; omega⟩
  · injection refused with same
    subst same
    exact ⟨fun _ => ⟨fun some => absurd some duplicate, fun _ none => absurd none missing⟩,
      fun _ => missing_text _⟩
  · injection refused with same
    subst same
    rw [messageText_framed (by decide +kernel) (by decide +kernel)]
    exact ⟨fun short => ⟨fun some => absurd some duplicate, fun _ _ => by omega⟩,
      fun fits => by have short := fits.2 (not_not.mp duplicate) (not_not.mp missing); omega⟩

/-! ## The stream -/

theorem recordsFrom_bounds (decodable : Bool) (lines : List String) (r : Csv.Reader) (start lineNum : Nat) :
    (Csv.recordsFrom decodable r start lineNum lines).1.length ≤ lines.length ∧
      ∀ n, (Csv.recordsFrom decodable r start lineNum lines).2 = .malformed n → n ≤ lineNum + lines.length := by
  induction lines generalizing r start lineNum with
  | nil =>
    refine ⟨le_rfl, ?_⟩
    intro n stopped
    simp only [Csv.recordsFrom, Csv.Reader.atEnd] at stopped
    split_ifs at stopped
    cases stopped
    exact le_rfl
  | cons line rest ih =>
    rw [Csv.recordsFrom, List.length_cons]
    cases processed : r.processLine line with
    | error e =>
      refine ⟨Nat.zero_le _, ?_⟩
      intro n stopped
      cases stopped
      omega
    | ok next =>
      dsimp only
      by_cases complete : next.state = .startRecord
      · rw [if_pos complete]
        obtain ⟨few, stops⟩ := ih .reset (lineNum + 2) (lineNum + 1)
        refine ⟨by rw [List.length_cons]; omega, ?_⟩
        intro n stopped
        have bound := stops n stopped
        omega
      · rw [if_neg complete]
        obtain ⟨few, stops⟩ := ih next start (lineNum + 1)
        refine ⟨by omega, ?_⟩
        intro n stopped
        have bound := stops n stopped
        omega

theorem malformed_text {n : Nat} (bounded : n < countLimit) :
    MessageText ("Malformed CSV near row " ++ toString n ++ ".") := by
  have digits := toString_count bounded
  have front : "Malformed CSV near row ".length = 23 := by decide
  have back : ".".length = 1 := by decide
  rw [messageText_framed (by decide +kernel) (by decide +kernel)]
  omega

/-- A row is noted, or the limit it exceeds is no larger than the rows before it. -/
theorem noteRow_error {v : SalesRowsV1Validator} {error : SalesFileContractError}
    (full : v.noteRow = .error error) (bounded : v.rowCount < countLimit) : MessageText error.message := by
  unfold SalesRowsV1Validator.noteRow at full
  split_ifs at full with exceeded
  injection full with same
  subst same
  have small : v.maxRows < countLimit := by omega
  have digits := toString_count small
  have front : "The file exceeds the ".length = 21 := by decide
  have back : "-row safety limit.".length = 18 := by decide
  rw [messageText_framed (by decide +kernel) (by decide +kernel)]
  omega

theorem recordResult_error {ucd : UnicodeDatabase} {headers : List String} {v : SalesRowsV1Validator}
    {record : Csv.Record} {error : SalesFileContractError}
    (refused : recordResult ucd headers v record = .error error) : v.noteRow = .error error := by
  unfold recordResult SalesRowsV1Validator.validate at refused
  cases noted : v.noteRow with
  | error e =>
    simp only [noted, ite_self, Except.error.injEq] at refused
    rw [refused]
  | ok counted =>
    simp only [noted] at refused
    split_ifs at refused

theorem yieldRows_text {ucd : UnicodeDatabase} {headers : List String} {ending : Csv.Ending}
    (stops : ∀ n, ending = .malformed n → n < countLimit) (records : List Csv.Record)
    (v : SalesRowsV1Validator) (bounded : v.rowCount + records.length < countLimit)
    {error : SalesFileContractError}
    (refused : (yieldRows ucd headers ending v records).2 = .contractError error) :
    MessageText error.message := by
  induction records generalizing v with
  | nil =>
    rw [yieldRows] at refused
    cases ending with
    | endOfFile =>
      simp only [rowsEnd] at refused
      split_ifs at refused
      cases refused
      decide +kernel
    | malformed n =>
      cases refused
      exact malformed_text (stops n rfl)
    | undecodable => cases refused
  | cons record rest ih =>
    rw [List.length_cons] at bounded
    rw [yieldRows] at refused
    by_cases blank : isBlank record.cells = true
    · rw [if_pos blank] at refused
      exact ih v (by omega) refused
    · rw [if_neg blank] at refused
      cases answered : recordResult ucd headers v record with
      | error e =>
        rw [answered] at refused
        cases refused
        exact noteRow_error (recordResult_error answered) (by omega)
      | ok pair =>
        obtain ⟨result, next⟩ := pair
        rw [answered] at refused
        have step := recordResult_step (le_max_left _ _) (le_max_right _ _) answered
        exact ih next (by rw [step.counted]; omega) refused

end PharmaIntel.Staging
