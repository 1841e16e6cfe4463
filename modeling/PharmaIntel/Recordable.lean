import Mathlib
import PharmaIntel.IssueTexts
import PharmaIntel.Storable
import PharmaIntel.Overlap

/-! Which issue records the database accepts: all that one attempt hands out, unless a
header is refused whose names do not fit into a message. -/

namespace PharmaIntel.Staging
open PharmaIntel.Base PharmaIntel.PyText PharmaIntel.Contracts PharmaIntel.Models
  PharmaIntel.Constraints PharmaIntel.Collector

/-! ## Records -/

theorem length_flatMap_le {α β : Type} {n : Nat} {f : α → List β} (l : List α)
    (few : ∀ a ∈ l, (f a).length ≤ n) : (l.flatMap f).length ≤ l.length * n := by
  rw [List.length_flatMap, ← List.length_map (f := fun a => (f a).length), ← smul_eq_mul]
  apply List.sum_le_card_nsmul
  intro size member
  obtain ⟨a, inside, rfl⟩ := List.mem_map.mp member
  exact few a inside

/-- The records one attempt hands to the database. -/
structure Recordable (records : List SalesImportIssue) : Prop where
  valid : ∀ issue ∈ records, IssueValid issue
  identities : (records.map identity).Nodup

theorem summary_valid {c : IssueCollector} (counted : c.detailCount < countLimit) : IssueValid c.summary := by
  have digits := toString_count counted
  have front : "Only the first ".length = 15 := by decide
  have middle : " detailed validation ".length = 21 := by decide
  have back : "issues were stored. Correct those issues and submit a new file.".length = 63 := by decide
  have message : c.summary.message = "Only the first " ++ (toString c.detailCount ++ " detailed validation ") ++
      "issues were stored. Correct those issues and submit a new file." := by
    simp only [IssueCollector.summary, String.append_assoc]
  refine issueValid_of_texts (by simp) (by decide +kernel) (by decide +kernel) ?_
  change MessageText c.summary.message
  rw [message, messageText_framed (by decide +kernel) (by decide +kernel), String.length_append]
  omega

theorem Recordable.nil : Recordable [] := ⟨by simp, List.nodup_nil⟩

/-- What a collector hands out is recordable when what it counted is. -/
theorem Recordable.handed {c : IssueCollector} {counted released : List SalesImportIssue}
    (tracks : IssueCollector.Tracks c counted released) (recordable : Recordable counted)
    (unsummarized : ∀ issue ∈ counted, identity issue ≠ identity c.summary)
    (few : counted.length < countLimit) : Recordable (released ++ c.persisted) := by
  have listed := tracks.persisted_sublist
  have summary : IssueValid c.summary := summary_valid (tracks.detailCount_le.trans_lt few)
  have front := List.take_subset (IssueCollector.detailLimit c.maximum) counted
  refine ⟨?_, ?_⟩
  · intro issue member
    rcases List.mem_append.mp (listed.subset member) with detail | last
    · exact recordable.valid issue (front detail)
    · rw [List.mem_singleton.mp last]
      exact summary
  · refine List.Nodup.sublist (listed.map identity) ?_
    rw [List.map_append, List.nodup_append]
    refine ⟨recordable.identities.sublist ((List.take_sublist _ _).map identity), by simp, ?_⟩
    intro key known other last same
    obtain ⟨issue, detail, rfl⟩ := List.mem_map.mp known
    rw [List.map_singleton, List.mem_singleton] at last
    exact unsummarized issue (front detail) (same.trans last)

/-! ## The records of staging -/

/-- The names in the header of the file fit into a message. -/
def HeaderFits (text : String) : Prop :=
  ∀ header rest ending, Csv.records (Csv.textStream text) = (header :: rest, ending) →
    HeaderNamesFit (normalizeHeaders header.cells)

theorem judged_valid {ucd : UnicodeDatabase} {width : Nat} {result : SalesRowValidationResult}
    (judged : Judged ucd width result) (bounded : width < countLimit)
    (numbered : 2 ≤ result.rowNumber ∧ result.rowNumber ≤ maxBigInteger) :
    (∀ issue ∈ result.issues.map contractIssue, IssueValid issue) ∧
      result.issues.length ≤ rowIssueKeys.length := by
  cases judged with
  | accepted accepted => simp
  | @refused rowNumber issues nonempty from_row =>
    refine ⟨?_, ?_⟩
    · intro issue member
      obtain ⟨origin, here, rfl⟩ := List.mem_map.mp member
      have known := from_row.keys.subset (List.mem_map_of_mem here)
      refine issueValid_of_texts ?_ (rowKeys_text _ known) (code_text origin.code)
        (rowMessages_text _ (from_row.message origin here))
      rw [from_row.rowNumber origin here]
      rintro n ⟨⟩
      exact numbered
    · rw [← List.length_map (f := issueKey)]
      exact from_row.keys.length_le
  | @miscounted rowNumber expected found expected_width found_width =>
    refine ⟨?_, (by decide : 1 ≤ rowIssueKeys.length)⟩
    intro issue member
    obtain ⟨origin, here, rfl⟩ := List.mem_map.mp member
    obtain rfl := List.mem_singleton.mp here
    have digits := toString_count (expected_width.trans_lt bounded)
    have digitsFound := toString_count (found_width.trans_lt bounded)
    have front : "Expected ".length = 9 := by decide
    have middle : " cells; found ".length = 14 := by decide
    have back : ".".length = 1 := by decide
    have message : "Expected " ++ toString expected ++ " cells; found " ++ toString found ++ "." =
        "Expected " ++ (toString expected ++ " cells; found " ++ toString found) ++ "." := by
      simp only [String.append_assoc]
    have short : MessageText
        ("Expected " ++ toString expected ++ " cells; found " ++ toString found ++ ".") := by
      rw [message, messageText_framed (by decide +kernel) (by decide +kernel), String.length_append,
        String.length_append]
      omega
    exact issueValid_of_texts (by rintro n ⟨⟩; exact numbered)
      (by decide +kernel : ColumnText "__row__") (code_text _) short

section File
variable (settings : Settings) (ucd : UnicodeDatabase) {text : String}

theorem iter_text (size : text.length ≤ maxBigInteger) (fits : HeaderFits text) (maxRows : Nat)
    {error : SalesFileContractError}
    (refused : (iterSalesRowsV1Csv ucd (Csv.textStream text) maxRows).2 = .contractError error) :
    MessageText error.message := by
  have lines := (Csv.textStream_size text).2
  have limit : maxBigInteger < countLimit := by decide
  obtain ⟨few, stops⟩ := recordsFrom_bounds (Csv.textStream text).decodable (Csv.textStream text).lines
    .reset 1 0
  rw [← Csv.records] at few stops
  unfold iterSalesRowsV1Csv at refused
  split at refused
  · cases refused
    decide +kernel
  · rename_i n read
    cases refused
    have bound := stops n (by rw [read])
    exact malformed_text (by omega)
  · cases refused
  · rename_i header rest ending read
    cases accepted : validateSalesHeaders header.cells with
    | error e =>
      simp only [accepted, RowsEnd.contractError.injEq] at refused
      rw [← refused]
      exact (header_text accepted).mpr (fits header rest ending read)
    | ok headers =>
      simp only [accepted] at refused
      split_ifs at refused
      rw [read] at few stops
      rw [List.length_cons] at few
      refine yieldRows_text ?_ rest { maxRows } (by dsimp only; omega) refused
      intro n stopped
      have bound := stops n stopped
      omega

theorem fileIssues_valid (size : text.length ≤ maxBigInteger) (fits : HeaderFits text) :
    ∀ issue ∈ fileIssues (ending settings ucd (Csv.textStream text)), IssueValid issue := by
  intro issue member
  cases stopped : ending settings ucd (Csv.textStream text) with
  | contractError error =>
    rw [stopped] at member
    obtain rfl := List.mem_singleton.mp member
    exact issueValid_of_texts (by simp) (by decide +kernel : ColumnText "__file__") (code_text _)
      (iter_text ucd size fits settings.maxRows stopped)
  | unicodeDecodeError =>
    rw [stopped] at member
    obtain rfl := List.mem_singleton.mp member
    exact issueValid_of_texts (by simp) (by decide +kernel) (by decide +kernel) (by decide +kernel)
  | finished => simp [stopped, fileIssues] at member
  | valueError message => simp [stopped, fileIssues] at member

theorem code_not_summary (code : SalesContractIssueCode) : code.value ≠ "ISSUE_LIMIT_REACHED" := by
  cases code <;> decide

theorem fileIssues_identities :
    ((fileIssues (ending settings ucd (Csv.textStream text))).map identity).Nodup ∧
      ∀ issue ∈ fileIssues (ending settings ucd (Csv.textStream text)),
        issue.rowNumber = none ∧ issue.code ≠ "ISSUE_LIMIT_REACHED" := by
  cases ending settings ucd (Csv.textStream text) with
  | contractError error =>
    refine ⟨List.nodup_singleton _, ?_⟩
    intro issue member
    obtain rfl := List.mem_singleton.mp member
    exact ⟨rfl, code_not_summary error.code⟩
  | unicodeDecodeError => exact ⟨List.nodup_singleton _, by decide +kernel⟩
  | finished => simp [fileIssues]
  | valueError message => simp [fileIssues]

/-- No file has more rows than lines. -/
theorem results_length (stream : Csv.TextStream) : (results settings ucd stream).length ≤ stream.lines.length + 1 := by
  have facts := results_facts settings ucd stream
  have within : (results settings ucd stream).map SalesRowValidationResult.rowNumber ⊆
      List.range (stream.lines.length + 1) := by
    intro n member
    obtain ⟨result, inside, rfl⟩ := List.mem_map.mp member
    have bounds := facts.rowNumber_bounds result inside
    rw [List.mem_range]
    omega
  have few := (List.subperm_of_subset (facts.increasing.imp (fun less => less.ne)) within).length_le
  rwa [List.length_map, List.length_range] at few

/-- Everything the file is counted for is recordable while the header fits. -/
theorem counted_recordable (size : text.length ≤ maxBigInteger) (fits : HeaderFits text) :
    Recordable (countedIssues settings ucd (Csv.textStream text)) := by
  have facts := results_facts settings ucd (Csv.textStream text)
  obtain ⟨width, lines⟩ := Csv.textStream_size text
  have limit : 2 * maxBigInteger < countLimit := by decide
  obtain ⟨fileDistinct, unnumbered⟩ := @fileIssues_identities settings ucd text
  refine ⟨?_, ?_⟩
  · intro issue member
    rcases List.mem_append.mp member with row | file
    · obtain ⟨result, inside, reported⟩ := List.mem_flatMap.mp row
      have bounds := facts.rowNumber_bounds result inside
      exact (judged_valid (facts.judged result inside) (by omega) (by omega)).1 issue reported
    · exact fileIssues_valid settings ucd size fits issue file
  · rw [countedIssues, List.map_append, List.nodup_append]
    refine ⟨?_, fileDistinct, ?_⟩
    · exact identities_flatMap (facts.increasing.imp (fun less => less.ne))
        (fun result inside => judged_identities (facts.judged result inside))
    · intro key known other file same
      obtain ⟨issue, member, rfl⟩ := List.mem_map.mp known
      obtain ⟨result, inside, reported⟩ := List.mem_flatMap.mp member
      obtain ⟨later, fileMember, rfl⟩ := List.mem_map.mp file
      have numbers := congrArg Prod.fst same
      rw [identity, identity, (judged_identities (facts.judged result inside)).2 issue reported,
        (unnumbered later fileMember).1] at numbers
      cases numbers

theorem counted_unsummarized (c : IssueCollector) :
    ∀ issue ∈ countedIssues settings ucd (Csv.textStream text), identity issue ≠ identity c.summary := by
  have facts := results_facts settings ucd (Csv.textStream text)
  intro issue member same
  rcases List.mem_append.mp member with row | file
  · obtain ⟨result, inside, reported⟩ := List.mem_flatMap.mp row
    have numbers := congrArg Prod.fst same
    rw [identity, (judged_identities (facts.judged result inside)).2 issue reported] at numbers
    cases numbers
  · exact ((fileIssues_identities settings ucd).2 issue file).2 (congrArg (fun key => key.2.2) same)

theorem counted_few (size : text.length ≤ maxBigInteger) :
    (countedIssues settings ucd (Csv.textStream text)).length < countLimit := by
  have facts := results_facts settings ucd (Csv.textStream text)
  obtain ⟨width, lines⟩ := Csv.textStream_size text
  have rows := results_length settings ucd (Csv.textStream text)
  have limit : 30 * (maxBigInteger + 1) + 1 < countLimit ∧ 2 * maxBigInteger < countLimit := by decide
  have perRow : (contractIssues (results settings ucd (Csv.textStream text))).length ≤
      (results settings ucd (Csv.textStream text)).length * 30 := by
    apply length_flatMap_le
    intro result inside
    have bounds := facts.rowNumber_bounds result inside
    rw [List.length_map]
    exact (judged_valid (facts.judged result inside) (by omega) (by omega)).2
  have file : (fileIssues (ending settings ucd (Csv.textStream text))).length ≤ 1 := by
    cases ending settings ucd (Csv.textStream text) <;> simp [fileIssues]
  rw [countedIssues, List.length_append]
  omega

theorem staged_recordable (size : text.length ≤ maxBigInteger) (fits : HeaderFits text) :
    Recordable ((batches settings ucd (Csv.textStream text)).flatMap ParseBatch.issues) := by
  rw [batches_issues]
  exact Recordable.handed (lastCollector_tracks settings ucd (Csv.textStream text))
    (counted_recordable settings ucd size fits) (counted_unsummarized settings ucd _)
    (counted_few settings ucd size)

/-- A header that passes has no names to report. -/
theorem accepted_fits {raw headers : List String} (accepted : validateSalesHeaders raw = .ok headers) :
    HeaderNamesFit (normalizeHeaders raw) := by
  unfold validateSalesHeaders at accepted
  dsimp only at accepted
  split_ifs at accepted with duplicate missing unknown
  refine ⟨fun some => absurd some duplicate, fun _ _ => ?_⟩
  rw [not_not.mp unknown]
  decide

/-- A header whose names do not fit is the one thing recorded, and cannot be stored. -/
theorem staged_unrecordable (unfit : ¬HeaderFits text) :
    ¬Recordable ((batches settings ucd (Csv.textStream text)).flatMap ParseBatch.issues) := by
  simp only [HeaderFits, not_forall] at unfit
  obtain ⟨header, rest, stream, read, names⟩ := unfit
  cases refused : validateSalesHeaders header.cells with
  | ok headers => exact absurd (accepted_fits refused) names
  | error error =>
    have run : iterSalesRowsV1Csv ucd (Csv.textStream text) settings.maxRows = ([], .contractError error) := by
      rw [iterSalesRowsV1Csv, read]
      simp only [refused]
    have counted : countedIssues settings ucd (Csv.textStream text) =
        [⟨none, "__file__", error.code.value, error.message, .contract⟩] := by
      rw [countedIssues, results, ending, run]
      rfl
    have positive := IssueCollector.detailLimit_positive settings.maxIssues_positive
    have whole := (lastCollector_tracks settings ucd (Csv.textStream text)).persisted_whole (by
      rw [counted, lastCollector_maximum, List.length_singleton]
      exact positive)
    rw [← batches_issues, counted] at whole
    rw [whole]
    intro recordable
    have valid := recordable.valid _ (List.mem_singleton.mpr rfl)
    exact names ((header_text refused).mp ⟨valid.message_limit, valid.message_valid⟩)

end File

end PharmaIntel.Staging

namespace PharmaIntel.Publication
open PharmaIntel.Base PharmaIntel.Models PharmaIntel.Constraints PharmaIntel.Collector
  PharmaIntel.Validation PharmaIntel.Staging PharmaIntel.Queue

/-! ## The records of publication -/

/-- What `_publish_once` hands to the database, whether or not it then commits. -/
def publicationRecords (settings : Settings) (snapshot : Snapshot) (intake : SalesImport)
    (attempt : SalesImportAttempt) (createdAt : Instant) (store : Store) : List SalesImportIssue :=
  match validateBatches snapshot.master snapshot.factTable.facts intake.sourceSystem
      { collector := { maximum := settings.maxIssues } }
      (batched settings.dbBatchSize (inRowOrder attempt.stagedRows)) with
  | .error _ => []
  | .ok checked =>
      checked.stored ++
        if checked.collector.total ≠ 0 then checked.collector.persisted
        else
          match linkRows settings snapshot intake (validatedAttempt attempt checked) checked.collector
              createdAt store with
          | .error (.rejected rejected) => rejected.persisted
          | _ => []

/-- A committed publication has stored just these records. -/
theorem publishLocked_records {settings : Settings} {snapshot : Snapshot} {jobId : Uuid}
    {intake : SalesImport} {job : SalesImportJob} {attempt : SalesImportAttempt} {times : PublicationTimes}
    {store next : Store} {result : SalesImportProcessingResult}
    (done : publishLocked settings snapshot jobId intake job attempt times store = .ok (result, next)) :
    ∃ finalJob finalAttempt, finalAttempt.issues = attempt.issues ++
        publicationRecords settings snapshot intake attempt times.createdAt store ∧
      finalAttempt.id = attempt.id ∧
      next.importTable = (saveJob store jobId (saveAttempt finalJob finalAttempt)).importTable := by
  unfold publishLocked at done
  unfold publicationRecords
  cases validated : validateBatches snapshot.master snapshot.factTable.facts intake.sourceSystem
      { collector := { maximum := settings.maxIssues } }
      (batched settings.dbBatchSize (inRowOrder attempt.stagedRows)) with
  | error e => simp [validated] at done
  | ok checked =>
    simp only [validated] at done ⊢
    split_ifs at done ⊢ with counted
    · obtain ⟨_, _, saved⟩ := finishLockedJob_inv done
      rw [saved]
      refine ⟨_, _, ?_, ?_, rfl⟩
      · exact List.append_assoc _ _ _
      · rfl
    · simp only [publishValidated] at done
      cases linked : linkRows settings snapshot intake (validatedAttempt attempt checked)
          checked.collector times.createdAt store with
      | error stop =>
        cases stop with
        | raised e => simp [linked] at done
        | rejected rejected =>
          simp only [linked] at done ⊢
          obtain ⟨_, _, saved⟩ := finishLockedJob_inv done
          rw [saved]
          refine ⟨_, _, ?_, ?_, rfl⟩
          · exact List.append_assoc _ _ _
          · rfl
      | ok state =>
        simp only [linked] at done ⊢
        obtain ⟨_, _, saved⟩ := finishLockedJob_inv done
        rw [saved]
        refine ⟨_, _, ?_, ?_, rfl⟩
        · rw [List.append_nil]
          rfl
        · rfl

theorem masterIssue_valid {row : SalesImportStagedRow} {column code message : String}
    (numbered : 2 ≤ row.rowNumber ∧ row.rowNumber ≤ maxBigInteger) (columnText : ColumnText column)
    (codeText : CodeText code) (messageText : MessageText message) :
    IssueValid (masterIssue row column code message) :=
  issueValid_of_texts (by rintro n ⟨⟩; exact numbered) columnText codeText messageText

theorem catalogue_valid {row : SalesImportStagedRow}
    (numbered : 2 ≤ row.rowNumber ∧ row.rowNumber ≤ maxBigInteger) :
    ∀ issue ∈ catalogue row, IssueValid issue := by
  intro issue member
  rcases List.mem_append.mp member with master | conflict
  · simp only [masterCatalogue, referenceCatalogue, List.cons_append, List.nil_append, List.mem_cons,
      List.not_mem_nil, or_false] at master
    rcases master with rfl | rfl | rfl | rfl | rfl | rfl | rfl | rfl <;>
      exact masterIssue_valid numbered (by decide +kernel) (by decide +kernel) (by decide +kernel)
  · rw [List.mem_singleton.mp conflict]
    exact issueValid_of_texts (by rintro n ⟨⟩; exact numbered) (by decide +kernel) (by decide +kernel)
      (by decide +kernel)

theorem conflicts_fresh {c : IssueCollector} {rows : List SalesImportStagedRow}
    (distinct : (rows.map SalesImportStagedRow.rowNumber).Nodup) (forgotten : c.pendingIdentities = [])
    (p : SalesImportStagedRow → Bool) :
    IssueCollector.Fresh c ((rows.filter p).map conflictIssue) := by
  refine ⟨?_, by simp [forgotten]⟩
  rw [List.map_map]
  apply List.Nodup.of_map Prod.fst
  rw [List.map_map]
  have numbers := (distinct.sublist ((List.filter_sublist (p := p)).map _)).map (Option.some_injective Nat)
  rwa [List.map_map] at numbers

/-- A publication that stops on late conflicts has counted those of one chunk. -/
theorem linkBatches_rejected {sourceSystem : String} {createdById : Nat} {createdAt : Instant}
    {c rejected : IssueCollector} (silent : c.total = 0) (forgotten : c.pendingIdentities = [])
    (chunks : List (List SalesImportStagedRow))
    (distinct : (chunks.flatten.map SalesImportStagedRow.rowNumber).Nodup) {state : LinkState}
    (same : state.collector = c)
    (stopped : linkBatches sourceSystem createdById createdAt chunks state = .error (.rejected rejected)) :
    ∃ rows ∈ chunks, ∃ p : SalesImportStagedRow → Bool,
      rejected = c.addAll ((rows.filter p).map conflictIssue) := by
  induction chunks generalizing state with
  | nil => cases stopped
  | cons rows rest ih =>
    rw [List.flatten_cons, List.map_append, List.nodup_append] at distinct
    rw [linkBatches] at stopped
    have fresh := conflicts_fresh distinct.1 forgotten
      (conflicts (existingFacts state.visible sourceSystem rows))
    cases first : linkOrInsertChunk sourceSystem createdById createdAt rows state with
    | error stop =>
      rw [first] at stopped
      cases stopped
      simp only [linkOrInsertChunk] at first
      split_ifs at first with counted
      · injection first with equal
        injection equal with equal
        exact ⟨rows, List.mem_cons_self, _, by rw [← equal, same]⟩
      · split at first
        · cases first
        · split at first <;> cases first
    | ok next =>
      rw [first] at stopped
      have kept : next.collector = c := by
        simp only [linkOrInsertChunk] at first
        split_ifs at first with counted
        have none : (rows.filter (conflicts (existingFacts state.visible sourceSystem rows))).map
            conflictIssue = [] := by
          rw [same, not_not, IssueCollector.addAll_total fresh, silent, Nat.zero_add] at counted
          exact List.length_eq_zero_iff.mp counted
        rw [none, IssueCollector.addAll_nil] at first
        split at first
        · cases first
        · split at first
          · cases first
          · injection first with equal
            rw [← equal, ← same]
            rfl
      obtain ⟨later, member, p, equal⟩ := ih distinct.2.1 kept stopped
      exact ⟨later, List.mem_cons_of_mem rows member, p, equal⟩

theorem saveRows_numbers (changed rows : List SalesImportStagedRow) :
    (saveRows changed copyReferences rows).map SalesImportStagedRow.rowNumber =
      rows.map SalesImportStagedRow.rowNumber := by
  unfold saveRows
  rw [List.map_map]
  apply List.map_congr_left
  intro row _
  simp only [Function.comp]
  split <;> rfl

/-- The issues of rows that can be staged are recordable, whatever the snapshot holds. -/
theorem rowIssues_recordable (master : MasterData) (facts : List SalesTransaction) (sourceSystem : String)
    {rows : List SalesImportStagedRow} (distinct : (rows.map SalesImportStagedRow.rowNumber).Nodup)
    (numbered : ∀ row ∈ rows, 2 ≤ row.rowNumber ∧ row.rowNumber ≤ maxBigInteger) :
    Recordable (rows.flatMap (rowIssues master facts sourceSystem)) := by
  have listed := fun row => rowIssues_sublist master facts sourceSystem row
  refine ⟨?_, identities_flatMap distinct ?_⟩
  · intro issue member
    obtain ⟨row, inside, reported⟩ := List.mem_flatMap.mp member
    exact catalogue_valid (numbered row inside) issue ((listed row).subset reported)
  · intro row _
    exact ⟨(catalogue_identities row).sublist ((listed row).map identity),
      fun issue reported => catalogue_rowNumber row issue ((listed row).subset reported)⟩

/-- Rows that can be staged have few enough issues to count. -/
theorem rowIssues_few (master : MasterData) (facts : List SalesTransaction) (sourceSystem : String)
    {rows : List SalesImportStagedRow} (few : rows.length ≤ maxBigInteger + 1) :
    (rows.flatMap (rowIssues master facts sourceSystem)).length < countLimit := by
  have bound := length_flatMap_le (n := 9) rows
    (fun row _ => (rowIssues_sublist master facts sourceSystem row).length_le)
  have limit : (maxBigInteger + 1) * 9 < countLimit := by decide
  omega

theorem rowIssues_unsummarized {master : MasterData} {facts : List SalesTransaction} {sourceSystem : String}
    {rows : List SalesImportStagedRow} {c : IssueCollector} :
    ∀ issue ∈ rows.flatMap (rowIssues master facts sourceSystem), identity issue ≠ identity c.summary := by
  intro issue member same
  obtain ⟨row, _, reported⟩ := List.mem_flatMap.mp member
  have numbers := congrArg Prod.fst same
  rw [identity, catalogue_rowNumber row issue ((rowIssues_sublist _ _ _ row).subset reported)] at numbers
  cases numbers

/-- A validation without issues has stored nothing and hands on an empty collector. -/
theorem silent_tracks {master : MasterData} {facts : List SalesTransaction} {sourceSystem : String}
    {maximum : Nat} {rows : List SalesImportStagedRow} {checked : ValidationState}
    (validated : Validated master facts sourceSystem maximum rows checked) (silent : checked.collector.total = 0) :
    checked.stored = [] ∧ IssueCollector.Tracks checked.collector [] [] := by
  have tracks := validated.tracks
  have none := tracks.total
  rw [silent] at none
  rw [List.length_eq_zero_iff.mp none.symm] at tracks
  have held := tracks.held
  rw [List.take_nil] at held
  have stored := (List.append_eq_nil_iff.mp held).1
  rw [stored] at tracks
  exact ⟨stored, tracks⟩

/-- The late conflicts of one chunk, counted by an empty collector. -/
theorem conflicts_recordable {c : IssueCollector} {rows : List SalesImportStagedRow}
    (start : IssueCollector.Tracks c [] []) (forgotten : c.pendingIdentities = [])
    (distinct : (rows.map SalesImportStagedRow.rowNumber).Nodup)
    (numbered : ∀ row ∈ rows, 2 ≤ row.rowNumber ∧ row.rowNumber ≤ maxBigInteger)
    (few : rows.length ≤ maxBigInteger + 1) (p : SalesImportStagedRow → Bool) :
    Recordable (c.addAll ((rows.filter p).map conflictIssue)).persisted := by
  have fresh := conflicts_fresh distinct forgotten p
  have valid : ∀ issue ∈ (rows.filter p).map conflictIssue, IssueValid issue := by
    intro issue reported
    obtain ⟨row, listed, rfl⟩ := List.mem_map.mp reported
    exact catalogue_valid (numbered row (List.mem_filter.mp listed).1) _
      (List.mem_append_right _ List.mem_cons_self)
  refine Recordable.handed (start.addAll_fresh fresh) ⟨valid, fresh.distinct⟩ ?_ ?_
  · intro issue reported same
    obtain ⟨row, _, rfl⟩ := List.mem_map.mp reported
    exact Option.some_ne_none _ (congrArg Prod.fst same)
  · have filtered := List.length_filter_le p rows
    have limit : maxBigInteger + 1 < countLimit := by decide
    rw [List.nil_append, List.length_map]
    omega

theorem publication_recordable (settings : Settings) (snapshot : Snapshot) (intake : SalesImport)
    (attempt : SalesImportAttempt) (createdAt : Instant) (store : Store)
    (distinct : (attempt.stagedRows.map SalesImportStagedRow.rowNumber).Nodup)
    (numbered : ∀ row ∈ attempt.stagedRows, 2 ≤ row.rowNumber ∧ row.rowNumber ≤ maxBigInteger)
    (few : attempt.stagedRows.length ≤ maxBigInteger + 1) :
    Recordable (publicationRecords settings snapshot intake attempt createdAt store) := by
  obtain ⟨checked, run, validated⟩ := @validationPass_checked settings snapshot intake attempt distinct
  have perm := inRowOrder_perm attempt.stagedRows
  unfold validationPass at run
  unfold publicationRecords
  rw [run]
  dsimp only
  by_cases silent : checked.collector.total = 0
  · obtain ⟨stored, start⟩ := silent_tracks validated silent
    rw [if_neg (not_not.mpr silent), stored, List.nil_append]
    cases linked : linkRows settings snapshot intake (validatedAttempt attempt checked) checked.collector
        createdAt store with
    | ok state => exact Recordable.nil
    | error stop =>
      cases stop with
      | raised e => exact Recordable.nil
      | rejected rejected =>
        have saved : (validatedAttempt attempt checked).stagedRows.map SalesImportStagedRow.rowNumber =
            attempt.stagedRows.map SalesImportStagedRow.rowNumber := saveRows_numbers _ _
        have flat := (batched_partition settings.dbBatchSize
          (inRowOrder (validatedAttempt attempt checked).stagedRows)).flatten
        have order := (inRowOrder_perm (validatedAttempt attempt checked).stagedRows).map
          SalesImportStagedRow.rowNumber
        rw [saved, ← flat] at order
        have distinctChunks := order.nodup_iff.mpr distinct
        obtain ⟨rows, member, p, rfl⟩ := linkBatches_rejected silent validated.forgotten _ distinctChunks
          rfl linked
        have chunk := (List.sublist_flatten_of_mem member).map SalesImportStagedRow.rowNumber
        have size := chunk.length_le
        rw [order.length_eq, List.length_map, List.length_map] at size
        refine conflicts_recordable start validated.forgotten (distinctChunks.sublist chunk) ?_
          (size.trans few) p
        intro row listed
        have known := order.subset (chunk.subset (List.mem_map_of_mem listed))
        obtain ⟨origin, staged, same⟩ := List.mem_map.mp known
        exact same ▸ numbered origin staged
  · rw [if_pos silent]
    refine Recordable.handed validated.tracks ?_ rowIssues_unsummarized ?_
    · apply rowIssues_recordable
      · exact (perm.map _).nodup_iff.mpr distinct
      · intro row member
        exact numbered row (perm.mem_iff.mp member)
    · apply rowIssues_few
      rw [perm.length_eq]
      exact few

/-! ## The whole attempt -/

/-- The records of the attempt that reads the text: what staging hands out and, unless the
file is refused there, what publication does. -/
def attemptRecords (settings : Settings) (ucd : PyText.UnicodeDatabase) (text : String) (snapshot : Snapshot)
    (intake : SalesImport) (attempt : SalesImportAttempt) (createdAt : Instant) (store : Store) :
    List SalesImportIssue :=
  let batches := Staging.batches settings ucd (Csv.textStream text)
  batches.flatMap ParseBatch.issues ++
    match (stageCsv settings ucd (Csv.textStream text)).2 with
    | .ok (_, false) => publicationRecords settings snapshot intake
        { attempt with stagedRows := batches.flatMap ParseBatch.stagedRows } createdAt store
    | _ => []

theorem attemptRecords_unrecordable (settings : Settings) (ucd : PyText.UnicodeDatabase) {text : String}
    (unfit : ¬HeaderFits text) (snapshot : Snapshot) (intake : SalesImport) (attempt : SalesImportAttempt)
    (createdAt : Instant) (store : Store) :
    ¬Recordable (attemptRecords settings ucd text snapshot intake attempt createdAt store) := by
  intro recordable
  apply staged_unrecordable settings ucd unfit
  have front := List.sublist_append_left
    ((Staging.batches settings ucd (Csv.textStream text)).flatMap ParseBatch.issues)
  exact ⟨fun issue member => recordable.valid issue ((front _).subset member),
    recordable.identities.sublist ((front _).map identity)⟩

/-- The records of an attempt can be stored exactly when the header's names fit into a
message, whatever else the file, the settings and the tables hold. -/
theorem attemptRecords_recordable_iff (settings : Settings) (ucd : PyText.UnicodeDatabase) (text : String)
    (size : text.length ≤ maxBigInteger) (snapshot : Snapshot) (intake : SalesImport)
    (attempt : SalesImportAttempt) (createdAt : Instant) (store : Store) :
    Recordable (attemptRecords settings ucd text snapshot intake attempt createdAt store) ↔
      HeaderFits text := by
  constructor
  · intro recordable
    by_contra unfit
    exact attemptRecords_unrecordable settings ucd unfit snapshot intake attempt createdAt store recordable
  · intro fits
    have staged := staged_recordable settings ucd size fits
    rw [attemptRecords, stageCsv_eq]
    dsimp only
    cases refused : !(fileIssues (ending settings ucd (Csv.textStream text))).isEmpty ||
        decide (0 < (lastLoop settings ucd (Csv.textStream text)).2.progress.invalidRows) with
    | true => rwa [List.append_nil]
    | false =>
      have silent := (rejected_iff settings ucd (Csv.textStream text)).not.mp (by rw [refused]; decide)
      have tracks := lastCollector_tracks settings ucd (Csv.textStream text)
      rw [not_not.mp silent] at tracks
      have nothing := tracks.persisted_whole (Nat.zero_le _)
      rw [batches_issues, nothing, List.nil_append]
      have rows := batches_rows settings ucd (Csv.textStream text)
      apply publication_recordable
      · rw [rows]
        exact acceptedRows_distinct ucd settings.maxRows
      · intro row member
        rw [rows] at member
        obtain ⟨rowNumber, accepted, rfl, _, first, last⟩ :=
          acceptedRows_origin ucd settings.maxRows size row member
        exact ⟨first, last⟩
      · rw [rows]
        have few := List.length_filterMap_le
          (fun result : Contracts.SalesRowValidationResult => result.row.map (stagedRow result.rowNumber))
          (results settings ucd (Csv.textStream text))
        have lines := (Csv.textStream_size text).2
        have bound := results_length settings ucd (Csv.textStream text)
        exact few.trans (by omega)

namespace Sample

/-- Three rows for batches of two. The second one is stored with another revenue, and the third
one names a product that does not exist. -/
def doubtfulFile : String :=
  Contracts.Sample.header ++ Contracts.Sample.line "A-1" "2.000" "10.00" ++
    Contracts.Sample.line "A-2" "2.000" "10.00" ++ "A-3,2026-01-15,NONE,TERR,HOSP,,2.000,10.00,INR\n"

def doubtfulStore : Store := store (Validation.Sample.table "A-2") []

end Sample

/-- Publication records a conflict and a missing product, and both can be stored. -/
theorem attemptRecords_recordable_iff_sample :
    Recordable (attemptRecords Sample.smallBatches PyText.asciiDatabase Sample.doubtfulFile
        (snapshotOf Sample.doubtfulStore) (Sample.intake []) (Sample.attempt []) 20 Sample.doubtfulStore) ∧
      (attemptRecords Sample.smallBatches PyText.asciiDatabase Sample.doubtfulFile
        (snapshotOf Sample.doubtfulStore) (Sample.intake []) (Sample.attempt []) 20 Sample.doubtfulStore).length =
          2 := by
  refine ⟨(attemptRecords_recordable_iff Sample.smallBatches PyText.asciiDatabase Sample.doubtfulFile
    (by decide +kernel) (snapshotOf Sample.doubtfulStore) (Sample.intake []) (Sample.attempt []) 20
    Sample.doubtfulStore).mpr ?_, by decide +kernel⟩
  intro header rest ending found
  have first : (Csv.records (Csv.textStream Sample.doubtfulFile)).1.head? =
      some ⟨1, Contracts.salesRowsV1Columns⟩ := by decide +kernel
  rw [found] at first
  obtain rfl : header = ⟨1, Contracts.salesRowsV1Columns⟩ := Option.some.inj first
  decide +kernel

namespace Sample

/-- A header that names one column of 975 characters twice. -/
def longHeader : String :=
  String.ofList (List.replicate 975 'a' ++ ',' :: List.replicate 975 'a')

theorem repeated_name (name : String) :
    Contracts.duplicateHeaders [name, name] = [name, name] ∧ Contracts.joinedNames [name, name] = name := by
  refine ⟨by simp [Contracts.duplicateHeaders], ?_⟩
  rw [Contracts.joinedNames, List.dedup_cons_of_mem List.mem_cons_self, List.dedup_cons_of_notMem (by simp)]
  exact String.intercalate_singleton

theorem normalized_name {c : Char} (rest : List Char) (unmarked : c ≠ '\ufeff') (others : List String) :
    Contracts.normalizeHeaders (String.ofList (c :: rest) :: others) = String.ofList (c :: rest) :: others := by
  rw [Contracts.normalizeHeaders, PyText.removeprefix, String.toList_ofList]
  dsimp only
  rw [if_neg unmarked]

theorem longHeader_unfit : ¬HeaderFits longHeader := by
  intro fits
  have plain : ∀ d ∈ 'a' :: List.replicate 974 'a', Csv.Plain d := by
    rw [← List.replicate_succ]
    intro d member
    rw [List.eq_of_mem_replicate member]
    unfold Csv.Plain
    decide
  have read := Csv.records_repeated (List.replicate 974 'a') plain (by
    rw [List.length_cons, List.length_replicate]
    decide)
  have names := (fits _ _ _ read).1
  obtain ⟨repeated, joined⟩ := repeated_name (String.ofList ('a' :: List.replicate 974 'a'))
  rw [normalized_name _ (by decide), repeated, joined, String.length_ofList, List.length_cons,
    List.length_replicate] at names
  exact absurd (names (List.cons_ne_nil _ _)) (by decide)

end Sample

/-- One column name that is repeated and too long for a message. -/
theorem longHeader_unrecordable :
    ¬Recordable (attemptRecords Sample.settings PyText.asciiDatabase Sample.longHeader
      (snapshotOf (Sample.store .empty [])) (Sample.intake []) (Sample.attempt []) 20
      (Sample.store .empty [])) :=
  attemptRecords_unrecordable Sample.settings PyText.asciiDatabase Sample.longHeader_unfit
    (snapshotOf (Sample.store .empty [])) (Sample.intake []) (Sample.attempt []) 20 (Sample.store .empty [])

end PharmaIntel.Publication
