import Mathlib
import PharmaIntel.Base.Lists
import PharmaIntel.Publication

/-! The audit records of an attempt: its staged rows keep what the file says, and its
issues are only ever added to. -/

namespace PharmaIntel.Publication
open PharmaIntel.Base PharmaIntel.Models PharmaIntel.Validation

/-- The row as the parser has staged it. -/
def fileValues (row : SalesImportStagedRow) : SalesImportStagedRow :=
  { row with
    calendarDateId := none
    productId := none
    territoryId := none
    hospitalId := none
    salesRepresentativeId := none
    outcome := .staged
    salesTransactionId := none }

@[simp] theorem fileValues_copyReferences (source row : SalesImportStagedRow) :
    fileValues (copyReferences source row) = fileValues row := rfl

@[simp] theorem fileValues_copyLink (source row : SalesImportStagedRow) :
    fileValues (copyLink source row) = fileValues row := rfl

def SameFileValues (row later : SalesImportStagedRow) : Prop := fileValues later = fileValues row

theorem sameFileValues_refl (row : SalesImportStagedRow) : SameFileValues row row := rfl

/-- The records of an attempt after a change: those it had, and perhaps new ones. -/
structure RecordsKept (attempt changed : SalesImportAttempt) : Prop where
  rows : Grows SameFileValues attempt.stagedRows changed.stagedRows
  issues : attempt.issues <+: changed.issues

theorem recordsKept_same {attempt changed : SalesImportAttempt} (rows : changed.stagedRows = attempt.stagedRows)
    (issues : changed.issues = attempt.issues) : RecordsKept attempt changed := by
  refine ⟨?_, ?_⟩
  · rw [rows]
    exact grows_refl sameFileValues_refl attempt.stagedRows
  · rw [issues]

theorem saveRows_fileValues {copy : SalesImportStagedRow → SalesImportStagedRow → SalesImportStagedRow}
    (keeps : ∀ source row, fileValues (copy source row) = fileValues row)
    (changed rows : List SalesImportStagedRow) : Grows SameFileValues rows (saveRows changed copy rows) := by
  have grown : Grows SameFileValues rows (saveRows changed copy rows ++ []) := by
    refine grows_map (fun row _ => ?_) []
    cases findBy SalesImportStagedRow.rowNumber row.rowNumber changed with
    | none => exact sameFileValues_refl row
    | some source => exact keeps source row
  rwa [List.append_nil] at grown

theorem validatedAttempt_records (attempt : SalesImportAttempt) (checked : ValidationState) :
    RecordsKept attempt (validatedAttempt attempt checked) :=
  ⟨saveRows_fileValues fileValues_copyReferences _ _, List.prefix_append _ _⟩

theorem RecordsKept.trans {first second third : SalesImportAttempt} (earlier : RecordsKept first second)
    (later : RecordsKept second third) : RecordsKept first third :=
  ⟨earlier.rows.trans (fun _ _ _ here next => next.trans here) later.rows, earlier.issues.trans later.issues⟩

theorem recordsKept_added {attempt changed : SalesImportAttempt} {rows : List SalesImportStagedRow}
    {issues : List SalesImportIssue} (staged : changed.stagedRows = attempt.stagedRows ++ rows)
    (found : changed.issues = attempt.issues ++ issues) : RecordsKept attempt changed := by
  refine ⟨?_, ?_⟩
  · rw [staged]
    exact grows_append sameFileValues_refl attempt.stagedRows rows
  · rw [found]
    exact List.prefix_append _ _

end PharmaIntel.Publication
