import Mathlib
import PharmaIntel.Base.Exclusion
import PharmaIntel.Base.Gregorian
import PharmaIntel.SetBased
import PharmaIntel.Atomicity

/-! Dated assignments. The database's range query, the queryset test and the in-memory test
read one inclusive period, and the exclusion constraint lets a hospital have at most one
territory on a day. -/

namespace PharmaIntel.DatedAssignments
open Base Models Validation Collector

/-! ## The range query -/

/-- `effective_period_expression`, in days. -/
def effectivePeriod (assignment : TerritoryAssignment) : Option DateRange :=
  DateRange.inclusive assignment.effectiveFrom.toOrdinal
    (assignment.effectiveTo.map (fun last => (last.toOrdinal : Int)))

/-- The check `..._dates_valid`. -/
def datesValid (assignment : TerritoryAssignment) : Bool :=
  assignment.effectiveTo.all (fun last => decide (assignment.effectiveFrom ≤ last))

/-- `effective_on`; the query fails where a range cannot be built. -/
def effectiveOn : List TerritoryAssignment → Date → Option (List TerritoryAssignment)
  | [], _ => some []
  | assignment :: rest, onDate => do
    let period ← effectivePeriod assignment
    let others ← effectiveOn rest onDate
    return if period.contains onDate.toOrdinal then assignment :: others else others

/-- What `_is_effective_on` finds among the rows of its queryset. -/
def queriedOn (assignments : List TerritoryAssignment) (onDate : Date) : List TerritoryAssignment :=
  assignments.filter (fun assignment => isEffectiveOn [assignment] onDate)

def periodOf (assignment : TerritoryAssignment) : Period := (assignment.effectiveFrom, assignment.effectiveTo)

/-- What `_is_effective` finds among the periods it is given. -/
def heldOn (assignments : List TerritoryAssignment) (onDate : Date) : List TerritoryAssignment :=
  assignments.filter (fun assignment => isEffective [periodOf assignment] onDate)

/-- From the first day to the last, both included. -/
def covers (assignment : TerritoryAssignment) (onDate : Date) : Bool :=
  decide (assignment.effectiveFrom ≤ onDate) && assignment.effectiveTo.all (fun last => decide (onDate ≤ last))

theorem isEffectiveOn_eq (assignments : List TerritoryAssignment) (onDate : Date) :
    isEffectiveOn assignments onDate = assignments.any (fun assignment => covers assignment onDate) := rfl

theorem isEffective_eq (assignments : List TerritoryAssignment) (onDate : Date) :
    isEffective (assignments.map periodOf) onDate =
      assignments.any (fun assignment => covers assignment onDate) := by
  unfold isEffective
  rw [List.any_map]
  rfl

theorem queriedOn_eq (assignments : List TerritoryAssignment) (onDate : Date) :
    queriedOn assignments onDate = assignments.filter (fun assignment => covers assignment onDate) := by
  apply List.filter_congr
  intro assignment _
  rw [isEffectiveOn_eq, List.any_cons, List.any_nil, Bool.or_false]

theorem heldOn_eq (assignments : List TerritoryAssignment) (onDate : Date) :
    heldOn assignments onDate = assignments.filter (fun assignment => covers assignment onDate) := by
  apply List.filter_congr
  intro assignment _
  change ((covers assignment onDate) || false) = _
  rw [Bool.or_false]

theorem contains_effectivePeriod {assignment : TerritoryAssignment} {period : DateRange}
    (made : effectivePeriod assignment = some period) (onDate : Date) :
    period.contains onDate.toOrdinal = covers assignment onDate := by
  rw [DateRange.contains_inclusive made, covers, Option.all_map]
  congr 1
  · rw [decide_eq_decide, Date.le_iff_toOrdinal, Int.ofNat_le]
  · congr 1
    funext last
    rw [decide_eq_decide, Date.le_iff_toOrdinal, Int.ofNat_le]

theorem effectivePeriod_exists {assignment : TerritoryAssignment} (valid : datesValid assignment = true) :
    ∃ period, effectivePeriod assignment = some period := by
  apply DateRange.inclusive_exists
  rw [Option.all_map, ← valid, datesValid]
  congr 1
  funext last
  rw [decide_eq_decide, Date.le_iff_toOrdinal, Int.ofNat_le]

theorem effectiveOn_eq {assignments : List TerritoryAssignment}
    (valid : ∀ assignment ∈ assignments, datesValid assignment = true) (onDate : Date) :
    effectiveOn assignments onDate = some (assignments.filter (fun assignment => covers assignment onDate)) := by
  induction assignments with
  | nil => rfl
  | cons assignment rest ih =>
    obtain ⟨period, made⟩ := effectivePeriod_exists (valid assignment List.mem_cons_self)
    rw [effectiveOn, made, ih (fun other member => valid other (List.mem_cons_of_mem _ member))]
    simp only [Option.bind_eq_bind, Option.bind_some, Option.pure_def]
    rw [contains_effectivePeriod made, List.filter_cons]

/-! ## Hospital assignments -/

structure AssignmentRow where
  id : Nat
  assignment : TerritoryAssignment
  deriving DecidableEq

def periodsOverlap : Option DateRange → Option DateRange → Bool
  | some period, some other => period.overlaps other
  | _, _ => false

/-- The condition that `..._no_overlap` excludes: the hospital is the same and the ranges overlap. -/
def clash (first second : AssignmentRow) : Bool :=
  decide (first.assignment.identityId = second.assignment.identityId) &&
    periodsOverlap (effectivePeriod first.assignment) (effectivePeriod second.assignment)

/-- The rows with their key, `..._dates_valid` and `..._no_overlap`. -/
structure AssignmentTable where
  rows : List AssignmentRow
  sequence : Nat
  ids_below : ∀ row ∈ rows, row.id < sequence
  ids_nodup : (rows.map AssignmentRow.id).Nodup
  dates_valid : ∀ row ∈ rows, datesValid row.assignment = true
  no_overlap : Exclusive clash rows

inductive Statement where
  | insert (assignment : TerritoryAssignment)
  | changeEnd (id : Nat) (effectiveTo : Option Date)

def AssignmentRow.endingOn (effectiveTo : Option Date) (row : AssignmentRow) : AssignmentRow :=
  { row with assignment := { row.assignment with effectiveTo } }

/-- The constraints as they are checked for a row that is written beside others. -/
def Admitted (others : List AssignmentRow) (row : AssignmentRow) : Prop :=
  datesValid row.assignment = true ∧ ∀ other ∈ others, clash other row = false

instance (others : List AssignmentRow) (row : AssignmentRow) : Decidable (Admitted others row) :=
  inferInstanceAs (Decidable (_ ∧ _))

theorem periodsOverlap_comm (first second : Option DateRange) :
    periodsOverlap first second = periodsOverlap second first := by
  cases first with
  | none => cases second <;> rfl
  | some period =>
    cases second with
    | none => rfl
    | some other => exact DateRange.overlaps_comm period other

theorem clash_comm (first second : AssignmentRow) : clash first second = clash second first := by
  have identities : decide (first.assignment.identityId = second.assignment.identityId) =
      decide (second.assignment.identityId = first.assignment.identityId) := decide_eq_decide.mpr eq_comm
  rw [clash, clash, identities, periodsOverlap_comm]

section Write
variable (table : AssignmentTable)

def AssignmentTable.others (id : Nat) : List AssignmentRow := table.rows.filter (fun row => row.id ≠ id)

def AssignmentTable.newRow (assignment : TerritoryAssignment) : AssignmentRow := ⟨table.sequence, assignment⟩

theorem below_snoc (assignment : TerritoryAssignment) :
    ∀ row ∈ table.rows ++ [table.newRow assignment], row.id < table.sequence + 1 :=
  forall_mem_snoc (fun row old => Nat.lt_succ_of_lt (table.ids_below row old)) (Nat.lt_succ_self _)

theorem nodup_ids_snoc (assignment : TerritoryAssignment) :
    ((table.rows ++ [table.newRow assignment]).map AssignmentRow.id).Nodup := by
  apply nodup_snoc table.ids_nodup
  intro taken
  obtain ⟨row, member, same⟩ := List.mem_map.mp taken
  exact absurd (table.ids_below row member) (same ▸ lt_irrefl _)

theorem valid_snoc {assignment : TerritoryAssignment} (valid : datesValid assignment = true) :
    ∀ row ∈ table.rows ++ [table.newRow assignment], datesValid row.assignment = true :=
  forall_mem_snoc table.dates_valid valid

variable {table} in
theorem mem_endingOn {id : Nat} {effectiveTo : Option Date} {row : AssignmentRow}
    (member : row ∈ updateBy AssignmentRow.id id (AssignmentRow.endingOn effectiveTo) table.rows) :
    (row ∈ table.rows ∧ row.id ≠ id) ∨ ∃ old ∈ table.rows, old.id = id ∧ row = old.endingOn effectiveTo :=
  mem_updateBy member

/-- What an end-date change leaves in the table, given that the changed row is admitted
beside the others. -/
def AssignmentTable.withEnd (id : Nat) (effectiveTo : Option Date)
    (admitted : ∀ row ∈ table.rows, row.id = id → Admitted (table.others id) (row.endingOn effectiveTo)) :
    AssignmentTable where
  rows := updateBy AssignmentRow.id id (AssignmentRow.endingOn effectiveTo) table.rows
  sequence := table.sequence
  ids_below := by
    intro row member
    rcases mem_endingOn member with ⟨old, -⟩ | ⟨old, inside, -, rfl⟩
    · exact table.ids_below row old
    · exact table.ids_below old inside
  ids_nodup := by
    have keeps : ∀ row : AssignmentRow, (row.endingOn effectiveTo).id = row.id := fun _ => rfl
    rw [updateBy_map_key keeps]
    exact table.ids_nodup
  dates_valid := by
    intro row member
    rcases mem_endingOn member with ⟨old, -⟩ | ⟨old, inside, same, rfl⟩
    · exact table.dates_valid row old
    · exact (admitted old inside same).1
  no_overlap := by
    apply Exclusive.updateBy table.no_overlap table.ids_nodup clash_comm
    intro row member same other inside apart
    exact (admitted row member same).2 other (List.mem_filter.mpr ⟨inside, decide_eq_true apart⟩)

end Write

/-- A statement that the constraints admit, and the table after it. -/
def execute (table : AssignmentTable) : Statement → Option AssignmentTable
  | .insert assignment =>
      if admitted : Admitted table.rows (table.newRow assignment) then
        some ⟨table.rows ++ [table.newRow assignment], table.sequence + 1,
          below_snoc table assignment, nodup_ids_snoc table assignment,
          valid_snoc table admitted.1, table.no_overlap.snoc admitted.2⟩
      else none
  | .changeEnd id effectiveTo =>
      if admitted : ∀ row ∈ table.rows, row.id = id → Admitted (table.others id) (row.endingOn effectiveTo) then
        some (table.withEnd id effectiveTo admitted)
      else none

/-- A run of statements; a rejected one leaves the table as it was. -/
def run (table : AssignmentTable) (statements : List Statement) : AssignmentTable :=
  statements.foldl (fun table statement => (execute table statement).getD table) table

/-! ## One territory a day -/

/-- Two rows of one identity that cover one day clash. -/
theorem clash_of_covers {first second : AssignmentRow} (firstValid : datesValid first.assignment = true)
    (secondValid : datesValid second.assignment = true)
    (same : first.assignment.identityId = second.assignment.identityId) {onDate : Date}
    (firstCovers : covers first.assignment onDate = true)
    (secondCovers : covers second.assignment onDate = true) : clash first second = true := by
  obtain ⟨period, made⟩ := effectivePeriod_exists firstValid
  obtain ⟨other, otherMade⟩ := effectivePeriod_exists secondValid
  rw [clash, made, otherMade, decide_eq_true same, Bool.true_and]
  apply (DateRange.overlaps_iff period other).mpr
  refine ⟨onDate.toOrdinal, ?_, ?_⟩
  · rw [contains_effectivePeriod made, firstCovers]
  · rw [contains_effectivePeriod otherMade, secondCovers]

/-- Two rows of a hospital that cover one day are one row. -/
theorem AssignmentTable.row_unique (table : AssignmentTable) {first second : AssignmentRow}
    (firstMember : first ∈ table.rows) (secondMember : second ∈ table.rows)
    (same : first.assignment.identityId = second.assignment.identityId) {onDate : Date}
    (firstCovers : covers first.assignment onDate = true)
    (secondCovers : covers second.assignment onDate = true) : first = second := by
  have clashes := clash_of_covers (table.dates_valid first firstMember) (table.dates_valid second secondMember)
    same firstCovers secondCovers
  by_contra apart
  rw [table.no_overlap.clash_free clash_comm firstMember secondMember apart] at clashes
  cases clashes

/-- The import accepted these rows, checking them in these chunks against one snapshot. -/
def Accepts (master : MasterData) (accepted : List SalesImportStagedRow) : Prop :=
  ∃ (table : FactTable) (sourceSystem : String) (maximum : Nat) (rows : List SalesImportStagedRow)
    (batches : List (List SalesImportStagedRow)) (final : ValidationState), Partition rows batches ∧
    (rows.map SalesImportStagedRow.rowNumber).Nodup ∧
    validateBatches master table.facts sourceSystem { collector := { maximum } } batches = .ok final ∧
    final.resolved = accepted

/-- An accepted row resolved its codes and passed every check of its own. -/
theorem Accepts.clean {master : MasterData} {accepted : List SalesImportStagedRow}
    (accepts : Accepts master accepted) {row : SalesImportStagedRow} (member : row ∈ accepted) :
    ∃ staged, row = resolve master staged ∧ rowMasterIssues master staged = [] := by
  obtain ⟨table, sourceSystem, maximum, rows, batches, final, partition, distinct, done, rfl⟩ := accepts
  have numbers : (batches.flatten.map SalesImportStagedRow.rowNumber).Nodup := by
    rwa [partition.flatten]
  obtain ⟨other, finished, validated⟩ := validateBatches_validated table.keys_nodup maximum batches []
    { collector := { maximum } } partition.nonempty numbers
    (validated_initial master table.facts sourceSystem maximum)
  obtain rfl : other = final := Except.ok.inj (finished.symm.trans done)
  rw [validated.resolved] at member
  obtain ⟨staged, inside, rfl⟩ := List.mem_map.mp member
  exact ⟨staged, rfl, (Publication.sound_iff.mp (List.mem_filter.mp inside).2).1⟩

/-- A clean row that names a hospital is placed by an assignment of its territory and day. -/
theorem placed {master : MasterData} {row : SalesImportStagedRow} (clean : rowMasterIssues master row = [])
    (named : row.hospitalCode ≠ "") :
    ∃ hospital territory, (references master row).hospital = some hospital ∧
      (references master row).territory = some territory ∧
      ∃ assignment ∈ master.hospitalAssignments, assignment.identityId = hospital.pk ∧
        assignment.territoryId = territory.pk ∧ covers assignment row.transactionDate = true := by
  obtain ⟨-, -, territoryFound⟩ := Publication.references_found clean
  obtain ⟨territory, located⟩ := Option.isSome_iff_exists.mp territoryFound
  simp only [rowMasterIssues, referenceIssues, mismatchIssues, List.append_eq_nil_iff] at clean
  obtain ⟨⟨⟨-, hospitalFound⟩, -⟩, placedIn, -⟩ := clean
  cases found : (references master row).hospital with
  | none => exact absurd hospitalFound (by simp [named, found])
  | some hospital =>
    have matched : plainMismatch master.hospitalAssignments (some hospital) (some territory)
        row.transactionDate = false := by
      rw [← found, ← located, ← reports_hospital master row.transactionDate _ _
        (references master row).representative]
      by_contra mismatch
      have reported : reports (dimensionErrors master row) "hospital" = true := by
        simpa [dimensionErrors] using mismatch
      rw [if_pos reported] at placedIn
      cases placedIn
    refine ⟨hospital, territory, rfl, located, ?_⟩
    rw [plainMismatch, Bool.not_eq_false', isEffectiveOn_eq, List.any_eq_true] at matched
    obtain ⟨assignment, member, covered⟩ := matched
    obtain ⟨inside, both⟩ := List.mem_filter.mp member
    rw [Bool.and_eq_true, decide_eq_true_eq, decide_eq_true_eq] at both
    exact ⟨assignment, inside, both.1, both.2, covered⟩

/-- The territories of a hospital on a day. -/
def assignedOn (table : AssignmentTable) (hospitalId : Nat) (onDate : Date) : List Nat :=
  ((heldOn (table.rows.map AssignmentRow.assignment) onDate).filter
    (fun assignment => assignment.identityId = hospitalId)).map TerritoryAssignment.territoryId

theorem assignedOn_length (table : AssignmentTable) (hospitalId : Nat) (onDate : Date) :
    (assignedOn table hospitalId onDate).length ≤ 1 := by
  have rows : (heldOn (table.rows.map AssignmentRow.assignment) onDate).filter
      (fun assignment => assignment.identityId = hospitalId) =
      (table.rows.filter (fun row => decide (row.assignment.identityId = hospitalId) &&
        covers row.assignment onDate)).map AssignmentRow.assignment := by
    rw [heldOn_eq, List.filter_filter, List.filter_map]
    rfl
  have nodup : (table.rows.filter (fun row => decide (row.assignment.identityId = hospitalId) &&
      covers row.assignment onDate)).Nodup := (List.Nodup.of_map _ table.ids_nodup).filter _
  rw [assignedOn, List.length_map, rows, List.length_map]
  have found : ∀ row ∈ table.rows.filter (fun row => decide (row.assignment.identityId = hospitalId) &&
      covers row.assignment onDate), row ∈ table.rows ∧ row.assignment.identityId = hospitalId ∧
        covers row.assignment onDate = true := by
    intro row member
    obtain ⟨inside, both⟩ := List.mem_filter.mp member
    rw [Bool.and_eq_true, decide_eq_true_eq] at both
    exact ⟨inside, both⟩
  generalize table.rows.filter (fun row => decide (row.assignment.identityId = hospitalId) &&
    covers row.assignment onDate) = held at nodup found ⊢
  match held with
  | [] => exact Nat.zero_le 1
  | [_] => exact le_rfl
  | first :: second :: rest =>
    obtain ⟨firstMember, firstIs, firstCovers⟩ := found first List.mem_cons_self
    obtain ⟨secondMember, secondIs, secondCovers⟩ := found second (List.mem_cons_of_mem _ List.mem_cons_self)
    have same := table.row_unique firstMember secondMember (firstIs.trans secondIs.symm) firstCovers secondCovers
    rw [same] at nodup
    exact absurd List.mem_cons_self (List.nodup_cons.mp nodup).1

/-- Accepted rows that name one hospital on one day are in one territory. -/
theorem accepted_territory {table : AssignmentTable} {master : MasterData}
    (snapshot : master.hospitalAssignments.Perm (table.rows.map AssignmentRow.assignment))
    {accepted others : List SalesImportStagedRow} (accepts : Accepts master accepted)
    (acceptsOthers : Accepts master others) {row other : SalesImportStagedRow} (member : row ∈ accepted)
    (otherMember : other ∈ others) (hospitals : row.hospitalCode = other.hospitalCode)
    (named : row.hospitalCode ≠ "") (dates : row.transactionDate = other.transactionDate) :
    ∃ hospital territory, row.hospitalId = some hospital ∧ other.hospitalId = some hospital ∧
      row.territoryId = some territory ∧ other.territoryId = some territory := by
  obtain ⟨staged, rfl, clean⟩ := accepts.clean member
  obtain ⟨otherStaged, rfl, otherClean⟩ := acceptsOthers.clean otherMember
  change staged.hospitalCode = otherStaged.hospitalCode at hospitals
  change staged.hospitalCode ≠ "" at named
  change staged.transactionDate = otherStaged.transactionDate at dates
  obtain ⟨hospital, territory, found, located, assignment, inside, identity, territoryIs, covered⟩ :=
    placed clean named
  obtain ⟨otherHospital, otherTerritory, otherFound, otherLocated, otherAssignment, otherInside,
    otherIdentity, otherTerritoryIs, otherCovered⟩ := placed otherClean (hospitals ▸ named)
  have sameHospital : hospital = otherHospital := by
    have lookedUp : (references master staged).hospital = (references master otherStaged).hospital := by
      simp only [references, hospitals]
    rw [found, otherFound] at lookedUp
    exact Option.some.inj lookedUp
  obtain ⟨tableRow, present, rfl⟩ := List.mem_map.mp (snapshot.mem_iff.mp inside)
  obtain ⟨otherRow, otherPresent, rfl⟩ := List.mem_map.mp (snapshot.mem_iff.mp otherInside)
  have rows := table.row_unique present otherPresent
    (identity.trans ((congrArg CodedMasterData.pk sameHospital).trans otherIdentity.symm)) covered
    (dates ▸ otherCovered)
  have sameTerritory : territory.pk = otherTerritory.pk := by
    rw [← territoryIs, ← otherTerritoryIs, rows]
  refine ⟨hospital.pk, territory.pk, ?_, ?_, ?_, ?_⟩
  · exact congrArg (Option.map CodedMasterData.pk) found
  · rw [sameHospital]
    exact congrArg (Option.map CodedMasterData.pk) otherFound
  · exact congrArg (Option.map Territory.pk) located
  · rw [sameTerritory]
    exact congrArg (Option.map Territory.pk) otherLocated

/-- The range query, the queryset test and the in-memory test select the same periods; and
whatever inserts and end-date changes the constraints let through, a hospital has at most
one territory on a day, and the import accepts its rows of a day for one territory only. -/
theorem assignments_agree :
    (∀ (assignments : List TerritoryAssignment) (onDate : Date),
      (∀ assignment ∈ assignments, datesValid assignment = true) →
      effectiveOn assignments onDate = some (queriedOn assignments onDate) ∧
        queriedOn assignments onDate = heldOn assignments onDate ∧
        isEffectiveOn assignments onDate = !(queriedOn assignments onDate).isEmpty ∧
        isEffective (assignments.map periodOf) onDate = !(heldOn assignments onDate).isEmpty) ∧
    ∀ (table : AssignmentTable) (statements : List Statement),
      (∀ (hospitalId : Nat) (onDate : Date),
        (assignedOn (run table statements) hospitalId onDate).length ≤ 1) ∧
      ∀ (master : MasterData) (accepted others : List SalesImportStagedRow),
        master.hospitalAssignments.Perm ((run table statements).rows.map AssignmentRow.assignment) →
        Accepts master accepted → Accepts master others → ∀ row ∈ accepted, ∀ other ∈ others,
          row.hospitalCode = other.hospitalCode → row.hospitalCode ≠ "" →
          row.transactionDate = other.transactionDate →
          ∃ hospital territory, row.hospitalId = some hospital ∧ other.hospitalId = some hospital ∧
            row.territoryId = some territory ∧ other.territoryId = some territory := by
  have any_filter : ∀ (assignments : List TerritoryAssignment) (onDate : Date),
      assignments.any (fun assignment => covers assignment onDate) =
        !(assignments.filter (fun assignment => covers assignment onDate)).isEmpty := by
    intro assignments onDate
    rw [Bool.eq_iff_iff, List.any_eq_true, Bool.not_eq_true', ← Bool.not_eq_true, List.isEmpty_iff,
      List.filter_eq_nil_iff]
    simp
  refine ⟨?_, ?_⟩
  · intro assignments onDate valid
    rw [effectiveOn_eq valid, queriedOn_eq, heldOn_eq, isEffectiveOn_eq, isEffective_eq]
    exact ⟨rfl, rfl, any_filter _ _, any_filter _ _⟩
  · intro table statements
    refine ⟨assignedOn_length _, ?_⟩
    intro master accepted others snapshot accepts acceptsOthers row member other otherMember hospitals named dates
    exact accepted_territory snapshot accepts acceptsOthers member otherMember hospitals named dates

namespace Sample
open Validation.Sample

def none_yet : AssignmentTable :=
  ⟨[], 1, fun _ absent => (List.not_mem_nil absent).elim, List.nodup_nil,
    fun _ absent => (List.not_mem_nil absent).elim, List.Pairwise.nil⟩

def nextDay : Date := ⟨2026, 1, 16, ⟨⟨by decide, by decide⟩, ⟨by decide, by decide⟩, by decide, by decide⟩⟩

/-- The hospital moves to another territory; a move on the last day of the old one is refused. -/
def moves : List Statement :=
  [.insert ⟨1, 1, day, none⟩, .changeEnd 1 (some day), .insert ⟨1, 2, day, none⟩, .insert ⟨1, 2, nextDay, none⟩]

end Sample

/-- The periods of two adjacent assignments, one day apart. -/
theorem assignments_agree_sample :
    effectiveOn [⟨1, 1, Validation.Sample.day, some Validation.Sample.day⟩, ⟨1, 2, Sample.nextDay, none⟩]
        Validation.Sample.day = some [⟨1, 1, Validation.Sample.day, some Validation.Sample.day⟩] ∧
      (assignedOn (run Sample.none_yet Sample.moves) 1 Sample.nextDay).length ≤ 1 ∧
      (run Sample.none_yet Sample.moves).rows.length = 2 ∧
      ∃ accepted row, Accepts Validation.Sample.master accepted ∧ row ∈ accepted ∧
        ∃ hospital territory, row.hospitalId = some hospital ∧ row.territoryId = some territory := by
  refine ⟨?_, (assignments_agree.2 _ _).1 _ _, by decide +kernel, ?_⟩
  · rw [(assignments_agree.1 _ _ (by decide)).1]
    decide
  · obtain ⟨final, done, validated⟩ := @validateBatches_validated Validation.Sample.master [] "ERP"
      List.nodup_nil 5 [[Validation.Sample.row 2 "A-1" "PROD"]] [] { collector := { maximum := 5 } }
      (by simp) (by decide) (validated_initial _ _ _ 5)
    have resolved : resolve Validation.Sample.master (Validation.Sample.row 2 "A-1" "PROD") ∈ final.resolved := by
      rw [validated.resolved]
      decide
    have accepts : Accepts Validation.Sample.master final.resolved :=
      ⟨.empty, "ERP", 5, [Validation.Sample.row 2 "A-1" "PROD"], [[Validation.Sample.row 2 "A-1" "PROD"]], final,
        ⟨by simp, rfl⟩, by decide, done, rfl⟩
    obtain ⟨hospital, territory, isHospital, -, isTerritory, -⟩ :=
      (assignments_agree.2 Sample.none_yet [.insert ⟨1, 1, Validation.Sample.day, none⟩]).2
        Validation.Sample.master final.resolved final.resolved (by decide +kernel) accepts accepts _ resolved _ resolved rfl
        (by decide) rfl
    exact ⟨final.resolved, _, accepts, resolved, hospital, territory, isHospital, isTerritory⟩

end PharmaIntel.DatedAssignments
