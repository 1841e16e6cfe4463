import Mathlib
import PharmaIntel.AuditGuards
import PharmaIntel.Base.Orders
import PharmaIntel.DatedAssignments

/-! The commercial hierarchy under any statements. The foreign keys are deferred to the
commit, so the hierarchy trigger may look for a territory that is not there yet. -/

namespace PharmaIntel.Hierarchy
open PharmaIntel.Base PharmaIntel.Base.Ternary PharmaIntel.AuditGuards
open PharmaIntel.DatedAssignments (AssignmentRow clash clash_comm covers datesValid)

/-! ## Rows and statements -/

/-- A row of `master_data_territory`. -/
structure TerritoryRow where
  id : Nat
  level : String
  deriving DecidableEq

/-- A row of `master_data_territoryhierarchyassignment`. -/
structure TerritoryHierarchyAssignment where
  id : Nat
  parentId : Nat
  childId : Nat
  effectiveFrom : Date
  effectiveTo : Option Date
  deriving DecidableEq

/-- What `dated_assignment_constraints` reads of the row: the child is the overlap field. -/
def TerritoryHierarchyAssignment.dated (row : TerritoryHierarchyAssignment) : AssignmentRow :=
  ⟨row.id, ⟨row.childId, row.parentId, row.effectiveFrom, row.effectiveTo⟩⟩

/-- The `SET` list of an update of a territory. -/
structure TerritoryColumns where
  id : Option Nat := none
  level : Option String := none
  deriving DecidableEq

/-- The `SET` list of an update of an assignment. -/
structure AssignmentColumns where
  id : Option Nat := none
  parentId : Option Nat := none
  childId : Option Nat := none
  effectiveFrom : Option Date := none
  effectiveTo : Option (Option Date) := none
  deriving DecidableEq

def TerritoryColumns.apply (columns : TerritoryColumns) (row : TerritoryRow) : TerritoryRow where
  id := columns.id.getD row.id
  level := columns.level.getD row.level

def AssignmentColumns.apply (columns : AssignmentColumns) (row : TerritoryHierarchyAssignment) :
    TerritoryHierarchyAssignment where
  id := columns.id.getD row.id
  parentId := columns.parentId.getD row.parentId
  childId := columns.childId.getD row.childId
  effectiveFrom := columns.effectiveFrom.getD row.effectiveFrom
  effectiveTo := columns.effectiveTo.getD row.effectiveTo

/-- A statement as it reaches one row. `elsewhere` is what else the tables ask of the row: its
other columns, column types and limits, codes and names, and `..._not_self`. -/
inductive Statement where
  | insertTerritory (new : TerritoryRow) (elsewhere : Bool)
  | updateTerritory (id : Nat) (columns : TerritoryColumns) (elsewhere : Bool)
  | insertAssignment (new : TerritoryHierarchyAssignment) (elsewhere : Bool)
  | updateAssignment (id : Nat) (columns : AssignmentColumns) (elsewhere : Bool)
  deriving DecidableEq

/-! ## Triggers and constraints -/

/-- `CASE level WHEN .. ELSE otherwise END`; NULL is none of the levels. -/
def levelRank (otherwise : Int) (level : Option String) : Int :=
  if level = some "zone" then 0
  else if level = some "region" then 1
  else if level = some "area" then 2
  else if level = some "territory" then 3
  else otherwise

/-- `SELECT level INTO ..`, NULL without a row. -/
def levelOf (territories : List TerritoryRow) (id : Nat) : Option String :=
  (findBy TerritoryRow.id id territories).map TerritoryRow.level

/-- `master_data_validate_territory_hierarchy`. -/
def validateTerritoryHierarchy (territories : List TerritoryRow) (new : TerritoryHierarchyAssignment) :
    Except Refusal Unit :=
  let parentLevel := levelOf territories new.parentId
  let childLevel := levelOf territories new.childId
  if conjAll [isNotNull parentLevel, isNotNull childLevel,
      some (decide (levelRank (-1) childLevel ≤ levelRank 99 parentLevel))] = some true then
    .error ⟨"The hierarchy parent must be above its child.", "master_data_territory_hierarchy_levels_valid"⟩
  else .ok ()

/-- `master_data_protect_referenced_territory_level` of migration 0007. -/
def protectReferencedTerritoryLevel (old new : TerritoryRow) : Except Refusal Unit :=
  if distinct new.level old.level = some true then
    .error ⟨"A territory level cannot be changed after creation.", "master_data_territory_level_immutable"⟩
  else .ok ()

/-- `BEFORE UPDATE OF level`. -/
def beforeUpdateOfLevel (columns : TerritoryColumns) (old : TerritoryRow) : Except Refusal Unit :=
  if columns.level.isSome then protectReferencedTerritoryLevel old (columns.apply old) else .ok ()

/-- `BEFORE UPDATE OF parent_id, child_id`. -/
def beforeUpdateOfEnds (territories : List TerritoryRow) (columns : AssignmentColumns)
    (old : TerritoryHierarchyAssignment) : Except Refusal Unit :=
  if columns.parentId.isSome || columns.childId.isSome then
    validateTerritoryHierarchy territories (columns.apply old)
  else .ok ()

/-- `master_data_territory_level_valid`. -/
def levelValid (row : TerritoryRow) : Truth := isIn (some row.level) ["zone", "region", "area", "territory"]

/-- `master_data_territory_hierarchy_no_overlap` excludes such a pair. -/
def overlapping (first second : TerritoryHierarchyAssignment) : Bool := clash first.dated second.dated

/-- Both tables with their keys and their own constraints; the foreign keys are not among them. -/
structure Tables where
  territories : List TerritoryRow
  assignments : List TerritoryHierarchyAssignment
  territory_ids : (territories.map TerritoryRow.id).Nodup
  levels_valid : ∀ row ∈ territories, levelValid row ≠ some false
  assignment_ids : (assignments.map TerritoryHierarchyAssignment.id).Nodup
  dates_valid : ∀ row ∈ assignments, datesValid row.dated.assignment = true
  no_overlap : Exclusive overlapping assignments

theorem overlapping_comm (first second : TerritoryHierarchyAssignment) :
    overlapping first second = overlapping second first := clash_comm _ _

section Write
variable (tables : Tables)

/-- The row is stored beside the others that the table keeps. -/
def Tables.writeTerritory {others : List TerritoryRow} (kept : others.Sublist tables.territories)
    (new : TerritoryRow) (elsewhere : Bool) : Except Refusal Tables :=
  if invalid : levelValid new = some false then
    .error ⟨"The row violates a check constraint.", "master_data_territory_level_valid"⟩
  else if taken : new.id ∈ others.map TerritoryRow.id then
    .error ⟨"The key is taken.", "master_data_territory_pkey"⟩
  else if elsewhere then
    .ok
      { tables with
        territories := others ++ [new]
        territory_ids := nodup_snoc (tables.territory_ids.sublist (kept.map _)) taken
        levels_valid := forall_mem_snoc (fun row old => tables.levels_valid row (kept.subset old)) invalid }
  else .error ⟨"The statement fails elsewhere.", ""⟩

def Tables.writeAssignment {others : List TerritoryHierarchyAssignment} (kept : others.Sublist tables.assignments)
    (new : TerritoryHierarchyAssignment) (elsewhere : Bool) : Except Refusal Tables :=
  if valid : datesValid new.dated.assignment = true then
    if taken : new.id ∈ others.map TerritoryHierarchyAssignment.id then
      .error ⟨"The key is taken.", "master_data_territoryhierarchyassignment_pkey"⟩
    else if free : ∀ other ∈ others, overlapping other new = false then
      if elsewhere then
        .ok
          { tables with
            assignments := others ++ [new]
            assignment_ids := nodup_snoc (tables.assignment_ids.sublist (kept.map _)) taken
            dates_valid := forall_mem_snoc (fun row old => tables.dates_valid row (kept.subset old)) valid
            no_overlap := Exclusive.snoc (tables.no_overlap.sublist kept) free }
      else .error ⟨"The statement fails elsewhere.", ""⟩
    else .error ⟨"The row violates an exclusion constraint.", "master_data_territory_hierarchy_no_overlap"⟩
  else .error ⟨"The row violates a check constraint.", "master_data_territory_hierarchy_dates_valid"⟩

/-- Triggers first, then the constraints of the row. A statement for several rows writes them
one after another. -/
def execute : Statement → Except Refusal Tables
  | .insertTerritory new elsewhere => tables.writeTerritory (List.Sublist.refl _) new elsewhere
  | .updateTerritory id columns elsewhere =>
      match findBy TerritoryRow.id id tables.territories with
      | none => .ok tables
      | some old =>
          match beforeUpdateOfLevel columns old with
          | .error refusal => .error refusal
          | .ok () =>
              tables.writeTerritory (List.filter_sublist (p := fun row => row.id ≠ id)) (columns.apply old) elsewhere
  | .insertAssignment new elsewhere =>
      match validateTerritoryHierarchy tables.territories new with
      | .error refusal => .error refusal
      | .ok () => tables.writeAssignment (List.Sublist.refl _) new elsewhere
  | .updateAssignment id columns elsewhere =>
      match findBy TerritoryHierarchyAssignment.id id tables.assignments with
      | none => .ok tables
      | some old =>
          match beforeUpdateOfEnds tables.territories columns old with
          | .error refusal => .error refusal
          | .ok () =>
              tables.writeAssignment (List.filter_sublist (p := fun row => row.id ≠ id)) (columns.apply old) elsewhere

end Write

/-! ## Transactions -/

def Tables.territoryIds (tables : Tables) : List Nat := tables.territories.map TerritoryRow.id

/-- What the foreign keys ask of the tables. -/
def ForeignKeysHold (tables : Tables) : Prop :=
  ∀ row ∈ tables.assignments, row.parentId ∈ tables.territoryIds ∧ row.childId ∈ tables.territoryIds

instance (tables : Tables) : Decidable (ForeignKeysHold tables) :=
  inferInstanceAs (Decidable (∀ row ∈ tables.assignments, _))

/-- The committed tables, and those the open transaction works on. -/
structure Database where
  committed : Tables
  working : Tables

inductive Event where
  | execute (statement : Statement)
  | commit
  | rollback
  deriving DecidableEq

/-- A refused statement leaves the tables as they were; where it aborts the transaction, a
rollback follows. The foreign keys are checked at the commit. -/
def step (database : Database) : Event → Database
  | .execute statement =>
      match execute database.working statement with
      | .error _ => database
      | .ok next => { database with working := next }
  | .commit =>
      if ForeignKeysHold database.working then ⟨database.working, database.working⟩
      else ⟨database.committed, database.committed⟩
  | .rollback => ⟨database.committed, database.committed⟩

def Tables.empty : Tables where
  territories := []
  assignments := []
  territory_ids := List.nodup_nil
  levels_valid := fun _ absent => (List.not_mem_nil absent).elim
  assignment_ids := List.nodup_nil
  dates_valid := fun _ absent => (List.not_mem_nil absent).elim
  no_overlap := List.Pairwise.nil

def Database.empty : Database := ⟨.empty, .empty⟩

/-! ## What a statement names -/

section Names
variable (tables : Tables)

/-- The territories that a statement writes into an assignment. -/
def Statement.references : Statement → List Nat
  | .insertAssignment new _ => [new.parentId, new.childId]
  | .updateAssignment id columns _ =>
      match findBy TerritoryHierarchyAssignment.id id tables.assignments with
      | none => []
      | some _ => columns.parentId.toList ++ columns.childId.toList
  | .insertTerritory _ _ | .updateTerritory _ _ _ => []

/-- The key that a statement takes from its territory. -/
def Statement.retires : Statement → List Nat
  | .updateTerritory id columns _ =>
      match findBy TerritoryRow.id id tables.territories with
      | none => []
      | some old => if (columns.apply old).id = old.id then [] else [old.id]
  | .insertTerritory _ _ | .insertAssignment _ _ | .updateAssignment _ _ _ => []

/-- The statement leaves nothing for the foreign keys to find at the commit: the territories it
names are there, and no assignment names a territory whose key it changes. -/
def Statement.Prompt (statement : Statement) : Prop :=
  (∀ id ∈ statement.references tables, id ∈ tables.territoryIds) ∧
    ∀ id ∈ statement.retires tables, ∀ row ∈ tables.assignments, row.parentId ≠ id ∧ row.childId ≠ id

instance (statement : Statement) : Decidable (statement.Prompt tables) :=
  inferInstanceAs (Decidable (_ ∧ _))

end Names

/-! ## What a statement writes -/

section Written
variable {tables next : Tables}

theorem writeTerritory_ok {others : List TerritoryRow} {kept : others.Sublist tables.territories}
    {new : TerritoryRow} {elsewhere : Bool} (done : tables.writeTerritory kept new elsewhere = .ok next) :
    next.territories = others ++ [new] ∧ next.assignments = tables.assignments := by
  unfold Tables.writeTerritory at done
  split_ifs at done
  obtain rfl := Except.ok.inj done
  exact ⟨rfl, rfl⟩

theorem writeAssignment_ok {others : List TerritoryHierarchyAssignment}
    {kept : others.Sublist tables.assignments} {new : TerritoryHierarchyAssignment} {elsewhere : Bool}
    (done : tables.writeAssignment kept new elsewhere = .ok next) :
    next.assignments = others ++ [new] ∧ next.territories = tables.territories := by
  unfold Tables.writeAssignment at done
  split_ifs at done
  obtain rfl := Except.ok.inj done
  exact ⟨rfl, rfl⟩

/-- A territory keeps its level in every update. -/
theorem beforeUpdateOfLevel_ok {columns : TerritoryColumns} {old : TerritoryRow}
    (passed : beforeUpdateOfLevel columns old = .ok ()) : (columns.apply old).level = old.level := by
  unfold beforeUpdateOfLevel protectReferencedTerritoryLevel at passed
  cases listed : columns.level with
  | none => rw [TerritoryColumns.apply, listed, Option.getD_none]
  | some level =>
    rw [listed, Option.isSome_some, if_pos rfl] at passed
    split_ifs at passed with changed
    rw [distinct_true, not_not] at changed
    exact changed

/-- What the statement has done to the tables. -/
inductive Wrote (tables next : Tables) : Statement → Prop
  | missed (statement : Statement) (references : statement.references tables = [])
      (retires : statement.retires tables = []) (same : next = tables) : Wrote tables next statement
  | newTerritory (new : TerritoryRow) (elsewhere : Bool)
      (territories : next.territories = tables.territories ++ [new])
      (assignments : next.assignments = tables.assignments) :
      Wrote tables next (.insertTerritory new elsewhere)
  | oldTerritory (columns : TerritoryColumns) (elsewhere : Bool) (old : TerritoryRow)
      (member : old ∈ tables.territories) (level : (columns.apply old).level = old.level)
      (territories : next.territories =
        tables.territories.filter (fun row => row.id ≠ old.id) ++ [columns.apply old])
      (assignments : next.assignments = tables.assignments) :
      Wrote tables next (.updateTerritory old.id columns elsewhere)
  | newAssignment (new : TerritoryHierarchyAssignment) (elsewhere : Bool)
      (passed : validateTerritoryHierarchy tables.territories new = .ok ())
      (assignments : next.assignments = tables.assignments ++ [new])
      (territories : next.territories = tables.territories) :
      Wrote tables next (.insertAssignment new elsewhere)
  | oldAssignment (columns : AssignmentColumns) (elsewhere : Bool) (old : TerritoryHierarchyAssignment)
      (member : old ∈ tables.assignments) (passed : beforeUpdateOfEnds tables.territories columns old = .ok ())
      (assignments : next.assignments =
        tables.assignments.filter (fun row => row.id ≠ old.id) ++ [columns.apply old])
      (territories : next.territories = tables.territories) :
      Wrote tables next (.updateAssignment old.id columns elsewhere)

theorem execute_wrote {statement : Statement} (done : execute tables statement = .ok next) :
    Wrote tables next statement := by
  cases statement with
  | insertTerritory new elsewhere =>
    rw [execute] at done
    obtain ⟨territories, assignments⟩ := writeTerritory_ok done
    exact .newTerritory new elsewhere territories assignments
  | updateTerritory id columns elsewhere =>
    rw [execute] at done
    cases found : findBy TerritoryRow.id id tables.territories with
    | none =>
      rw [found] at done
      refine .missed _ ?_ ?_ (Except.ok.inj done).symm
      · rw [Statement.references]
      · rw [Statement.retires, found]
    | some old =>
      rw [found] at done
      dsimp only at done
      obtain ⟨member, rfl⟩ := findBy_some found
      split at done
      · cases done
      · rename_i passed
        obtain ⟨territories, assignments⟩ := writeTerritory_ok done
        exact .oldTerritory columns elsewhere old member (beforeUpdateOfLevel_ok passed) territories assignments
  | insertAssignment new elsewhere =>
    rw [execute] at done
    split at done
    · cases done
    · rename_i passed
      obtain ⟨assignments, territories⟩ := writeAssignment_ok done
      exact .newAssignment new elsewhere passed assignments territories
  | updateAssignment id columns elsewhere =>
    rw [execute] at done
    cases found : findBy TerritoryHierarchyAssignment.id id tables.assignments with
    | none =>
      rw [found] at done
      refine .missed _ ?_ ?_ (Except.ok.inj done).symm
      · rw [Statement.references, found]
      · rw [Statement.retires]
    | some old =>
      rw [found] at done
      dsimp only at done
      obtain ⟨member, rfl⟩ := findBy_some found
      split at done
      · cases done
      · rename_i passed
        obtain ⟨assignments, territories⟩ := writeAssignment_ok done
        exact .oldAssignment columns elsewhere old member passed assignments territories

/-- An update that finds its row names what its `SET` list names. -/
theorem references_found {columns : AssignmentColumns} {elsewhere : Bool} {old : TerritoryHierarchyAssignment}
    (member : old ∈ tables.assignments) :
    (Statement.updateAssignment old.id columns elsewhere).references tables =
      columns.parentId.toList ++ columns.childId.toList := by
  rw [Statement.references, findBy_of_mem tables.assignment_ids member]

theorem retires_found {columns : TerritoryColumns} {elsewhere : Bool} {old : TerritoryRow}
    (member : old ∈ tables.territories) :
    (Statement.updateTerritory old.id columns elsewhere).retires tables =
      if (columns.apply old).id = old.id then [] else [old.id] := by
  rw [Statement.retires, findBy_of_mem tables.territory_ids member]

end Written

/-! ## Levels -/

theorem levelRank_bounds {row : TerritoryRow} (valid : levelValid row ≠ some false) (otherwise : Int) :
    levelRank otherwise (some row.level) = levelRank 0 (some row.level) ∧
      0 ≤ levelRank 0 (some row.level) ∧ levelRank 0 (some row.level) ≤ 3 := by
  have listed : row.level ∈ ["zone", "region", "area", "territory"] := by
    by_contra missing
    rw [levelValid, isIn_some] at valid
    exact valid (congrArg some (decide_eq_false missing))
  simp only [List.mem_cons, List.not_mem_nil, or_false] at listed
  rcases listed with level | level | level | level <;> simp [level, levelRank]

theorem levelOf_mem {tables : Tables} {row : TerritoryRow} (member : row ∈ tables.territories) :
    levelOf tables.territories row.id = some row.level := by
  rw [levelOf, findBy_of_mem tables.territory_ids member, Option.map_some]

/-- The trigger lets the row pass only if the parent, once found, is above the child. -/
theorem validateTerritoryHierarchy_ok {territories : List TerritoryRow} {new : TerritoryHierarchyAssignment}
    {parentLevel childLevel : String} (passed : validateTerritoryHierarchy territories new = .ok ())
    (parent : levelOf territories new.parentId = some parentLevel)
    (child : levelOf territories new.childId = some childLevel) :
    levelRank 99 (some parentLevel) < levelRank (-1) (some childLevel) := by
  unfold validateTerritoryHierarchy at passed
  rw [parent, child] at passed
  dsimp only at passed
  split_ifs at passed with refused
  rw [conjAll_true] at refused
  by_contra above
  apply refused
  simpa using above

/-! ## Ranked assignments -/

/-- Both ends of every assignment are there, and the parent is above the child. -/
def Ranked (tables : Tables) (row : TerritoryHierarchyAssignment) : Prop :=
  ∃ parent ∈ tables.territories, ∃ child ∈ tables.territories, parent.id = row.parentId ∧
    child.id = row.childId ∧ levelRank 0 (some parent.level) < levelRank 0 (some child.level)

def Ordered (tables : Tables) : Prop := ∀ row ∈ tables.assignments, Ranked tables row

section Ranks
variable {tables next : Tables} {row : TerritoryHierarchyAssignment}

theorem Ranked.keep (ranked : Ranked tables row)
    (kept : ∀ old ∈ tables.territories, old.id = row.parentId ∨ old.id = row.childId →
      ∃ new ∈ next.territories, new.id = old.id ∧ new.level = old.level) : Ranked next row := by
  obtain ⟨parent, parentIn, child, childIn, parentIs, childIs, above⟩ := ranked
  obtain ⟨newParent, newParentIn, newParentIs, parentLevel⟩ := kept parent parentIn (Or.inl parentIs)
  obtain ⟨newChild, newChildIn, newChildIs, childLevel⟩ := kept child childIn (Or.inr childIs)
  refine ⟨newParent, newParentIn, newChild, newChildIn, newParentIs.trans parentIs, newChildIs.trans childIs, ?_⟩
  rwa [parentLevel, childLevel]

/-- What the trigger has looked at and let pass is ranked. -/
theorem ranked_of_passed (passed : validateTerritoryHierarchy tables.territories row = .ok ())
    (parentThere : row.parentId ∈ tables.territoryIds) (childThere : row.childId ∈ tables.territoryIds) :
    Ranked tables row := by
  obtain ⟨parent, parentIn, parentIs⟩ := List.mem_map.mp parentThere
  obtain ⟨child, childIn, childIs⟩ := List.mem_map.mp childThere
  refine ⟨parent, parentIn, child, childIn, parentIs, childIs, ?_⟩
  have above := validateTerritoryHierarchy_ok passed (parentIs ▸ levelOf_mem parentIn)
    (childIs ▸ levelOf_mem childIn)
  rwa [(levelRank_bounds (tables.levels_valid parent parentIn) 99).1,
    (levelRank_bounds (tables.levels_valid child childIn) (-1)).1] at above

theorem Ranked.ends (ranked : Ranked tables row) :
    row.parentId ∈ tables.territoryIds ∧ row.childId ∈ tables.territoryIds := by
  obtain ⟨parent, parentIn, child, childIn, parentIs, childIs, -⟩ := ranked
  exact ⟨parentIs ▸ List.mem_map_of_mem parentIn, childIs ▸ List.mem_map_of_mem childIn⟩

/-- The ends of a changed assignment are the new ones of the statement or the old ones. -/
theorem apply_ends {columns : AssignmentColumns} {old : TerritoryHierarchyAssignment} (ranked : Ranked tables old)
    (present : ∀ id ∈ columns.parentId.toList ++ columns.childId.toList, id ∈ tables.territoryIds) :
    (columns.apply old).parentId ∈ tables.territoryIds ∧ (columns.apply old).childId ∈ tables.territoryIds := by
  obtain ⟨parentThere, childThere⟩ := ranked.ends
  constructor
  · cases listed : columns.parentId with
    | none => rwa [AssignmentColumns.apply, listed, Option.getD_none]
    | some parentId =>
      rw [AssignmentColumns.apply, listed, Option.getD_some]
      exact present parentId (by simp [listed])
  · cases listed : columns.childId with
    | none => rwa [AssignmentColumns.apply, listed, Option.getD_none]
    | some childId =>
      rw [AssignmentColumns.apply, listed, Option.getD_some]
      exact present childId (by simp [listed])

theorem updated_ranked {columns : AssignmentColumns} {old : TerritoryHierarchyAssignment}
    (ranked : Ranked tables old) (passed : beforeUpdateOfEnds tables.territories columns old = .ok ())
    (present : ∀ id ∈ columns.parentId.toList ++ columns.childId.toList, id ∈ tables.territoryIds) :
    Ranked tables (columns.apply old) := by
  obtain ⟨parentThere, childThere⟩ := apply_ends ranked present
  unfold beforeUpdateOfEnds at passed
  split_ifs at passed with fires
  · exact ranked_of_passed passed parentThere childThere
  · rw [Bool.or_eq_true, not_or, Option.not_isSome_iff_eq_none, Option.not_isSome_iff_eq_none] at fires
    obtain ⟨parent, parentIn, child, childIn, parentIs, childIs, above⟩ := ranked
    refine ⟨parent, parentIn, child, childIn, ?_, ?_, above⟩
    · rw [parentIs, AssignmentColumns.apply, fires.1, Option.getD_none]
    · rw [childIs, AssignmentColumns.apply, fires.2, Option.getD_none]

/-- A territory that is updated stays where the assignments look for it. -/
theorem updated_kept {columns : TerritoryColumns} {elsewhere : Bool} {old : TerritoryRow}
    (level : (columns.apply old).level = old.level)
    (member : old ∈ tables.territories)
    (free : ∀ id ∈ (Statement.updateTerritory old.id columns elsewhere).retires tables, ∀ row ∈ tables.assignments,
      row.parentId ≠ id ∧ row.childId ≠ id) (inside : row ∈ tables.assignments)
    (territories : next.territories = tables.territories.filter (fun row => row.id ≠ old.id) ++ [columns.apply old]) :
    ∀ other ∈ tables.territories, other.id = row.parentId ∨ other.id = row.childId →
      ∃ new ∈ next.territories, new.id = other.id ∧ new.level = other.level := by
  intro other otherIn named
  rw [territories]
  by_cases same : other.id = old.id
  · obtain rfl : other = old := List.inj_on_of_nodup_map tables.territory_ids otherIn member same
    refine ⟨columns.apply other, List.mem_append_right _ (List.mem_singleton_self _), ?_, level⟩
    by_contra changed
    have retired : other.id ∈ (Statement.updateTerritory other.id columns elsewhere).retires tables := by
      rw [retires_found member, if_neg changed]
      exact List.mem_singleton_self _
    obtain ⟨parentFree, childFree⟩ := free other.id retired row inside
    rcases named with isParent | isChild
    · exact parentFree isParent.symm
    · exact childFree isChild.symm
  · refine ⟨other, List.mem_append_left _ ?_, rfl, rfl⟩
    exact List.mem_filter.mpr ⟨otherIn, decide_eq_true same⟩

/-- One statement of a prompt run. -/
theorem Ordered.execute {statement : Statement} (ordered : Ordered tables) (prompt : statement.Prompt tables)
    (done : execute tables statement = .ok next) : Ordered next := by
  cases execute_wrote done with
  | missed _ _ _ same => exact same ▸ ordered
  | newTerritory new elsewhere territories assignments =>
    intro row member
    rw [assignments] at member
    refine (ordered row member).keep ?_
    intro old oldIn _
    rw [territories]
    exact ⟨old, List.mem_append_left _ oldIn, rfl, rfl⟩
  | oldTerritory columns elsewhere old member level territories assignments =>
    intro row inside
    rw [assignments] at inside
    exact (ordered row inside).keep (updated_kept level member prompt.2 inside territories)
  | newAssignment new elsewhere passed assignments territories =>
    intro row member
    have unchanged : Ranked tables row → Ranked next row := by
      intro ranked
      apply ranked.keep
      intro old oldIn _
      exact ⟨old, territories ▸ oldIn, rfl, rfl⟩
    rw [assignments] at member
    apply unchanged
    rcases List.mem_append.mp member with old | last
    · exact ordered row old
    · rw [List.mem_singleton.mp last]
      exact ranked_of_passed passed (prompt.1 _ (by simp [Statement.references]))
        (prompt.1 _ (by simp [Statement.references]))
  | oldAssignment columns elsewhere old member passed assignments territories =>
    intro row inside
    have unchanged : Ranked tables row → Ranked next row := by
      intro ranked
      apply ranked.keep
      intro old oldIn _
      exact ⟨old, territories ▸ oldIn, rfl, rfl⟩
    rw [assignments] at inside
    apply unchanged
    rcases List.mem_append.mp inside with kept | last
    · exact ordered row (List.mem_filter.mp kept).1
    · rw [List.mem_singleton.mp last]
      exact updated_ranked (ordered old member) passed (references_found member ▸ prompt.1)

/-- What the foreign keys would accept at once has been prompt. -/
theorem prompt_of_held {statement : Statement} (done : Hierarchy.execute tables statement = .ok next)
    (held : ForeignKeysHold next) : statement.Prompt tables := by
  cases execute_wrote done with
  | missed _ references retires _ =>
    rw [Statement.Prompt, references, retires]
    exact ⟨fun _ absent => (List.not_mem_nil absent).elim, fun _ absent => (List.not_mem_nil absent).elim⟩
  | newTerritory new elsewhere territories assignments =>
    exact ⟨fun _ absent => (List.not_mem_nil absent).elim, fun _ absent => (List.not_mem_nil absent).elim⟩
  | oldTerritory columns elsewhere old member level territories assignments =>
    refine ⟨fun _ absent => (List.not_mem_nil absent).elim, ?_⟩
    rw [retires_found member]
    intro id retired row inside
    split_ifs at retired with unchanged
    · cases retired
    · have gone : old.id ∉ next.territoryIds := by
        rw [Tables.territoryIds, territories, List.map_append, List.map_singleton, List.mem_append,
          List.mem_singleton]
        rintro (kept | taken)
        · obtain ⟨other, otherIn, same⟩ := List.mem_map.mp kept
          exact of_decide_eq_true (List.mem_filter.mp otherIn).2 same
        · exact unchanged taken.symm
      rw [List.mem_singleton.mp retired]
      obtain ⟨parentThere, childThere⟩ := held row (assignments ▸ inside)
      exact ⟨fun same => gone (same ▸ parentThere), fun same => gone (same ▸ childThere)⟩
  | newAssignment new elsewhere passed assignments territories =>
    refine ⟨?_, fun _ absent => (List.not_mem_nil absent).elim⟩
    obtain ⟨parentThere, childThere⟩ := held new (assignments ▸ List.mem_append_right _ (List.mem_singleton_self new))
    rw [Tables.territoryIds, territories] at parentThere childThere
    intro id named
    simp only [Statement.references, List.mem_cons, List.not_mem_nil, or_false] at named
    rcases named with rfl | rfl
    · exact parentThere
    · exact childThere
  | oldAssignment columns elsewhere old member passed assignments territories =>
    refine ⟨?_, fun _ absent => (List.not_mem_nil absent).elim⟩
    obtain ⟨parentThere, childThere⟩ := held (columns.apply old)
      (assignments ▸ List.mem_append_right _ (List.mem_singleton_self _))
    rw [Tables.territoryIds, territories] at parentThere childThere
    rw [references_found member]
    intro id named
    rcases List.mem_append.mp named with isParent | isChild
    · rwa [AssignmentColumns.apply, Option.mem_toList.mp isParent] at parentThere
    · rwa [AssignmentColumns.apply, Option.mem_toList.mp isChild] at childThere

end Ranks

/-! ## The forest -/

section Forests
variable (tables : Tables)

/-- The parent of a territory on a day. -/
def Tables.parentOn (day : Date) (child up : Nat) : Prop :=
  ∃ row ∈ tables.assignments, row.childId = child ∧ row.parentId = up ∧ covers row.dated.assignment day = true

/-- The parents of a territory on any day. -/
def Tables.parentEver (child up : Nat) : Prop :=
  ∃ row ∈ tables.assignments, row.childId = child ∧ row.parentId = up

/-- At most one parent a day, no cycle, three steps at most, no child below a leaf. -/
structure IsHierarchy : Prop where
  single : ∀ day, ∀ first ∈ tables.assignments, ∀ second ∈ tables.assignments, first.childId = second.childId →
    covers first.dated.assignment day = true → covers second.dated.assignment day = true → first = second
  forest : ∀ day, Forest (tables.parentOn day) 3
  acyclic : ∀ territory, ¬Relation.TransGen tables.parentEver territory territory
  leaves : ∀ row ∈ tables.assignments, ∀ territory ∈ tables.territories, territory.id = row.parentId →
    territory.level ≠ "territory"

/-- Where a territory stands, counted from the zones. -/
def Tables.standing (id : Nat) : Nat := (levelRank 0 (levelOf tables.territories id)).toNat

theorem standing_le (id : Nat) : tables.standing id ≤ 3 := by
  unfold Tables.standing levelRank
  split_ifs <;> decide

variable {tables}

theorem assignments_single {first second : TerritoryHierarchyAssignment} (firstIn : first ∈ tables.assignments)
    (secondIn : second ∈ tables.assignments) (same : first.childId = second.childId) {day : Date}
    (firstCovers : covers first.dated.assignment day = true)
    (secondCovers : covers second.dated.assignment day = true) : first = second := by
  have clashes : overlapping first second = true := DatedAssignments.clash_of_covers
    (tables.dates_valid first firstIn) (tables.dates_valid second secondIn) same firstCovers secondCovers
  by_contra apart
  rw [tables.no_overlap.clash_free overlapping_comm firstIn secondIn apart] at clashes
  cases clashes

/-- Ascending the hierarchy lowers the rank of the level. -/
theorem Ordered.falls (ordered : Ordered tables) : Falls tables.parentEver tables.standing := by
  rintro _ _ ⟨row, member, rfl, rfl⟩
  obtain ⟨parent, parentIn, child, childIn, parentIs, childIs, above⟩ := ordered row member
  obtain ⟨_, low, _⟩ := levelRank_bounds (tables.levels_valid parent parentIn) 0
  rw [Tables.standing, Tables.standing, ← parentIs, ← childIs, levelOf_mem parentIn, levelOf_mem childIn]
  omega

theorem Ordered.hierarchy (ordered : Ordered tables) : IsHierarchy tables where
  single := fun _ _ firstIn _ secondIn same => assignments_single firstIn secondIn same
  forest := by
    intro day
    have falls : Falls (tables.parentOn day) tables.standing := by
      apply ordered.falls.mono
      rintro _ _ ⟨row, member, child, up, _⟩
      exact ⟨row, member, child, up⟩
    apply falls.forest (standing_le tables)
    rintro _ _ _ ⟨row, member, rfl, rfl, covered⟩ ⟨other, otherIn, same, rfl, otherCovered⟩
    rw [assignments_single member otherIn same.symm covered otherCovered]
  acyclic := ordered.falls.acyclic
  leaves := by
    intro row member territory territoryIn named leaf
    obtain ⟨parent, parentIn, child, childIn, parentIs, _, above⟩ := ordered row member
    obtain ⟨_, _, low⟩ := levelRank_bounds (tables.levels_valid child childIn) 0
    have same : territory = parent :=
      List.inj_on_of_nodup_map tables.territory_ids territoryIn parentIn (named.trans parentIs.symm)
    have highest : levelRank 0 (some parent.level) = 3 := by
      rw [← same, leaf]
      rfl
    omega

end Forests

/-! ## Runs -/

def Event.Prompt (database : Database) : Event → Prop
  | .execute statement => statement.Prompt database.working
  | .commit | .rollback => True

instance (database : Database) : ∀ event : Event, Decidable (event.Prompt database)
  | .execute statement => inferInstanceAs (Decidable (statement.Prompt database.working))
  | .commit | .rollback => inferInstanceAs (Decidable True)

def Database.AllOrdered (database : Database) : Prop := Ordered database.working ∧ Ordered database.committed

theorem step_ordered (database : Database) (event : Event) (prompt : event.Prompt database)
    (ordered : database.AllOrdered) : (step database event).AllOrdered := by
  cases event with
  | execute statement =>
    rw [step]
    cases done : execute database.working statement with
    | error refusal => exact ordered
    | ok next => exact ⟨ordered.1.execute prompt done, ordered.2⟩
  | commit =>
    rw [step]
    split_ifs
    · exact ⟨ordered.1, ordered.1⟩
    · exact ⟨ordered.2, ordered.2⟩
  | rollback => exact ⟨ordered.2, ordered.2⟩

theorem empty_ordered : Database.empty.AllOrdered :=
  ⟨fun _ absent => (List.not_mem_nil absent).elim, fun _ absent => (List.not_mem_nil absent).elim⟩

/-- In a run of prompt statements the hierarchy is a forest in every state, in the open
transaction as well as in the committed tables. -/
theorem hierarchy_forest (events : List Event) (prompt : AdmittedRun step Event.Prompt Database.empty events) :
    ∀ past, past <+: events → IsHierarchy (run step Database.empty past).working ∧
      IsHierarchy (run step Database.empty past).committed := by
  rintro past ⟨rest, rfl⟩
  have ordered := AdmittedRun.run_invariant step_ordered empty_ordered prompt.front
  exact ⟨ordered.1.hierarchy, ordered.2.hierarchy⟩

namespace Sample
open Validation.Sample (day)

/-- A zone, a region and a leaf; the leaf moves from the zone to the region the day after. -/
def reorganization : List Event := [
  .execute (.insertTerritory ⟨1, "zone"⟩ true),
  .execute (.insertTerritory ⟨2, "region"⟩ true),
  .execute (.insertTerritory ⟨3, "territory"⟩ true),
  .execute (.insertAssignment ⟨1, 1, 3, day, none⟩ true),
  .execute (.insertAssignment ⟨2, 1, 2, day, none⟩ true),
  .commit,
  .execute (.insertAssignment ⟨3, 3, 2, day, none⟩ true),
  .execute (.updateTerritory 2 { level := some "zone" } true),
  .execute (.updateAssignment 1 { effectiveTo := some (some day) } true),
  .execute (.insertAssignment ⟨3, 2, 3, DatedAssignments.Sample.nextDay, none⟩ true),
  .commit]

/-- Two assignments whose territories are inserted after them, in one transaction. -/
def forwardReferences : List Event := [
  .execute (.insertAssignment ⟨1, 1, 2, day, none⟩ true),
  .execute (.insertAssignment ⟨2, 2, 1, day, none⟩ true),
  .execute (.insertTerritory ⟨1, "territory"⟩ true),
  .execute (.insertTerritory ⟨2, "zone"⟩ true),
  .commit]

end Sample

/-- The assignment below the leaf and the change of level are refused. -/
theorem hierarchy_forest_sample :
    (run step Database.empty Sample.reorganization).committed.assignments.map TerritoryHierarchyAssignment.id =
        [2, 1, 3] ∧
      IsHierarchy (run step Database.empty Sample.reorganization).committed := by
  refine ⟨by decide +kernel, ?_⟩
  exact (hierarchy_forest Sample.reorganization (by decide +kernel) _ (List.prefix_refl _)).2

/-- The trigger finds no levels to compare and the foreign keys hold at the commit: the leaf and
the zone are each other's parent. -/
theorem forwardReferences_cycle :
    (run step Database.empty Sample.forwardReferences).committed.assignments =
        [⟨1, 1, 2, Validation.Sample.day, none⟩, ⟨2, 2, 1, Validation.Sample.day, none⟩] ∧
      ¬IsHierarchy (run step Database.empty Sample.forwardReferences).committed := by
  have stored : (run step Database.empty Sample.forwardReferences).committed.assignments =
      [⟨1, 1, 2, Validation.Sample.day, none⟩, ⟨2, 2, 1, Validation.Sample.day, none⟩] := by
    decide +kernel
  refine ⟨stored, ?_⟩
  intro hierarchy
  have up : (run step Database.empty Sample.forwardReferences).committed.parentEver 2 1 := by
    refine ⟨⟨1, 1, 2, Validation.Sample.day, none⟩, ?_, rfl, rfl⟩
    rw [stored]
    exact List.mem_cons_self
  have back : (run step Database.empty Sample.forwardReferences).committed.parentEver 1 2 := by
    refine ⟨⟨2, 2, 1, Validation.Sample.day, none⟩, ?_, rfl, rfl⟩
    rw [stored]
    exact List.mem_cons_of_mem _ List.mem_cons_self
  exact hierarchy.acyclic 2 (.tail (.single up) back)

/-! ## Statements on their own -/

/-- Every statement is a transaction. -/
def committedAtOnce (statements : List Statement) : List Event :=
  statements.flatMap (fun statement => [.execute statement, .commit])

/-- Nothing is open, and the tables are ordered. -/
def Database.Settled (database : Database) : Prop :=
  database.working = database.committed ∧ Ordered database.committed

theorem commit_settled {database : Database} (settled : database.Settled) (statement : Statement) :
    (step (step database (.execute statement)) .commit).Settled := by
  obtain ⟨same, ordered⟩ := settled
  rw [step]
  cases done : execute database.working statement with
  | error refusal =>
    dsimp only
    rw [step, same, ite_self]
    exact ⟨rfl, ordered⟩
  | ok next =>
    dsimp only
    rw [step]
    split_ifs with held
    · rw [← same] at ordered
      exact ⟨rfl, ordered.execute (prompt_of_held done held) done⟩
    · exact ⟨rfl, ordered⟩

/-- A foreign key that is checked after each statement closes the gap. -/
theorem committedAtOnce_forest (statements : List Statement) :
    IsHierarchy (run step Database.empty (committedAtOnce statements)).committed := by
  have settled : ∀ (database : Database), database.Settled →
      (run step database (committedAtOnce statements)).Settled := by
    induction statements with
    | nil => exact fun _ settled => settled
    | cons statement rest ih =>
      intro database settled
      rw [committedAtOnce, List.flatMap_cons, run_append]
      exact ih _ (commit_settled settled statement)
  exact (settled Database.empty ⟨rfl, empty_ordered.2⟩).2.hierarchy

end PharmaIntel.Hierarchy
