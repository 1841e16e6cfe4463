import Mathlib
import PharmaIntel.Base.Keyed
import PharmaIntel.Models

/-! Statements on the tables that keep their keys unique: an insert that would repeat
a key fails. -/

namespace PharmaIntel.Models
open PharmaIntel.Base

/-! ## Sales facts -/

/-- The stored row of an insert statement. -/
def SalesValues.stored (values : SalesValues) (id createdById : Nat) (createdAt : Instant) :
    SalesTransaction :=
  ⟨id, values.calendarDateId, values.productId, values.territoryId, values.hospitalId,
    values.salesRepresentativeId, values.quantity, values.revenueAmount, values.currencyCode,
    values.sourceSystem, values.sourceRecordId, createdById, createdAt⟩

@[simp] theorem SalesValues.values_stored (values : SalesValues) (id createdById : Nat)
    (createdAt : Instant) : (values.stored id createdById createdAt).values = values := rfl

@[simp] theorem SalesValues.key_stored (values : SalesValues) (id createdById : Nat)
    (createdAt : Instant) : (values.stored id createdById createdAt).key = values.key := rfl

namespace FactTable

def find (table : FactTable) (key : String × String) : Option SalesTransaction :=
  findBy SalesTransaction.key key table.facts

/-- The table after a row with a new key. -/
def push (table : FactTable) (values : SalesValues) (createdById : Nat) (createdAt : Instant)
    (fresh : values.key ∉ table.facts.map SalesTransaction.key) : FactTable where
  facts := table.facts ++ [values.stored table.sequence createdById createdAt]
  sequence := table.sequence + 1
  ids_below := by
    intro fact member
    rcases List.mem_append.mp member with old | new
    · have below := table.ids_below fact old
      omega
    · rw [List.mem_singleton.mp new]
      exact Nat.lt_succ_self _
  ids_nodup := by
    rw [List.map_append, List.nodup_append]
    refine ⟨table.ids_nodup, by simp, ?_⟩
    intro id old other new same
    obtain ⟨fact, member, rfl⟩ := List.mem_map.mp old
    have below := table.ids_below fact member
    have newest : other = table.sequence := by simpa [SalesValues.stored] using new
    omega
  keys_nodup := by
    rw [List.map_append, List.nodup_append]
    refine ⟨table.keys_nodup, by simp, ?_⟩
    intro key old other new same
    have newest : other = values.key := by simpa using new
    exact fresh (newest ▸ same ▸ old)

def insert (table : FactTable) (values : SalesValues) (createdById : Nat) (createdAt : Instant) :
    Except PyError FactTable :=
  if fresh : values.key ∉ table.facts.map SalesTransaction.key then
    .ok (table.push values createdById createdAt fresh)
  else .error (.integrityError "business_data_sales_source_unique")

/-- `bulk_create` inside one transaction. -/
def insertAll (table : FactTable) (createdById : Nat) (createdAt : Instant) :
    List SalesValues → Except PyError FactTable
  | [] => .ok table
  | values :: rest =>
      match table.insert values createdById createdAt with
      | .error e => .error e
      | .ok table => table.insertAll createdById createdAt rest

theorem insert_ok {table next : FactTable} {values : SalesValues} {createdById : Nat}
    {createdAt : Instant} (inserted : table.insert values createdById createdAt = .ok next) :
    values.key ∉ table.facts.map SalesTransaction.key ∧
      next.facts = table.facts ++ [values.stored table.sequence createdById createdAt] := by
  unfold insert at inserted
  split_ifs at inserted with fresh
  injection inserted with same
  subst same
  exact ⟨fresh, rfl⟩

theorem insert_fresh {table : FactTable} {values : SalesValues} (createdById : Nat)
    (createdAt : Instant) (fresh : values.key ∉ table.facts.map SalesTransaction.key) :
    table.insert values createdById createdAt = .ok (table.push values createdById createdAt fresh) :=
  dif_pos fresh

/-- What a successful bulk insert adds: the given values, under distinct new keys. -/
theorem insertAll_ok {createdById : Nat} {createdAt : Instant} {rows : List SalesValues}
    {table next : FactTable} (inserted : table.insertAll createdById createdAt rows = .ok next) :
    ∃ added, next.facts = table.facts ++ added ∧ added.map SalesTransaction.values = rows ∧
      (∀ fact ∈ added, fact.createdById = createdById ∧ fact.createdAt = createdAt) ∧
      ∀ values ∈ rows, values.key ∉ table.facts.map SalesTransaction.key := by
  induction rows generalizing table with
  | nil =>
    cases inserted
    exact ⟨[], by simp⟩
  | cons values rest ih =>
    rw [insertAll] at inserted
    cases first : table.insert values createdById createdAt with
    | error e => simp [first] at inserted
    | ok middle =>
      rw [first] at inserted
      obtain ⟨fresh, grown⟩ := insert_ok first
      obtain ⟨added, whole, same, stamped, later⟩ := ih inserted
      refine ⟨values.stored table.sequence createdById createdAt :: added, ?_, ?_, ?_, ?_⟩
      · rw [whole, grown, List.append_assoc, List.singleton_append]
      · rw [List.map_cons, same, SalesValues.values_stored]
      · intro fact member
        rcases List.mem_cons.mp member with rfl | inside
        · exact ⟨rfl, rfl⟩
        · exact stamped fact inside
      · intro other member
        rcases List.mem_cons.mp member with rfl | inside
        · exact fresh
        · intro known
          apply later other inside
          rw [grown, List.map_append]
          exact List.mem_append_left _ known

theorem insertAll_error {createdById : Nat} {createdAt : Instant} {rows : List SalesValues}
    {table : FactTable} {error : PyError}
    (failed : table.insertAll createdById createdAt rows = .error error) :
    error = .integrityError "business_data_sales_source_unique" := by
  induction rows generalizing table with
  | nil => cases failed
  | cons values rest ih =>
    rw [insertAll, insert] at failed
    split_ifs at failed with known
    · cases failed
      rfl
    · exact ih failed

/-- Distinct new keys never violate the constraint. -/
theorem insertAll_fresh (createdById : Nat) (createdAt : Instant) {rows : List SalesValues}
    {table : FactTable} (distinct : (rows.map SalesValues.key).Nodup)
    (fresh : ∀ values ∈ rows, values.key ∉ table.facts.map SalesTransaction.key) :
    ∃ next, table.insertAll createdById createdAt rows = .ok next := by
  induction rows generalizing table with
  | nil => exact ⟨table, rfl⟩
  | cons values rest ih =>
    rw [List.map_cons, List.nodup_cons] at distinct
    rw [insertAll, insert_fresh createdById createdAt (fresh values List.mem_cons_self)]
    apply ih distinct.2
    intro other member known
    simp only [push, List.map_append, List.mem_append, List.map_cons, List.map_nil,
      List.mem_singleton, SalesValues.key_stored] at known
    rcases known with old | same
    · exact fresh other (List.mem_cons_of_mem values member) old
    · exact distinct.1 (same ▸ List.mem_map_of_mem member)

theorem find_of_mem {table : FactTable} {fact : SalesTransaction} (member : fact ∈ table.facts) :
    table.find fact.key = some fact := findBy_of_mem table.keys_nodup member

/-- Rows have been added after the others, each taking the next id. -/
def Extends (older newer : FactTable) : Prop :=
  ∃ added, newer.facts = older.facts ++ added ∧ newer.sequence = older.sequence + added.length

theorem Extends.refl (table : FactTable) : Extends table table := ⟨[], by simp⟩

theorem Extends.trans {first second third : FactTable} (front : Extends first second)
    (back : Extends second third) : Extends first third := by
  obtain ⟨added, facts, sequence⟩ := front
  obtain ⟨more, laterFacts, laterSequence⟩ := back
  refine ⟨added ++ more, ?_, ?_⟩
  · rw [laterFacts, facts, List.append_assoc]
  · rw [laterSequence, sequence, List.length_append, Nat.add_assoc]

theorem Extends.facts_kept {older newer : FactTable} (grown : Extends older newer) :
    older.facts <+: newer.facts := by
  obtain ⟨added, facts, _⟩ := grown
  exact ⟨added, facts.symm⟩

/-- A table that gained no row is the table it was. -/
theorem Extends.eq_of_facts {older newer : FactTable} (grown : Extends older newer)
    (same : newer.facts = older.facts) : newer = older := by
  obtain ⟨added, facts, sequence⟩ := grown
  have none : added = [] := by
    rw [same] at facts
    exact List.self_eq_append_right.mp facts
  rw [none, List.length_nil, Nat.add_zero] at sequence
  cases older
  cases newer
  subst same sequence
  rfl

theorem insert_extends {table next : FactTable} {values : SalesValues} {createdById : Nat}
    {createdAt : Instant} (inserted : table.insert values createdById createdAt = .ok next) :
    Extends table next := by
  unfold insert at inserted
  split_ifs at inserted with fresh
  injection inserted with same
  subst same
  exact ⟨[values.stored table.sequence createdById createdAt], rfl, rfl⟩

theorem insertAll_extends {createdById : Nat} {createdAt : Instant} {rows : List SalesValues}
    {table next : FactTable} (inserted : table.insertAll createdById createdAt rows = .ok next) :
    Extends table next := by
  induction rows generalizing table with
  | nil =>
    cases inserted
    exact Extends.refl next
  | cons values rest ih =>
    rw [insertAll] at inserted
    cases first : table.insert values createdById createdAt with
    | error e => simp [first] at inserted
    | ok middle =>
      rw [first] at inserted
      exact (insert_extends first).trans (ih inserted)

end FactTable

/-! ## Intakes -/

/-- A change of an intake row that keeps its keys, activates nothing and passes the
table's check. -/
structure Stable (change : SalesImport → SalesImport) : Prop where
  id : ∀ intake, (change intake).id = intake.id
  fileKey : ∀ intake, (change intake).fileKey = intake.fileKey
  isActive : ∀ intake, (change intake).isActive = true → intake.isActive = true
  consistent : ∀ intake, intake.MetadataConsistent → (change intake).MetadataConsistent

/-- A change that depends on the row's state, and otherwise leaves it alone. -/
theorem Stable.guarded {change : SalesImport → SalesImport} (p : SalesImport → Prop) [DecidablePred p]
    (id : ∀ intake, p intake → (change intake).id = intake.id)
    (fileKey : ∀ intake, p intake → (change intake).fileKey = intake.fileKey)
    (isActive : ∀ intake, p intake → (change intake).isActive = true → intake.isActive = true)
    (consistent : ∀ intake, p intake → intake.MetadataConsistent → (change intake).MetadataConsistent) :
    Stable (fun intake => if p intake then change intake else intake) := by
  constructor
  all_goals
    intro intake
    by_cases holds : p intake
  · simpa [holds] using id intake holds
  · simp [holds]
  · simpa [holds] using fileKey intake holds
  · simp [holds]
  · simpa [holds] using isActive intake holds
  · simp [holds]
  · simpa [holds] using consistent intake holds
  · simp [holds]

namespace ImportTable

def find (table : ImportTable) (pk : Uuid) : Option SalesImport := findBy SalesImport.id pk table.imports

def update (table : ImportTable) (pk : Uuid) (change : SalesImport → SalesImport)
    (stable : Stable change) : ImportTable where
  imports := updateBy SalesImport.id pk change table.imports
  ids_nodup := by
    rw [updateBy_map_key stable.id]
    exact table.ids_nodup
  active_nodup := table.active_nodup.sublist
    (updateBy_filter_sublist SalesImport.fileKey SalesImport.isActive stable.fileKey stable.isActive)
  consistent := by
    intro intake member
    rcases mem_updateBy member with ⟨kept, _⟩ | ⟨origin, inside, _, rfl⟩
    · exact table.consistent intake kept
    · exact stable.consistent origin (table.consistent origin inside)

def insert (table : ImportTable) (intake : SalesImport) : Except PyError ImportTable :=
  if freshId : intake.id ∈ table.imports.map SalesImport.id then
    .error (.integrityError "sales_imports_salesimport_pkey")
  else if freshFile : intake.isActive = true ∧
      intake.fileKey ∈ (table.imports.filter SalesImport.isActive).map SalesImport.fileKey then
    .error (.integrityError "sales_import_active_file_unique")
  else if passes : ¬intake.MetadataConsistent then
    .error (.integrityError "sales_import_status_metadata_consistent")
  else .ok {
    imports := table.imports ++ [intake]
    ids_nodup := by
      rw [List.map_append, List.nodup_append]
      refine ⟨table.ids_nodup, by simp, ?_⟩
      intro id old other new same
      have newest : other = intake.id := by simpa using new
      exact freshId (newest ▸ same ▸ old)
    active_nodup := by
      rw [List.filter_append, List.map_append, List.nodup_append]
      refine ⟨table.active_nodup, ?_, ?_⟩
      · by_cases active : intake.isActive = true
        · simp [active]
        · simp [active]
      · intro key old other new same
        by_cases active : intake.isActive = true
        · have newest : other = intake.fileKey := by simpa [active] using new
          exact freshFile ⟨active, newest ▸ same ▸ old⟩
        · simp [active] at new
    consistent := by
      intro other member
      rcases List.mem_append.mp member with old | new
      · exact table.consistent other old
      · rw [List.mem_singleton.mp new]
        exact not_not.mp passes }

theorem find_some {table : ImportTable} {pk : Uuid} {intake : SalesImport}
    (found : table.find pk = some intake) : intake ∈ table.imports ∧ intake.id = pk :=
  findBy_some found

theorem find_of_mem {table : ImportTable} {intake : SalesImport} (member : intake ∈ table.imports) :
    table.find intake.id = some intake := findBy_of_mem table.ids_nodup member

@[simp] theorem find_update_same (table : ImportTable) (pk : Uuid) (change : SalesImport → SalesImport)
    (stable : Stable change) : (table.update pk change stable).find pk = (table.find pk).map change :=
  findBy_updateBy_same stable.id

theorem find_update_other (table : ImportTable) {pk other : Uuid} (change : SalesImport → SalesImport)
    (stable : Stable change) (apart : other ≠ pk) :
    (table.update pk change stable).find other = table.find other :=
  findBy_updateBy_other stable.id apart

theorem insert_ok {table next : ImportTable} {intake : SalesImport}
    (inserted : table.insert intake = .ok next) :
    intake.id ∉ table.imports.map SalesImport.id ∧ next.imports = table.imports ++ [intake] := by
  unfold insert at inserted
  split_ifs at inserted with known active passes
  injection inserted with same
  subst same
  exact ⟨known, rfl⟩

theorem find_insert {table next : ImportTable} {intake : SalesImport}
    (inserted : table.insert intake = .ok next) (pk : Uuid) :
    next.find pk = if intake.id = pk then some intake else table.find pk := by
  obtain ⟨fresh, grown⟩ := insert_ok inserted
  rw [find, findBy, grown, List.find?_append]
  by_cases same : intake.id = pk
  · have absent : table.imports.find? (fun other => other.id = pk) = none := by
      rw [List.find?_eq_none]
      intro other member
      simp only [decide_eq_true_eq]
      intro equal
      exact fresh (same.trans equal.symm ▸ List.mem_map_of_mem member)
    rw [absent, if_pos same, Option.none_or, List.find?_cons_of_pos (by simpa using same)]
  · rw [if_neg same, List.find?_cons_of_neg (by simpa using same), List.find?_nil, Option.or_none]
    rfl

end ImportTable

end PharmaIntel.Models
