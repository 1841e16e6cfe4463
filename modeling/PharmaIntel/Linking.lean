import Mathlib
import PharmaIntel.Publication

/-! Linking rows to facts when the transaction sees the table it writes: the rows whose
key is absent are inserted, the others are linked to the fact that has it. -/

namespace PharmaIntel.Publication
open PharmaIntel.Base PharmaIntel.Models PharmaIntel.Collector PharmaIntel.Validation
  PharmaIntel.Queue

/-! ## Saving rows back -/

theorem inRowOrder_perm (rows : List SalesImportStagedRow) : (inRowOrder rows).Perm rows :=
  List.perm_insertionSort _ rows

theorem inRowOrder_map (change : SalesImportStagedRow → SalesImportStagedRow)
    (keeps : ∀ row, (change row).rowNumber = row.rowNumber) (rows : List SalesImportStagedRow) :
    inRowOrder (rows.map change) = (inRowOrder rows).map change := by
  symm
  apply List.map_insertionSort
  intro first _ second _
  rw [keeps, keeps]

theorem findBy_map_filter {rows : List SalesImportStagedRow} {p : SalesImportStagedRow → Bool}
    {change : SalesImportStagedRow → SalesImportStagedRow}
    (keeps : ∀ row, (change row).rowNumber = row.rowNumber)
    (distinct : (rows.map SalesImportStagedRow.rowNumber).Nodup) {row : SalesImportStagedRow}
    (member : row ∈ rows) :
    findBy SalesImportStagedRow.rowNumber row.rowNumber ((rows.filter p).map change) =
      if p row then some (change row) else none := by
  have distinctChanged : (((rows.filter p).map change).map SalesImportStagedRow.rowNumber).Nodup := by
    rw [List.map_map, Function.comp_def]
    simp only [keeps]
    exact distinct.sublist (List.filter_sublist.map _)
  by_cases passes : p row = true
  · rw [if_pos passes, ← keeps row]
    exact findBy_of_mem distinctChanged (List.mem_map_of_mem (List.mem_filter.mpr ⟨member, passes⟩))
  · rw [if_neg passes]
    cases found : findBy SalesImportStagedRow.rowNumber row.rowNumber ((rows.filter p).map change) with
    | none => rfl
    | some other =>
      obtain ⟨listed, same⟩ := findBy_some found
      obtain ⟨origin, inside, rfl⟩ := List.mem_map.mp listed
      obtain ⟨originMember, originPasses⟩ := List.mem_filter.mp inside
      rw [keeps] at same
      have equal := List.inj_on_of_nodup_map distinct originMember member same
      exact absurd (equal ▸ originPasses) passes

/-- Saving the changed ones of a permutation of the rows changes just these. -/
theorem saveRows_filter {rows sorted : List SalesImportStagedRow} (perm : sorted.Perm rows)
    {p : SalesImportStagedRow → Bool} {change : SalesImportStagedRow → SalesImportStagedRow}
    {copy : SalesImportStagedRow → SalesImportStagedRow → SalesImportStagedRow}
    (keeps : ∀ row, (change row).rowNumber = row.rowNumber)
    (distinct : (rows.map SalesImportStagedRow.rowNumber).Nodup) :
    saveRows ((sorted.filter p).map change) copy rows =
      rows.map (fun row => if p row then copy (change row) row else row) := by
  apply List.map_congr_left
  intro row member
  have distinctSorted := (perm.map SalesImportStagedRow.rowNumber).nodup_iff.mpr distinct
  rw [findBy_map_filter keeps distinctSorted (perm.mem_iff.mpr member)]
  by_cases passes : p row = true
  · rw [if_pos passes, if_pos passes]
  · rw [if_neg passes, if_neg passes]

theorem saveRows_length (changed rows : List SalesImportStagedRow)
    (copy : SalesImportStagedRow → SalesImportStagedRow → SalesImportStagedRow) :
    (saveRows changed copy rows).length = rows.length := List.length_map _

/-! ## What a linked row is -/

variable (sourceSystem : String) (old : List SalesTransaction)

/-- No fact has the row's key. -/
def absent (row : SalesImportStagedRow) : Bool :=
  (findBy SalesTransaction.key (sourceSystem, row.sourceRecordId) old).isNone

/-- The linked form `l` of a row: it shares an older fact that has equal values, or
owns an added one. -/
inductive LinksTo (added : List SalesTransaction) (row : SalesImportStagedRow) :
    SalesImportStagedRow → Prop where
  | reused {fact : SalesTransaction} (older : fact ∈ old)
      (key : fact.key = (sourceSystem, row.sourceRecordId)) (agrees : factMatches row fact = true) :
      LinksTo added row { row with outcome := .reused, salesTransactionId := some fact.id }
  | published {fact : SalesTransaction} (missing : absent sourceSystem old row = true)
      (new : fact ∈ added) (values : newFact sourceSystem row = some fact.values) :
      LinksTo added row { row with outcome := .published, salesTransactionId := some fact.id }

/-- The row can be inserted, and it differs from no fact with its key. -/
structure Ready (row : SalesImportStagedRow) : Prop where
  complete : (newFact sourceSystem row).isSome
  agrees : ∀ fact ∈ old, fact.key = (sourceSystem, row.sourceRecordId) → factMatches row fact = true

/-- The linking loop after the rows `past`, having added `added`. -/
structure Linked (createdById : Nat) (createdAt : Instant) (past : List SalesImportStagedRow)
    (added : List SalesTransaction) (state : LinkState) : Prop where
  table : state.table.facts = old ++ added
  visible : state.visible = old ++ added
  values : added.map (fun fact => some fact.values) =
    (past.filter (absent sourceSystem old)).map (newFact sourceSystem)
  stamped : ∀ fact ∈ added, fact.createdById = createdById ∧ fact.createdAt = createdAt
  rows : List.Forall₂ (LinksTo sourceSystem old added) past state.linked
  inserted : state.insertedRows = added.length
  reused : state.reusedRows = past.countP (fun row => !absent sourceSystem old row)

variable {sourceSystem old}

theorem newFact_key {row : SalesImportStagedRow} {values : SalesValues}
    (built : newFact sourceSystem row = some values) :
    values.key = (sourceSystem, row.sourceRecordId) := by
  unfold newFact at built
  split at built
  · injection built with same
    subst same
    rfl
  · simp at built

theorem LinksTo.mono {added more : List SalesTransaction} (larger : added ⊆ more)
    {row l : SalesImportStagedRow} (links : LinksTo sourceSystem old added row l) :
    LinksTo sourceSystem old more row l := by
  cases links with
  | reused older key agrees => exact .reused older key agrees
  | published missing new values => exact .published missing (larger new) values

/-- Every added fact belongs to a row whose key was absent. -/
theorem added_row {past : List SalesImportStagedRow} {added : List SalesTransaction}
    (values : added.map (fun fact => some fact.values) =
      (past.filter (absent sourceSystem old)).map (newFact sourceSystem))
    {fact : SalesTransaction} (member : fact ∈ added) :
    ∃ row ∈ past, absent sourceSystem old row = true ∧ newFact sourceSystem row = some fact.values := by
  have listed : some fact.values ∈ (past.filter (absent sourceSystem old)).map (newFact sourceSystem) := by
    rw [← values]
    exact List.mem_map_of_mem member
  obtain ⟨row, inside, built⟩ := List.mem_map.mp listed
  obtain ⟨known, missing⟩ := List.mem_filter.mp inside
  exact ⟨row, known, missing, built⟩

theorem added_key {past : List SalesImportStagedRow} {added : List SalesTransaction}
    (values : added.map (fun fact => some fact.values) =
      (past.filter (absent sourceSystem old)).map (newFact sourceSystem))
    {id : String} (apart : id ∉ past.map SalesImportStagedRow.sourceRecordId) :
    (sourceSystem, id) ∉ added.map SalesTransaction.key := by
  intro known
  obtain ⟨fact, member, same⟩ := List.mem_map.mp known
  obtain ⟨row, listed, _, built⟩ := added_row values member
  have key := newFact_key built
  rw [SalesTransaction.key_values, same, Prod.mk.injEq] at key
  exact apart (key.2 ▸ List.mem_map_of_mem listed)

theorem absent_key {row : SalesImportStagedRow} (missing : absent sourceSystem old row = true) :
    (sourceSystem, row.sourceRecordId) ∉ old.map SalesTransaction.key :=
  findBy_none (Option.isNone_iff_eq_none.mp missing)

/-- Building every missing fact succeeds when every row is complete. -/
theorem mapM_newFact (rows : List SalesImportStagedRow)
    (complete : ∀ row ∈ rows, (newFact sourceSystem row).isSome) :
    ∃ values, rows.mapM (newFact sourceSystem) = some values ∧
      values.map some = rows.map (newFact sourceSystem) := by
  induction rows with
  | nil => exact ⟨[], by simp, rfl⟩
  | cons row rest ih =>
    obtain ⟨first, built⟩ := Option.isSome_iff_exists.mp (complete row List.mem_cons_self)
    obtain ⟨others, all, same⟩ := ih (fun other member => complete other (List.mem_cons_of_mem row member))
    refine ⟨first :: others, ?_, ?_⟩
    · rw [List.mapM_cons, built, all]
      rfl
    · rw [List.map_cons, List.map_cons, built, same]

theorem map_key_of_values {values : List SalesValues} {rows : List SalesImportStagedRow}
    (same : values.map some = rows.map (newFact sourceSystem)) :
    values.map SalesValues.key = rows.map (fun row => (sourceSystem, row.sourceRecordId)) := by
  induction values generalizing rows with
  | nil =>
    cases rows with
    | nil => rfl
    | cons row rest => simp at same
  | cons first others ih =>
    cases rows with
    | nil => simp at same
    | cons row rest =>
      rw [List.map_cons, List.map_cons, List.cons.injEq] at same
      rw [List.map_cons, List.map_cons, ih same.2, newFact_key same.1.symm]

/-! ## One chunk -/

section Chunk
variable {createdById : Nat} {createdAt : Instant} {past rows : List SalesImportStagedRow}
  {added : List SalesTransaction} {state : LinkState}

/-- What the transaction sees of the facts: the older ones and those of its own earlier chunks. -/
structure Sees (sourceSystem : String) (old : List SalesTransaction) (past : List SalesImportStagedRow)
    (added : List SalesTransaction) (state : LinkState) : Prop where
  visible : state.visible = old ++ added
  unique : (state.visible.map SalesTransaction.key).Nodup
  values : added.map (fun fact => some fact.values) =
    (past.filter (absent sourceSystem old)).map (newFact sourceSystem)

theorem Linked.sees (linked : Linked sourceSystem old createdById createdAt past added state) :
    Sees sourceSystem old past added state where
  visible := linked.visible
  unique := by
    rw [linked.visible, ← linked.table]
    exact state.table.keys_nodup
  values := linked.values

/-- The facts a chunk sees for its own rows are the older ones. -/
theorem get_visible (sees : Sees sourceSystem old past added state)
    {row : SalesImportStagedRow} (member : row ∈ rows)
    (apart : row.sourceRecordId ∉ past.map SalesImportStagedRow.sourceRecordId) :
    (existingFacts state.visible sourceSystem rows).get row.sourceRecordId =
      findBy SalesTransaction.key (sourceSystem, row.sourceRecordId) old := by
  have missing : findBy SalesTransaction.key (sourceSystem, row.sourceRecordId) added = none := by
    cases found : findBy SalesTransaction.key (sourceSystem, row.sourceRecordId) added with
    | none => rfl
    | some fact =>
      obtain ⟨listed, same⟩ := findBy_some found
      exact absurd (same ▸ List.mem_map_of_mem listed) (added_key sees.values apart)
  rw [get_existingFacts sees.unique member, sees.visible, findBy, List.find?_append, ← findBy,
    ← findBy, missing, Option.or_none]

/-- A chunk of ready rows meets no differing fact and goes on to insert the absent ones. -/
theorem linkOrInsertChunk_ready (sees : Sees sourceSystem old past added state)
    (distinct : ((past ++ rows).map SalesImportStagedRow.sourceRecordId).Nodup)
    (ready : ∀ row ∈ rows, Ready sourceSystem old row) (clean : state.collector.total = 0) :
    (∀ row ∈ rows, conflicts (existingFacts state.visible sourceSystem rows) row = false) ∧
      ∃ values, (rows.filter (fun row =>
          ((existingFacts state.visible sourceSystem rows).get row.sourceRecordId).isNone)).mapM
            (newFact sourceSystem) = some values ∧
        values.map some = (rows.filter (absent sourceSystem old)).map (newFact sourceSystem) ∧
        (values.map SalesValues.key).Nodup ∧
        (∀ value ∈ values, value.key ∉ state.visible.map SalesTransaction.key) ∧
        linkOrInsertChunk sourceSystem createdById createdAt rows state =
          match state.table.insertAll createdById createdAt values with
          | .error e => .error (.raised e)
          | .ok table => .ok (linkedState state (existingFacts state.visible sourceSystem rows)
              state.collector rows table) := by
  rw [List.map_append] at distinct
  have ids := List.nodup_append.mp distinct
  have apart : ∀ row ∈ rows, row.sourceRecordId ∉ past.map SalesImportStagedRow.sourceRecordId :=
    fun row member known => ids.2.2 _ known _ (List.mem_map_of_mem member) rfl
  have seen := fun row (member : row ∈ rows) => get_visible sees member (apart row member)
  have agree : ∀ row ∈ rows,
      conflicts (existingFacts state.visible sourceSystem rows) row = false := by
    intro row member
    rw [conflicts, seen row member]
    cases found : findBy SalesTransaction.key (sourceSystem, row.sourceRecordId) old with
    | none => rfl
    | some fact =>
      obtain ⟨listed, same⟩ := findBy_some found
      simp [(ready row member).agrees fact listed same]
  have noConflict : rows.filter (conflicts (existingFacts state.visible sourceSystem rows)) = [] := by
    rw [List.filter_eq_nil_iff]
    intro row member
    rw [agree row member]
    exact Bool.false_ne_true
  have missing : rows.filter (fun row =>
      ((existingFacts state.visible sourceSystem rows).get row.sourceRecordId).isNone) =
        rows.filter (absent sourceSystem old) := by
    apply List.filter_congr
    intro row member
    rw [seen row member, absent]
  obtain ⟨values, built, same⟩ := mapM_newFact (rows.filter (absent sourceSystem old))
    (fun row member => (ready row (List.mem_filter.mp member).1).complete)
  have keys := map_key_of_values same
  refine ⟨agree, values, by rw [missing, built], same, ?_, ?_, ?_⟩
  · rw [keys]
    have filtered := ids.2.1.sublist
      ((List.filter_sublist (p := absent sourceSystem old)).map SalesImportStagedRow.sourceRecordId)
    have paired := filtered.map (f := fun id : String => (sourceSystem, id))
      (fun first second equal => congrArg Prod.snd equal)
    simpa only [List.map_map, Function.comp_def] using paired
  · intro value member
    have listed : value.key ∈ values.map SalesValues.key := List.mem_map_of_mem member
    rw [keys] at listed
    obtain ⟨row, inside, equal⟩ := List.mem_map.mp listed
    obtain ⟨known, gone⟩ := List.mem_filter.mp inside
    rw [← equal, sees.visible, List.map_append, List.mem_append, not_or]
    exact ⟨absent_key gone, added_key sees.values (apart row known)⟩
  · unfold linkOrInsertChunk
    cases inserted : state.table.insertAll createdById createdAt values <;>
      simp only [noConflict, List.map_nil, IssueCollector.addAll_nil, clean, ne_eq, not_true_eq_false,
        if_false, missing, built, inserted]

/-- The counted reused rows of a chunk are those with an older fact. -/
theorem countP_seen (sees : Sees sourceSystem old past added state)
    (distinct : ((past ++ rows).map SalesImportStagedRow.sourceRecordId).Nodup) :
    rows.countP (fun row =>
        ((existingFacts state.visible sourceSystem rows).get row.sourceRecordId).isSome) =
      rows.countP (fun row => !absent sourceSystem old row) := by
  rw [List.map_append] at distinct
  have ids := List.nodup_append.mp distinct
  apply List.countP_congr
  intro row member
  rw [get_visible sees member fun known => ids.2.2 _ known _ (List.mem_map_of_mem member) rfl, absent]
  cases findBy SalesTransaction.key (sourceSystem, row.sourceRecordId) old <;> simp

/-- The link of one row of the chunk. -/
theorem linkRow_links {existing : Dict String SalesTransaction} {chunkAdded : List SalesTransaction}
    (values : chunkAdded.map (fun fact => some fact.values) =
      (rows.filter (absent sourceSystem old)).map (newFact sourceSystem))
    (distinct : (rows.map SalesImportStagedRow.sourceRecordId).Nodup)
    {row : SalesImportStagedRow} (member : row ∈ rows) (ready : Ready sourceSystem old row)
    (seen : existing.get row.sourceRecordId =
      findBy SalesTransaction.key (sourceSystem, row.sourceRecordId) old) :
    LinksTo sourceSystem old chunkAdded row (linkRow existing chunkAdded row) := by
  unfold linkRow
  rw [seen]
  cases found : findBy SalesTransaction.key (sourceSystem, row.sourceRecordId) old with
  | some fact =>
    obtain ⟨listed, same⟩ := findBy_some found
    exact .reused listed same (ready.agrees fact listed same)
  | none =>
    have missing : absent sourceSystem old row = true := by rw [absent, found]; rfl
    obtain ⟨own, built⟩ := Option.isSome_iff_exists.mp ready.complete
    have listed : some own ∈ chunkAdded.map (fun fact => some fact.values) := by
      rw [values, ← built]
      exact List.mem_map_of_mem (List.mem_filter.mpr ⟨member, missing⟩)
    obtain ⟨fact, inside, same⟩ := List.mem_map.mp listed
    injection same with same
    have ownId : fact.sourceRecordId = row.sourceRecordId := by
      have key := newFact_key built
      rw [← same, SalesTransaction.key_values] at key
      exact congrArg Prod.snd key
    cases located : findBy SalesTransaction.sourceRecordId row.sourceRecordId chunkAdded with
    | none => exact absurd (ownId ▸ List.mem_map_of_mem inside) (findBy_none located)
    | some other =>
      obtain ⟨otherInside, otherId⟩ := findBy_some located
      obtain ⟨origin, originMember, _, originBuilt⟩ := added_row values otherInside
      have originKey := newFact_key originBuilt
      rw [SalesTransaction.key_values] at originKey
      have originId : origin.sourceRecordId = row.sourceRecordId :=
        (congrArg Prod.snd originKey).symm.trans otherId
      have equal := List.inj_on_of_nodup_map distinct originMember member originId
      exact .published missing otherInside (equal ▸ originBuilt)

/-- What a chunk has inserted: a fact for each absent row. -/
theorem inserted_chunk {values : List SalesValues} {table : FactTable}
    (same : values.map some = (rows.filter (absent sourceSystem old)).map (newFact sourceSystem))
    (inserted : state.table.insertAll createdById createdAt values = .ok table) :
    ∃ chunkAdded, table.facts = state.table.facts ++ chunkAdded ∧
      table.facts.drop state.table.facts.length = chunkAdded ∧
      chunkAdded.map SalesTransaction.values = values ∧
      chunkAdded.map (fun fact => some fact.values) =
        (rows.filter (absent sourceSystem old)).map (newFact sourceSystem) ∧
      ∀ fact ∈ chunkAdded, fact.createdById = createdById ∧ fact.createdAt = createdAt := by
  obtain ⟨chunkAdded, grown, stored, stamped, _⟩ := FactTable.insertAll_ok inserted
  refine ⟨chunkAdded, grown, ?_, stored, ?_, stamped⟩
  · rw [grown, List.drop_left]
  · rw [← same, ← stored, List.map_map]
    rfl

theorem linkOrInsertChunk_linked
    (linked : Linked sourceSystem old createdById createdAt past added state)
    (distinct : ((past ++ rows).map SalesImportStagedRow.sourceRecordId).Nodup)
    (ready : ∀ row ∈ rows, Ready sourceSystem old row) (clean : state.collector.total = 0) :
    ∃ chunkAdded next, linkOrInsertChunk sourceSystem createdById createdAt rows state = .ok next ∧
      Linked sourceSystem old createdById createdAt (past ++ rows) (added ++ chunkAdded) next ∧
      next.collector = state.collector := by
  obtain ⟨_, values, _, same, distinctKeys, freshKeys, run⟩ :=
    @linkOrInsertChunk_ready _ _ createdById createdAt _ _ _ _ linked.sees distinct ready clean
  rw [linked.visible, ← linked.table] at freshKeys
  obtain ⟨table, inserted⟩ := FactTable.insertAll_fresh createdById createdAt distinctKeys freshKeys
  obtain ⟨chunkAdded, grown, dropped, _, chunkValues, stamped⟩ := inserted_chunk same inserted
  have counted := countP_seen linked.sees distinct
  rw [List.map_append] at distinct
  have ids := List.nodup_append.mp distinct
  refine ⟨chunkAdded, linkedState state (existingFacts state.visible sourceSystem rows)
    state.collector rows table, ?_, ?_, rfl⟩
  · rw [run, inserted]
  · unfold linkedState
    rw [dropped]
    refine ⟨?_, ?_, ?_, ?_, ?_, ?_, ?_⟩
    · dsimp only
      rw [grown, linked.table, List.append_assoc]
    · dsimp only
      rw [linked.visible, List.append_assoc]
    · rw [List.map_append, linked.values, chunkValues, List.filter_append, List.map_append]
    · intro fact member
      rcases List.mem_append.mp member with earlier | new
      · exact linked.stamped fact earlier
      · exact stamped fact new
    · refine List.rel_append
        (linked.rows.imp (fun _ _ links => links.mono (List.subset_append_left _ _))) ?_
      rw [List.forall₂_map_right_iff, List.forall₂_same]
      intro row member
      have seen := get_visible linked.sees member
        fun known => ids.2.2 _ known _ (List.mem_map_of_mem member) rfl
      exact (linkRow_links chunkValues ids.2.1 member (ready row member) seen).mono
        (List.subset_append_right _ _)
    · dsimp only
      rw [linked.inserted, List.length_append]
    · dsimp only
      rw [linked.reused, List.countP_append, counted]

end Chunk

/-! ## The whole loop -/

theorem linkBatches_linked {createdById : Nat} {createdAt : Instant}
    (batches : List (List SalesImportStagedRow)) {past : List SalesImportStagedRow}
    {added : List SalesTransaction} {state : LinkState}
    (linked : Linked sourceSystem old createdById createdAt past added state)
    (distinct : ((past ++ batches.flatten).map SalesImportStagedRow.sourceRecordId).Nodup)
    (ready : ∀ row ∈ batches.flatten, Ready sourceSystem old row) (clean : state.collector.total = 0) :
    ∃ more final, linkBatches sourceSystem createdById createdAt batches state = .ok final ∧
      Linked sourceSystem old createdById createdAt (past ++ batches.flatten) (added ++ more) final := by
  induction batches generalizing past added state with
  | nil => exact ⟨[], state, rfl, by simpa using linked⟩
  | cons rows rest ih =>
    rw [List.flatten_cons, ← List.append_assoc] at distinct
    have front : ((past ++ rows).map SalesImportStagedRow.sourceRecordId).Nodup := by
      rw [List.map_append] at distinct
      exact (List.nodup_append.mp distinct).1
    obtain ⟨chunkAdded, next, done, nextLinked, same⟩ := linkOrInsertChunk_linked linked front
      (fun row member => ready row (List.mem_append_left _ member)) clean
    obtain ⟨more, final, finished, result⟩ := ih nextLinked distinct
      (fun row member => ready row (List.mem_append_right _ member)) (by rw [same]; exact clean)
    refine ⟨chunkAdded ++ more, final, ?_, ?_⟩
    · rw [linkBatches, done]
      exact finished
    · rwa [List.flatten_cons, ← List.append_assoc, ← List.append_assoc]

/-! ## Saving the links -/

theorem LinksTo.rowNumber {added : List SalesTransaction} {row l : SalesImportStagedRow}
    (links : LinksTo sourceSystem old added row l) : l.rowNumber = row.rowNumber := by
  cases links <;> rfl

theorem LinksTo.copyLink {added : List SalesTransaction} {row l : SalesImportStagedRow}
    (links : LinksTo sourceSystem old added row l) : copyLink l row = l := by
  cases links <;> rfl

private theorem forall₂_partner {α β : Type} {r : α → β → Prop} {first : List α} {second : List β}
    (related : List.Forall₂ r first second) {a : α} (member : a ∈ first) : ∃ b ∈ second, r a b := by
  induction related with
  | nil => simp at member
  | @cons head partner _ _ here _ ih =>
    rcases List.mem_cons.mp member with rfl | later
    · exact ⟨partner, List.mem_cons_self, here⟩
    · obtain ⟨b, listed, holds⟩ := ih later
      exact ⟨b, List.mem_cons_of_mem partner listed, holds⟩

/-- Every row ends up as its linked form, wherever it stands. -/
theorem saveRows_linked {added : List SalesTransaction} {sorted linkedRows rows : List SalesImportStagedRow}
    (perm : sorted.Perm rows) (distinct : (rows.map SalesImportStagedRow.rowNumber).Nodup)
    (links : List.Forall₂ (LinksTo sourceSystem old added) sorted linkedRows) :
    List.Forall₂ (LinksTo sourceSystem old added) rows
      (saveRows linkedRows Publication.copyLink rows) := by
  have numbers : linkedRows.map SalesImportStagedRow.rowNumber =
      sorted.map SalesImportStagedRow.rowNumber := by
    clear perm
    induction links with
    | nil => rfl
    | cons first _ ih => rw [List.map_cons, List.map_cons, first.rowNumber, ih]
  have distinctSorted := (perm.map SalesImportStagedRow.rowNumber).nodup_iff.mpr distinct
  have distinctLinked : (linkedRows.map SalesImportStagedRow.rowNumber).Nodup := numbers ▸ distinctSorted
  unfold saveRows
  rw [List.forall₂_map_right_iff, List.forall₂_same]
  intro row member
  obtain ⟨l, listed, own⟩ := forall₂_partner links (perm.mem_iff.mpr member)
  have found := findBy_of_mem distinctLinked listed
  rw [own.rowNumber] at found
  rw [found]
  dsimp only
  rwa [own.copyLink]

end PharmaIntel.Publication
