import Mathlib
import PharmaIntel.Validation

/-! The set-based check reports what the row-by-row rule reports. Prefetching answers
each lookup of a row like a query of its own, so a chunk is a fold of the rule over
its rows, and batching drops out. -/

namespace PharmaIntel.Validation
open PharmaIntel.Base PharmaIntel.Models PharmaIntel.Collector

/-! ## Lookups -/

private theorem getLast?_toList {α : Type} (o : Option α) : o.toList.getLast? = o := by
  cases o <;> rfl

theorem get_masterMap {α : Type} {code : α → String} {items : List α} {codes : List String}
    (unique : (items.map code).Nodup) {asked : String} (member : asked ∈ codes) :
    (masterMap code items codes).get asked = findBy code asked items := by
  have single : (items.filter (fun item => decide (code item ∈ codes))).filter
      (fun item => decide (code item = asked)) = (findBy code asked items).toList := by
    rw [List.filter_filter, ← filter_key_eq unique asked]
    apply List.filter_congr
    intro item _
    by_cases same : code item = asked
    · simp [same, member]
    · simp [same]
  rw [masterMap, Dict.get_ofPairs, List.filter_map, List.getLast?_map, Function.comp_def, single,
    getLast?_toList, Option.map_map]
  exact Option.map_id'

theorem masterMap_value {α : Type} {code : α → String} {items : List α} {codes : List String}
    {asked : String} {item : α} (found : (masterMap code items codes).get asked = some item) :
    item ∈ (masterMap code items codes).values := Dict.mem_values_of_get found

theorem get_calendars (calendar dates : List Date) {date : Date} (member : date ∈ dates) :
    (Dict.ofPairs ((calendar.filter (fun day => decide (day ∈ dates))).map
      (fun day => (day, day)))).get date = if date ∈ calendar then some date else none := by
  have single : ((calendar.filter (fun day => decide (day ∈ dates))).filter
      (fun day => decide (day = date))) = List.replicate (calendar.count date) date := by
    rw [List.filter_filter, ← List.filter_eq]
    apply List.filter_congr
    intro day _
    by_cases same : day = date
    · simp [same, member]
    · simp [same]
  rw [Dict.get_ofPairs, List.filter_map, List.getLast?_map, Function.comp_def, single]
  by_cases known : date ∈ calendar
  · have positive := List.count_pos_iff.mpr known
    obtain ⟨rest, count⟩ := Nat.exists_eq_succ_of_ne_zero positive.ne'
    rw [count, if_pos known, List.getLast?_replicate]
    simp
  · rw [List.count_eq_zero_of_not_mem known, if_neg known]
    rfl

section Chunk
variable (master : MasterData) (facts : List SalesTransaction) (sourceSystem : String)
  (rows : List SalesImportStagedRow) (minimumDate maximumDate : Date)

theorem lookUp_prefetch {row : SalesImportStagedRow} (member : row ∈ rows) :
    lookUp (prefetch master facts sourceSystem rows minimumDate maximumDate) row =
      references master row := by
  have calendar := get_calendars master.calendar (rows.map SalesImportStagedRow.transactionDate)
    (List.mem_map_of_mem member)
  have product := get_masterMap master.products_unique
    (List.mem_map_of_mem (f := SalesImportStagedRow.productCode) member)
  have territory := get_masterMap master.territories_unique
    (List.mem_map_of_mem (f := SalesImportStagedRow.territoryCode) member)
  have hospital : row.hospitalCode ≠ "" → (masterMap CodedMasterData.code master.hospitals
      ((rows.map SalesImportStagedRow.hospitalCode).filter (fun code => code ≠ ""))).get
        row.hospitalCode = findBy CodedMasterData.code row.hospitalCode master.hospitals := by
    intro named
    exact get_masterMap master.hospitals_unique
      (List.mem_filter.mpr ⟨List.mem_map_of_mem member, by simpa using named⟩)
  have representative : row.salesRepresentativeCode ≠ "" →
      (masterMap CodedMasterData.code master.representatives
        ((rows.map SalesImportStagedRow.salesRepresentativeCode).filter (fun code => code ≠ ""))).get
          row.salesRepresentativeCode =
        findBy CodedMasterData.code row.salesRepresentativeCode master.representatives := by
    intro named
    exact get_masterMap master.representatives_unique
      (List.mem_filter.mpr ⟨List.mem_map_of_mem member, by simpa using named⟩)
  simp only [lookUp, references, prefetch, calendar, product, territory, References.mk.injEq, true_and]
  refine ⟨?_, ?_⟩
  · by_cases blank : row.hospitalCode = ""
    · simp [blank]
    · rw [if_pos blank, if_neg blank]
      exact hospital blank
  · by_cases blank : row.salesRepresentativeCode = ""
    · simp [blank]
    · rw [if_pos blank, if_neg blank]
      exact representative blank

/-- Every date of the chunk lies in its window. -/
structure Window : Prop where
  minimum : ∀ row ∈ rows, minimumDate ≤ row.transactionDate
  maximum : ∀ row ∈ rows, row.transactionDate ≤ maximumDate

end Chunk

/-! ## Assignment periods -/

/-- Periods outside the window cannot cover a date inside it. -/
theorem isEffective_prefetched {assignments : List TerritoryAssignment}
    {identityIds territoryIds : List Nat} {minimumDate maximumDate transactionDate : Date}
    {identityId territoryId : Nat} (identity : identityId ∈ identityIds)
    (territory : territoryId ∈ territoryIds) (after : minimumDate ≤ transactionDate)
    (before : transactionDate ≤ maximumDate) :
    isEffective (((effectiveAssignmentIds assignments identityIds territoryIds minimumDate
        maximumDate).get (identityId, territoryId)).getD []) transactionDate =
      isEffectiveOn (assignmentsOf assignments identityId territoryId) transactionDate := by
  have asked : ¬(identityIds = [] ∨ territoryIds = []) := by
    rintro (none | none)
    · simp [none] at identity
    · simp [none] at territory
  rw [effectiveAssignmentIds, if_neg asked, Dict.get_group, isEffective, isEffectiveOn, assignmentsOf]
  rw [Bool.eq_iff_iff, List.any_eq_true, List.any_eq_true]
  constructor
  · rintro ⟨period, member, covers⟩
    obtain ⟨pair, inside, rfl⟩ := List.mem_map.mp member
    obtain ⟨listed, same⟩ := List.mem_filter.mp inside
    obtain ⟨a, queried, rfl⟩ := List.mem_map.mp listed
    have keys : a.identityId = identityId ∧ a.territoryId = territoryId := by simpa using same
    exact ⟨a, List.mem_filter.mpr ⟨(List.mem_filter.mp queried).1, by simp [keys]⟩, covers⟩
  · rintro ⟨a, member, covers⟩
    obtain ⟨listed, same⟩ := List.mem_filter.mp member
    have keys : a.identityId = identityId ∧ a.territoryId = territoryId := by simpa using same
    have period : a.effectiveFrom ≤ transactionDate ∧
        a.effectiveTo.all (fun last => decide (transactionDate ≤ last)) = true := by simpa using covers
    have reaches : a.effectiveTo.all (fun last => decide (minimumDate ≤ last)) = true := by
      cases last : a.effectiveTo with
      | none => rfl
      | some day =>
        rw [last] at period
        have late : transactionDate ≤ day := by simpa using period.2
        simpa using after.trans late
    have touches : a.effectiveFrom ≤ maximumDate := period.1.trans before
    refine ⟨(a.effectiveFrom, a.effectiveTo), ?_, covers⟩
    refine List.mem_map.mpr ⟨((a.identityId, a.territoryId), (a.effectiveFrom, a.effectiveTo)), ?_, rfl⟩
    refine List.mem_filter.mpr ⟨List.mem_map.mpr ⟨a, ?_, rfl⟩, by simp [keys]⟩
    exact List.mem_filter.mpr ⟨listed, by simp [keys, identity, territory, touches, reaches]⟩

/-- The plain test of an optional identity against an optional territory. -/
def plainMismatch (assignments : List TerritoryAssignment) (identity : Option CodedMasterData)
    (territory : Option Territory) (onDate : Date) : Bool :=
  match identity, territory with
  | some identity, some territory =>
      !isEffectiveOn (assignmentsOf assignments identity.pk territory.pk) onDate
  | _, _ => false

theorem reports_append (first second : List (String × String)) (field : String) :
    reports (first ++ second) field = (reports first field || reports second field) :=
  List.any_append

theorem reports_assignmentErrors (assignments : List TerritoryAssignment) (field message other : String)
    (identity : Option CodedMasterData) (territory : Territory) (onDate : Date) :
    reports (assignmentErrors assignments field message identity territory onDate) other =
      (decide (field = other) && plainMismatch assignments identity (some territory) onDate) := by
  cases identity with
  | none => simp [assignmentErrors, plainMismatch, reports]
  | some identity =>
    simp only [assignmentErrors, plainMismatch]
    by_cases covered : isEffectiveOn (assignmentsOf assignments identity.pk territory.pk) onDate = true
    · rw [if_pos covered, covered]
      simp [reports]
    · rw [if_neg covered, Bool.eq_false_iff.mpr covered]
      simp [reports]

theorem reports_level (territory : Territory) (message field : String) (apart : "territory" ≠ field) :
    reports (if territory.level ≠ .territory then [("territory", message)] else []) field = false := by
  split_ifs
  · simp [reports, apart]
  · rfl

theorem reports_hospital (master : MasterData) (onDate : Date) (territory : Option Territory)
    (hospital representative : Option CodedMasterData) :
    reports (validateSalesDimensions master onDate territory hospital representative) "hospital" =
      plainMismatch master.hospitalAssignments hospital territory onDate := by
  cases territory with
  | none => cases hospital <;> rfl
  | some territory =>
    rw [validateSalesDimensions, reports_append, reports_append, reports_assignmentErrors,
      reports_assignmentErrors, reports_level _ _ _ (by decide)]
    simp

theorem reports_representative (master : MasterData) (onDate : Date) (territory : Option Territory)
    (hospital representative : Option CodedMasterData) :
    reports (validateSalesDimensions master onDate territory hospital representative)
        "sales_representative" =
      plainMismatch master.representativeAssignments representative territory onDate := by
  cases territory with
  | none => cases representative <;> rfl
  | some territory =>
    rw [validateSalesDimensions, reports_append, reports_append, reports_assignmentErrors,
      reports_assignmentErrors, reports_level _ _ _ (by decide)]
    simp

section Chunk
variable {master : MasterData} {facts : List SalesTransaction} {sourceSystem : String}
  {rows : List SalesImportStagedRow} {minimumDate maximumDate : Date}

/-- A reference found for a row of the chunk is among the prefetched records. -/
theorem prefetched_territory {row : SalesImportStagedRow} (member : row ∈ rows) {territory : Territory}
    (found : (references master row).territory = some territory) :
    territory.pk ∈ (masterMap Territory.code master.territories
      (rows.map SalesImportStagedRow.territoryCode)).values.map Territory.pk := by
  have located := get_masterMap master.territories_unique
    (List.mem_map_of_mem (f := SalesImportStagedRow.territoryCode) member)
  exact List.mem_map_of_mem (masterMap_value (located.trans found))

/-- So is what an optional code of the row names. -/
theorem prefetched_identity {items : List CodedMasterData} (unique : (items.map CodedMasterData.code).Nodup)
    {row : SalesImportStagedRow} (member : row ∈ rows) {codeOf : SalesImportStagedRow → String}
    {identity : CodedMasterData}
    (found : (if codeOf row = "" then none else findBy CodedMasterData.code (codeOf row) items) = some identity) :
    identity.pk ∈ (masterMap CodedMasterData.code items
      ((rows.map codeOf).filter (fun code => code ≠ ""))).values.map CodedMasterData.pk := by
  split_ifs at found with blank
  have asked : codeOf row ∈ (rows.map codeOf).filter (fun code => code ≠ "") :=
    List.mem_filter.mpr ⟨List.mem_map_of_mem member, by simpa using blank⟩
  have located := get_masterMap unique asked
  exact List.mem_map_of_mem (masterMap_value (located.trans found))

/-- An identity and a territory are prefetched, so the prefetched periods decide
like a query for the row's own date. -/
theorem assignmentMismatch_prefetched {assignments : List TerritoryAssignment}
    {identityIds territoryIds : List Nat} {identity : Option CodedMasterData}
    {territory : Option Territory} {transactionDate : Date}
    (identities : ∀ found, identity = some found → found.pk ∈ identityIds)
    (territories : ∀ found, territory = some found → found.pk ∈ territoryIds)
    (after : minimumDate ≤ transactionDate) (before : transactionDate ≤ maximumDate) :
    assignmentMismatch (effectiveAssignmentIds assignments identityIds territoryIds minimumDate
        maximumDate) identity territory transactionDate =
      plainMismatch assignments identity territory transactionDate := by
  cases identity with
  | none => rfl
  | some identity =>
    cases territory with
    | none => rfl
    | some territory =>
      simp only [assignmentMismatch, plainMismatch]
      rw [isEffective_prefetched (identities identity rfl) (territories territory rfl) after before]

theorem masterDataIssues_prefetch (window : Window rows minimumDate maximumDate)
    {row : SalesImportStagedRow} (member : row ∈ rows) :
    masterDataIssues (prefetch master facts sourceSystem rows minimumDate maximumDate) row =
      rowMasterIssues master row := by
  have after := window.minimum row member
  have before := window.maximum row member
  have territories : ∀ found, (references master row).territory = some found → _ :=
    fun found known => prefetched_territory member known
  rw [masterDataIssues, rowMasterIssues, lookUp_prefetch master facts sourceSystem rows _ _ member]
  congr 2
  · rw [dimensionErrors, reports_hospital]
    exact assignmentMismatch_prefetched (fun found known => prefetched_identity master.hospitals_unique member known)
      territories after before
  · rw [dimensionErrors, reports_representative]
    exact assignmentMismatch_prefetched (fun found known => prefetched_identity master.representatives_unique member known)
      territories after before

/-! ## Existing facts -/

theorem get_existingFacts (unique : (facts.map SalesTransaction.key).Nodup)
    {row : SalesImportStagedRow} (member : row ∈ rows) :
    (existingFacts facts sourceSystem rows).get row.sourceRecordId =
      findBy SalesTransaction.key (sourceSystem, row.sourceRecordId) facts := by
  have single : (facts.filter (fun fact => fact.sourceSystem = sourceSystem &&
      decide (fact.sourceRecordId ∈ rows.map SalesImportStagedRow.sourceRecordId))).filter
        (fun fact => decide (fact.sourceRecordId = row.sourceRecordId)) =
      (findBy SalesTransaction.key (sourceSystem, row.sourceRecordId) facts).toList := by
    rw [List.filter_filter, ← filter_key_eq unique]
    apply List.filter_congr
    intro fact _
    by_cases same : fact.sourceRecordId = row.sourceRecordId
    · simp [same, SalesTransaction.key, List.mem_map_of_mem member]
    · simp [same, SalesTransaction.key]
  rw [existingFacts, Dict.get_ofPairs, List.filter_map, List.getLast?_map, Function.comp_def, single,
    getLast?_toList, Option.map_map]
  exact Option.map_id'

theorem conflicts_prefetch (unique : (facts.map SalesTransaction.key).Nodup)
    {row : SalesImportStagedRow} (member : row ∈ rows) :
    conflicts (prefetch master facts sourceSystem rows minimumDate maximumDate).existingFacts
      (resolve master row) = rowConflicts master facts sourceSystem row := by
  have same : (resolve master row).sourceRecordId = row.sourceRecordId := rfl
  simp only [conflicts, rowConflicts, prefetch]
  rw [same, get_existingFacts unique member]

end Chunk

/-! ## The issues of one row -/

def referenceCatalogue (row : SalesImportStagedRow) : List SalesImportIssue :=
  [masterIssue row "transaction_date" "CALENDAR_DATE_NOT_FOUND"
      "The transaction date is missing from the reporting calendar."] ++
    [masterIssue row "product_code" "PRODUCT_NOT_FOUND" "The product code does not exist."] ++
    [masterIssue row "territory_code" "TERRITORY_NOT_FOUND" "The territory code does not exist.",
      masterIssue row "territory_code" "TERRITORY_NOT_LEAF"
        "Sales rows must use a Territory-level territory."] ++
    [masterIssue row "hospital_code" "HOSPITAL_NOT_FOUND" "The hospital code does not exist."] ++
    [masterIssue row "sales_representative_code" "SALES_REPRESENTATIVE_NOT_FOUND"
      "The sales representative code does not exist."]

def masterCatalogue (row : SalesImportStagedRow) : List SalesImportIssue :=
  referenceCatalogue row ++
    ([masterIssue row "hospital_code" "HOSPITAL_TERRITORY_MISMATCH"
      "The hospital was not assigned to this territory on the transaction date."] ++
    [masterIssue row "sales_representative_code" "SALES_REPRESENTATIVE_TERRITORY_MISMATCH"
      "The sales representative was not assigned to this territory on the transaction date."])

/-- Every issue that validation can report for a row. -/
def catalogue (row : SalesImportStagedRow) : List SalesImportIssue :=
  masterCatalogue row ++ [conflictIssue row]

private theorem ite_sublist {α : Type} (a : α) (p : Prop) [Decidable p] :
    (if p then [a] else []).Sublist [a] := by
  split_ifs
  · exact List.Sublist.refl _
  · exact List.nil_sublist _

theorem territoryIssues_sublist (row : SalesImportStagedRow) (territory : Option Territory) :
    (territoryIssues row territory).Sublist
      [masterIssue row "territory_code" "TERRITORY_NOT_FOUND" "The territory code does not exist.",
        masterIssue row "territory_code" "TERRITORY_NOT_LEAF"
          "Sales rows must use a Territory-level territory."] := by
  cases territory with
  | none => exact (List.nil_sublist _).cons_cons _
  | some territory => exact (ite_sublist _ _).cons _

section Row
variable (master : MasterData) (facts : List SalesTransaction) (sourceSystem : String)
  (row : SalesImportStagedRow)

theorem referenceIssues_sublist (refs : References) :
    (referenceIssues row refs).Sublist (referenceCatalogue row) :=
  ((((ite_sublist _ _).append (ite_sublist _ _)).append (territoryIssues_sublist row _)).append
    (ite_sublist _ _)).append (ite_sublist _ _)

theorem rowMasterIssues_sublist : (rowMasterIssues master row).Sublist (masterCatalogue row) :=
  (referenceIssues_sublist row _).append ((ite_sublist _ _).append (ite_sublist _ _))

theorem rowIssues_sublist : (rowIssues master facts sourceSystem row).Sublist (catalogue row) := by
  unfold rowIssues catalogue
  split_ifs
  · exact (rowMasterIssues_sublist master row).trans (List.sublist_append_left _ _)
  · exact List.sublist_append_right _ _
  · exact List.nil_sublist _

theorem catalogue_identities : ((catalogue row).map identity).Nodup := by
  simp [catalogue, masterCatalogue, referenceCatalogue, masterIssue, conflictIssue, identity]

theorem catalogue_rowNumber : ∀ issue ∈ catalogue row, issue.rowNumber = some row.rowNumber := by
  simp [catalogue, masterCatalogue, referenceCatalogue, masterIssue, conflictIssue]

variable {row} in
theorem catalogue_fresh {c : IssueCollector} {issues : List SalesImportIssue}
    (listed : issues.Sublist (catalogue row))
    (apart : ∀ key ∈ c.pendingIdentities, key.1 ≠ some row.rowNumber) :
    IssueCollector.Fresh c issues := by
  refine ⟨(catalogue_identities row).sublist (listed.map identity), ?_⟩
  intro issue member known
  exact apart _ known (catalogue_rowNumber row issue (listed.subset member))

/-- The row passes every check on its own. -/
def sound : Bool := (rowIssues master facts sourceSystem row).isEmpty

/-- What the rule does with one row. -/
def checkRow (state : ChunkState) : ChunkState :=
  ⟨state.collector.addAll (rowIssues master facts sourceSystem row),
    state.invalidRows + (if sound master facts sourceSystem row then 0 else 1),
    state.changedRows ++ (if sound master facts sourceSystem row then [resolve master row] else [])⟩

variable {master facts sourceSystem row} in
theorem validateRow_eq {lookups : Lookups} {state : ChunkState}
    (issues : masterDataIssues lookups row = rowMasterIssues master row)
    (refs : lookUp lookups row = references master row)
    (conflict : conflicts lookups.existingFacts (resolve master row) =
      rowConflicts master facts sourceSystem row)
    (apart : ∀ key ∈ state.collector.pendingIdentities, key.1 ≠ some row.rowNumber) :
    validateRow lookups state row = checkRow master facts sourceSystem row state := by
  have same : resolvedRow row (lookUp lookups row) = resolve master row := by rw [refs, resolve]
  unfold validateRow checkRow sound rowIssues
  simp only [issues, same, conflict]
  by_cases clean : rowMasterIssues master row = []
  · rw [clean]
    simp only [IssueCollector.addAll_nil, lt_irrefl, if_false, ne_eq, not_true_eq_false]
    by_cases differs : rowConflicts master facts sourceSystem row = true
    · rw [if_pos differs, if_pos differs]
      simp [IssueCollector.addAll_cons]
    · rw [if_neg differs, if_neg differs]
      simp
  · have fresh := catalogue_fresh ((rowMasterIssues_sublist master row).trans
      (List.sublist_append_left _ _)) apart
    have positive := List.length_pos_of_ne_nil clean
    rw [if_pos (by rw [IssueCollector.addAll_total fresh]; omega), if_pos clean,
      List.isEmpty_eq_false_iff.mpr clean]
    simp

end Row

/-! ## A chunk -/

section Rows
variable (master : MasterData) (facts : List SalesTransaction) (sourceSystem : String)

theorem foldl_checkRow (rows : List SalesImportStagedRow) (state : ChunkState) :
    rows.foldl (fun state row => checkRow master facts sourceSystem row state) state =
      ⟨state.collector.addAll (rows.flatMap (rowIssues master facts sourceSystem)),
        state.invalidRows + rows.countP (fun row => !sound master facts sourceSystem row),
        state.changedRows ++ (rows.filter (sound master facts sourceSystem)).map (resolve master)⟩ := by
  induction rows generalizing state with
  | nil => simp
  | cons row rest ih =>
    rw [List.foldl_cons, ih, List.flatMap_cons, IssueCollector.addAll_append, List.countP_cons,
      List.filter_cons]
    by_cases passes : sound master facts sourceSystem row = true
    · simp [checkRow, passes]
    · simp [checkRow, passes]
      omega

/-- The rows are checked one by one as long as no earlier issue carries their number. -/
theorem foldl_validateRow {lookups : Lookups} (rows : List SalesImportStagedRow) (state : ChunkState)
    (issues : ∀ row ∈ rows, masterDataIssues lookups row = rowMasterIssues master row)
    (refs : ∀ row ∈ rows, lookUp lookups row = references master row)
    (conflict : ∀ row ∈ rows, conflicts lookups.existingFacts (resolve master row) =
      rowConflicts master facts sourceSystem row)
    (distinct : (rows.map SalesImportStagedRow.rowNumber).Nodup)
    (apart : ∀ row ∈ rows, ∀ key ∈ state.collector.pendingIdentities, key.1 ≠ some row.rowNumber) :
    rows.foldl (validateRow lookups) state =
      rows.foldl (fun state row => checkRow master facts sourceSystem row state) state := by
  induction rows generalizing state with
  | nil => rfl
  | cons row rest ih =>
    rw [List.map_cons, List.nodup_cons] at distinct
    have here := apart row List.mem_cons_self
    rw [List.foldl_cons, List.foldl_cons, validateRow_eq (issues row List.mem_cons_self)
      (refs row List.mem_cons_self) (conflict row List.mem_cons_self) here]
    apply ih
    · exact fun other member => issues other (List.mem_cons_of_mem row member)
    · exact fun other member => refs other (List.mem_cons_of_mem row member)
    · exact fun other member => conflict other (List.mem_cons_of_mem row member)
    · exact distinct.2
    · intro other member key known
      have listed := rowIssues_sublist master facts sourceSystem row
      rcases (IssueCollector.mem_addAll_pending (catalogue_fresh listed here) key).mp known with old | new
      · exact apart other (List.mem_cons_of_mem row member) key old
      · obtain ⟨issue, reported, rfl⟩ := List.mem_map.mp new
        rw [identity, catalogue_rowNumber row issue (listed.subset reported)]
        intro same
        injection same with equal
        exact distinct.1 (equal ▸ List.mem_map_of_mem member)

theorem resolveAndValidateChunk_eq (unique : (facts.map SalesTransaction.key).Nodup)
    {rows : List SalesImportStagedRow} (nonempty : rows ≠ [])
    (distinct : (rows.map SalesImportStagedRow.rowNumber).Nodup) (collector : IssueCollector)
    (drained : collector.pendingIdentities = []) :
    resolveAndValidateChunk master facts sourceSystem rows collector =
      .ok ⟨collector.addAll (rows.flatMap (rowIssues master facts sourceSystem)),
        rows.countP (fun row => !sound master facts sourceSystem row),
        (rows.filter (sound master facts sourceSystem)).map (resolve master)⟩ := by
  have dates : rows.map SalesImportStagedRow.transactionDate ≠ [] := by simpa using nonempty
  obtain ⟨minimumDate, first⟩ := Option.isSome_iff_exists.mp (List.isSome_min?_of_ne_nil dates)
  obtain ⟨maximumDate, last⟩ := Option.isSome_iff_exists.mp (List.isSome_max?_of_ne_nil dates)
  have window : Window rows minimumDate maximumDate := by
    refine ⟨?_, ?_⟩
    · intro row member
      exact (List.min?_eq_some_iff.mp first).2 _ (List.mem_map_of_mem member)
    · intro row member
      exact (List.max?_eq_some_iff.mp last).2 _ (List.mem_map_of_mem member)
  unfold resolveAndValidateChunk
  simp only [first, last]
  rw [foldl_validateRow master facts sourceSystem rows { collector }
    (fun row member => masterDataIssues_prefetch window member)
    (fun row member => lookUp_prefetch master facts sourceSystem rows _ _ member)
    (fun row member => conflicts_prefetch unique member) distinct (by simp [drained]),
    foldl_checkRow]
  simp

/-! ## Any partition into chunks -/

/-- The validation loop after the rows `past`, whatever chunks they came in. -/
structure Validated (maximum : Nat) (past : List SalesImportStagedRow) (state : ValidationState) :
    Prop where
  tracks : IssueCollector.Tracks state.collector (past.flatMap (rowIssues master facts sourceSystem))
    state.stored
  maximum : state.collector.maximum = maximum
  released : state.collector.issues = []
  forgotten : state.collector.pendingIdentities = []
  invalidRows : state.invalidRows = past.countP (fun row => !sound master facts sourceSystem row)
  resolved : state.resolved = (past.filter (sound master facts sourceSystem)).map (resolve master)

theorem validated_initial (maximum : Nat) :
    Validated master facts sourceSystem maximum [] { collector := { maximum } } :=
  ⟨IssueCollector.tracks_initial maximum, rfl, rfl, rfl, rfl, rfl⟩

/-- The issues of rows with distinct numbers repeat no identity. -/
theorem rowIssues_fresh {c : IssueCollector} (rows : List SalesImportStagedRow)
    (distinct : (rows.map SalesImportStagedRow.rowNumber).Nodup) (forgotten : c.pendingIdentities = []) :
    IssueCollector.Fresh c (rows.flatMap (rowIssues master facts sourceSystem)) := by
  refine ⟨identities_flatMap distinct ?_, by simp [forgotten]⟩
  intro row _
  have listed := rowIssues_sublist master facts sourceSystem row
  exact ⟨(catalogue_identities row).sublist (listed.map identity),
    fun issue reported => catalogue_rowNumber row issue (listed.subset reported)⟩

variable {master facts sourceSystem} in
theorem validateBatches_validated (unique : (facts.map SalesTransaction.key).Nodup) (maximum : Nat)
    (batches : List (List SalesImportStagedRow)) (past : List SalesImportStagedRow)
    (state : ValidationState) (nonempty : ∀ batch ∈ batches, batch ≠ [])
    (distinct : (batches.flatten.map SalesImportStagedRow.rowNumber).Nodup)
    (validated : Validated master facts sourceSystem maximum past state) :
    ∃ final, validateBatches master facts sourceSystem state batches = .ok final ∧
      Validated master facts sourceSystem maximum (past ++ batches.flatten) final := by
  induction batches generalizing past state with
  | nil => exact ⟨state, rfl, by simpa using validated⟩
  | cons batch rest ih =>
    rw [List.flatten_cons, List.map_append] at distinct
    have apart := (List.nodup_append.mp distinct)
    rw [validateBatches, resolveAndValidateChunk_eq master facts sourceSystem unique
      (nonempty batch List.mem_cons_self) apart.1 state.collector validated.forgotten]
    have fresh := rowIssues_fresh master facts sourceSystem batch apart.1 validated.forgotten
    have next : Validated master facts sourceSystem maximum (past ++ batch)
        ⟨(state.collector.addAll (batch.flatMap (rowIssues master facts sourceSystem))).drain.2,
          state.invalidRows + batch.countP (fun row => !sound master facts sourceSystem row),
          state.stored ++
            (state.collector.addAll (batch.flatMap (rowIssues master facts sourceSystem))).drain.1,
          state.resolved ++ (batch.filter (sound master facts sourceSystem)).map (resolve master)⟩ := by
      refine ⟨?_, ?_, rfl, rfl, ?_, ?_⟩
      · rw [List.flatMap_append]
        exact (validated.tracks.addAll_fresh fresh).drain
      · rw [IssueCollector.drain, IssueCollector.drained_maximum, IssueCollector.addAll_maximum]
        exact validated.maximum
      · rw [List.countP_append, validated.invalidRows]
      · rw [List.filter_append, List.map_append, validated.resolved]
    obtain ⟨final, done, result⟩ := ih (past ++ batch) _
      (fun other member => nonempty other (List.mem_cons_of_mem batch member)) apart.2.1 next
    exact ⟨final, done, by rwa [List.flatten_cons, ← List.append_assoc]⟩

end Rows

/-! ## When each issue is reported -/

section Row
variable (master : MasterData) (facts : List SalesTransaction) (sourceSystem : String)
  (row : SalesImportStagedRow)

theorem reference_codes {issue : SalesImportIssue} {refs : References}
    (member : issue ∈ referenceIssues row refs) :
    issue.code ∈ ["CALENDAR_DATE_NOT_FOUND", "PRODUCT_NOT_FOUND", "TERRITORY_NOT_FOUND",
      "TERRITORY_NOT_LEAF", "HOSPITAL_NOT_FOUND", "SALES_REPRESENTATIVE_NOT_FOUND"] := by
  have listed := (referenceIssues_sublist row refs).subset member
  simp only [referenceCatalogue, List.mem_append, List.mem_cons, List.not_mem_nil, or_false] at listed
  rcases listed with (((rfl | rfl) | rfl | rfl) | rfl) | rfl <;> simp [masterIssue]

theorem mem_rowIssues {issue : SalesImportIssue} :
    issue ∈ rowIssues master facts sourceSystem row ↔
      issue ∈ rowMasterIssues master row ∨
        rowMasterIssues master row = [] ∧ rowConflicts master facts sourceSystem row = true ∧
          issue = conflictIssue row := by
  unfold rowIssues
  by_cases clean : rowMasterIssues master row = []
  · by_cases differs : rowConflicts master facts sourceSystem row = true
    · simp [clean, differs]
    · simp [clean, differs]
  · simp [clean]

/-- A code that no reference and no conflict is reported with comes from a mismatch. -/
theorem mismatch_iff {code : String} (own : code ∉ ["CALENDAR_DATE_NOT_FOUND", "PRODUCT_NOT_FOUND",
      "TERRITORY_NOT_FOUND", "TERRITORY_NOT_LEAF", "HOSPITAL_NOT_FOUND", "SALES_REPRESENTATIVE_NOT_FOUND"])
    (apart : code ≠ "SOURCE_RECORD_CONFLICT") :
    (∃ issue ∈ rowIssues master facts sourceSystem row, issue.code = code) ↔
      ∃ issue ∈ mismatchIssues row (reports (dimensionErrors master row) "hospital")
        (reports (dimensionErrors master row) "sales_representative"), issue.code = code := by
  constructor
  · rintro ⟨issue, member, rfl⟩
    rcases (mem_rowIssues master facts sourceSystem row).mp member with reported | ⟨_, _, rfl⟩
    · rcases List.mem_append.mp reported with missing | mismatch
      · exact absurd (reference_codes row missing) own
      · exact ⟨issue, mismatch, rfl⟩
    · exact absurd rfl apart
  · rintro ⟨issue, mismatch, code⟩
    exact ⟨issue, (mem_rowIssues master facts sourceSystem row).mpr (Or.inl (List.mem_append_right _ mismatch)), code⟩

theorem hospital_mismatch_iff :
    (∃ issue ∈ rowIssues master facts sourceSystem row, issue.code = "HOSPITAL_TERRITORY_MISMATCH") ↔
      reports (dimensionErrors master row) "hospital" = true := by
  rw [mismatch_iff master facts sourceSystem row (by decide) (by decide)]
  cases reports (dimensionErrors master row) "hospital" <;>
    cases reports (dimensionErrors master row) "sales_representative" <;> simp [mismatchIssues, masterIssue]

theorem representative_mismatch_iff :
    (∃ issue ∈ rowIssues master facts sourceSystem row,
        issue.code = "SALES_REPRESENTATIVE_TERRITORY_MISMATCH") ↔
      reports (dimensionErrors master row) "sales_representative" = true := by
  rw [mismatch_iff master facts sourceSystem row (by decide) (by decide)]
  cases reports (dimensionErrors master row) "hospital" <;>
    cases reports (dimensionErrors master row) "sales_representative" <;> simp [mismatchIssues, masterIssue]

theorem master_codes {issue : SalesImportIssue} (member : issue ∈ rowMasterIssues master row) :
    issue.code ≠ "SOURCE_RECORD_CONFLICT" := by
  have listed := (rowMasterIssues_sublist master row).subset member
  simp only [masterCatalogue, referenceCatalogue, List.mem_append, List.mem_cons, List.not_mem_nil,
    or_false] at listed
  rcases listed with ((((rfl | rfl) | rfl | rfl) | rfl) | rfl) | rfl | rfl <;> simp [masterIssue]

theorem rowConflicts_iff :
    rowConflicts master facts sourceSystem row = true ↔
      ∃ fact, findBy SalesTransaction.key (sourceSystem, row.sourceRecordId) facts = some fact ∧
        factMatches (resolve master row) fact = false := by
  unfold rowConflicts
  cases findBy SalesTransaction.key (sourceSystem, row.sourceRecordId) facts with
  | none => simp
  | some fact => simp

/-- A conflict is the only issue of its row. -/
theorem conflict_iff (unique : (facts.map SalesTransaction.key).Nodup) :
    (∃ issue ∈ rowIssues master facts sourceSystem row, issue.code = "SOURCE_RECORD_CONFLICT") ↔
      rowMasterIssues master row = [] ∧
        ∃ fact ∈ facts, fact.key = (sourceSystem, row.sourceRecordId) ∧
          factMatches (resolve master row) fact = false := by
  constructor
  · rintro ⟨issue, member, code⟩
    rcases (mem_rowIssues master facts sourceSystem row).mp member with reported | ⟨clean, differs, _⟩
    · exact absurd code (master_codes master row reported)
    · obtain ⟨fact, found, mismatch⟩ := (rowConflicts_iff master facts sourceSystem row).mp differs
      obtain ⟨listed, same⟩ := findBy_some found
      exact ⟨clean, fact, listed, same, mismatch⟩
  · rintro ⟨clean, fact, listed, same, mismatch⟩
    refine ⟨conflictIssue row, ?_, rfl⟩
    refine (mem_rowIssues master facts sourceSystem row).mpr (Or.inr ⟨clean, ?_, rfl⟩)
    refine (rowConflicts_iff master facts sourceSystem row).mpr ⟨fact, ?_, mismatch⟩
    rw [← same]
    exact findBy_of_mem unique listed

end Row

/-! ## Set-based validation -/

/-- For every partition into chunks the loop reports what each row gets on its own, in
the order of the rows, and resolves the sound rows. -/
theorem setBased_eq_rowByRow (master : MasterData) (table : FactTable) (sourceSystem : String)
    (rows : List SalesImportStagedRow) (batches : List (List SalesImportStagedRow))
    (partition : Partition rows batches)
    (distinct : (rows.map SalesImportStagedRow.rowNumber).Nodup) (maximum : Nat) :
    ∃ final, validateBatches master table.facts sourceSystem { collector := { maximum } } batches =
        .ok final ∧
      final.collector.total = (rows.flatMap (rowIssues master table.facts sourceSystem)).length ∧
      final.stored = (rows.flatMap (rowIssues master table.facts sourceSystem)).take
        (IssueCollector.detailLimit maximum) ∧
      final.invalidRows =
        rows.countP (fun row => !(rowIssues master table.facts sourceSystem row).isEmpty) ∧
      final.resolved = (rows.filter (fun row =>
        (rowIssues master table.facts sourceSystem row).isEmpty)).map (resolve master) ∧
      ∀ row ∈ rows,
        ((∃ issue ∈ rowIssues master table.facts sourceSystem row,
            issue.code = "HOSPITAL_TERRITORY_MISMATCH") ↔
          reports (dimensionErrors master row) "hospital" = true) ∧
        ((∃ issue ∈ rowIssues master table.facts sourceSystem row,
            issue.code = "SALES_REPRESENTATIVE_TERRITORY_MISMATCH") ↔
          reports (dimensionErrors master row) "sales_representative" = true) ∧
        ((∃ issue ∈ rowIssues master table.facts sourceSystem row,
            issue.code = "SOURCE_RECORD_CONFLICT") ↔
          rowMasterIssues master row = [] ∧
            ∃ fact ∈ table.facts, fact.key = (sourceSystem, row.sourceRecordId) ∧
              factMatches (resolve master row) fact = false) := by
  have numbers : (batches.flatten.map SalesImportStagedRow.rowNumber).Nodup := by
    rwa [partition.flatten]
  obtain ⟨final, done, validated⟩ := validateBatches_validated table.keys_nodup maximum batches []
    { collector := { maximum } } partition.nonempty numbers
    (validated_initial master table.facts sourceSystem maximum)
  rw [List.nil_append, partition.flatten] at validated
  have stored := validated.tracks.held
  rw [validated.released, List.append_nil, validated.maximum] at stored
  exact ⟨final, done, validated.tracks.total, stored, validated.invalidRows, validated.resolved,
    fun row _ => ⟨hospital_mismatch_iff master table.facts sourceSystem row,
      representative_mismatch_iff master table.facts sourceSystem row,
      conflict_iff master table.facts sourceSystem row table.keys_nodup⟩⟩

/-- Two rows in two chunks: one conflicts with a stored fact, one names no product. -/
theorem setBased_eq_rowByRow_sample :
    ∃ final, validateBatches Sample.master (Sample.table "A-1").facts "ERP" { collector := { maximum := 5 } }
        [[Sample.row 2 "A-1" "PROD"], [Sample.row 3 "A-2" "NONE"]] = .ok final ∧
      final.collector.total = 2 ∧ final.invalidRows = 2 := by
  obtain ⟨final, done, total, _, invalid, _⟩ := setBased_eq_rowByRow Sample.master (Sample.table "A-1")
    "ERP" [Sample.row 2 "A-1" "PROD", Sample.row 3 "A-2" "NONE"]
    [[Sample.row 2 "A-1" "PROD"], [Sample.row 3 "A-2" "NONE"]] ⟨by simp, rfl⟩ (by decide) 5
  refine ⟨final, done, ?_, ?_⟩
  · rw [total]
    decide
  · rw [invalid]
    decide

end PharmaIntel.Validation
