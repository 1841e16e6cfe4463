import Mathlib
import PharmaIntel.Idempotence
import PharmaIntel.WorkerExits

/-! A worker adds a whole file to the facts or nothing of it, wherever the database fails and
whatever other workers do between its transactions. -/

namespace PharmaIntel.Publication
open PharmaIntel.Base PharmaIntel.Models PharmaIntel.Validation PharmaIntel.Queue

/-! ## What a published row says -/

/-- An optional reference of a row: no code, or a record that was assigned to the territory. -/
def AssignedReference (items : List CodedMasterData) (assignments : List TerritoryAssignment) (territoryId : Nat)
    (onDate : Date) (code : String) (reference : Option Nat) : Prop :=
  code = "" ∧ reference = none ∨ code ≠ "" ∧ ∃ item ∈ items, item.code = code ∧ reference = some item.pk ∧
    isEffectiveOn (assignmentsOf assignments item.pk territoryId) onDate = true

/-- The values stand for the row: its measures under its key, its codes looked up in the
master data. -/
structure Represents (master : MasterData) (sourceSystem : String) (row : SalesImportStagedRow)
    (values : SalesValues) : Prop where
  key : values.key = (sourceSystem, row.sourceRecordId)
  date : values.calendarDateId = row.transactionDate ∧ row.transactionDate ∈ master.calendar
  product : ∃ product ∈ master.products, product.code = row.productCode ∧ values.productId = product.pk
  territory : ∃ territory ∈ master.territories, territory.code = row.territoryCode ∧
    values.territoryId = territory.pk ∧ territory.level = .territory
  hospital : AssignedReference master.hospitals master.hospitalAssignments values.territoryId
    row.transactionDate row.hospitalCode values.hospitalId
  salesRepresentative : AssignedReference master.representatives master.representativeAssignments
    values.territoryId row.transactionDate row.salesRepresentativeCode values.salesRepresentativeId
  measures : values.quantity = row.quantity ∧ values.revenueAmount = row.revenueAmount ∧
    values.currencyCode = row.currencyCode

/-- What a publication of these rows does to the facts. -/
structure PublishesAll (snapshot : Snapshot) (sourceSystem : String) (rows : List SalesImportStagedRow)
    (store next : Store) (counts : SalesImportJobCounts) (added : List SalesTransaction) : Prop where
  facts : next.factTable.facts = store.factTable.facts ++ added
  every : ∀ row ∈ rows, ∃ fact ∈ snapshot.factTable.facts ++ added,
    Represents snapshot.master sourceSystem row fact.values
  only : ∀ fact ∈ added, ∃ row ∈ rows, Represents snapshot.master sourceSystem row fact.values
  counts : counts = publicationCounts rows.length added.length (rows.length - added.length)

section Rows
variable {master : MasterData} {sourceSystem : String} {row : SalesImportStagedRow}

theorem assigned_of_clean {items : List CodedMasterData} {assignments : List TerritoryAssignment}
    {territory : Territory} {onDate : Date} {code field message : String} {item : Option CodedMasterData}
    (looked : item = if code = "" then none else findBy CodedMasterData.code code items)
    (known : ¬(code ≠ "" ∧ item = none))
    (clean : assignmentErrors assignments field message item territory onDate = []) :
    AssignedReference items assignments territory.pk onDate code (item.map CodedMasterData.pk) := by
  by_cases empty : code = ""
  · rw [if_pos empty] at looked
    subst looked
    exact Or.inl ⟨empty, rfl⟩
  · rw [if_neg empty] at looked
    cases item with
    | none => exact absurd ⟨empty, rfl⟩ known
    | some item =>
      obtain ⟨member, same⟩ := findBy_some looked.symm
      refine Or.inr ⟨empty, item, member, same, rfl, ?_⟩
      by_contra uncovered
      rw [assignmentErrors, if_neg uncovered] at clean
      cases clean

/-- The errors of a field are all there is to report about it. -/
theorem assignmentErrors_of_unreported {assignments : List TerritoryAssignment} {field message : String}
    {item : Option CodedMasterData} {territory : Territory} {onDate : Date} {before after : List (String × String)}
    (silent : reports (before ++ assignmentErrors assignments field message item territory onDate ++ after) field =
      false) : assignmentErrors assignments field message item territory onDate = [] := by
  cases item with
  | none => rfl
  | some item =>
    rw [assignmentErrors]
    split_ifs with covered
    · rfl
    · simp [reports, assignmentErrors, covered] at silent

/-- A row without master-data issues has a fact that stands for it. -/
theorem represents_of_clean (clean : rowMasterIssues master row = []) :
    ∃ values, newFact sourceSystem (resolve master row) = some values ∧
      Represents master sourceSystem row values := by
  obtain ⟨calendar, product, territory⟩ := references_found clean
  obtain ⟨product, foundProduct⟩ := Option.isSome_iff_exists.mp product
  obtain ⟨territory, foundTerritory⟩ := Option.isSome_iff_exists.mp territory
  obtain ⟨productIn, productCode⟩ := findBy_some foundProduct
  obtain ⟨territoryIn, territoryCode⟩ := findBy_some foundTerritory
  have known := calendar
  simp only [references] at known
  split_ifs at known with listed
  simp only [rowMasterIssues, referenceIssues, mismatchIssues, List.append_eq_nil_iff, ite_eq_right_iff,
    List.cons_ne_nil, imp_false, Bool.not_eq_true, foundTerritory, territoryIssues, ne_eq] at clean
  obtain ⟨⟨⟨⟨_, level⟩, hospital⟩, representative⟩, hospitalSilent, representativeSilent⟩ := clean
  rw [dimensionErrors, foundTerritory, validateSalesDimensions] at hospitalSilent representativeSilent
  have hospitalClean := assignmentErrors_of_unreported hospitalSilent
  rw [← List.append_nil (_ ++ _)] at representativeSilent
  have representativeClean := assignmentErrors_of_unreported representativeSilent
  refine ⟨⟨row.transactionDate, product.pk, territory.pk, (resolve master row).hospitalId,
    (resolve master row).salesRepresentativeId, row.quantity, row.revenueAmount, row.currencyCode,
    sourceSystem, row.sourceRecordId⟩, ?_, ?_⟩
  · simp [newFact, resolve, resolvedRow, calendar, foundProduct, foundTerritory]
  · exact
      { key := rfl
        date := ⟨rfl, listed⟩
        product := ⟨product, productIn, productCode, rfl⟩
        territory := ⟨territory, territoryIn, territoryCode, rfl, not_not.mp level⟩
        hospital := assigned_of_clean rfl hospital hospitalClean
        salesRepresentative := assigned_of_clean rfl representative representativeClean
        measures := ⟨rfl, rfl, rfl⟩ }

end Rows

/-! ## The second pass of a publication -/

theorem linkBatches_inserted {sourceSystem : String} {createdById : Nat} {createdAt : Instant}
    {chunks : List (List SalesImportStagedRow)} {state final : LinkState}
    (done : linkBatches sourceSystem createdById createdAt chunks state = .ok final) :
    final.insertedRows + state.table.facts.length = state.insertedRows + final.table.facts.length := by
  induction chunks generalizing state with
  | nil =>
    cases done
    rfl
  | cons rows rest ih =>
    rw [linkBatches] at done
    cases first : linkOrInsertChunk sourceSystem createdById createdAt rows state with
    | error stop => simp [first] at done
    | ok middle =>
      rw [first] at done
      have later := ih done
      obtain ⟨chunkAdded, grown, _⟩ := System.linkOrInsertChunk_grows first
      have size := congrArg List.length grown
      rw [List.length_append] at size
      have counted : middle.insertedRows = state.insertedRows +
          (middle.table.facts.drop state.table.facts.length).length := by
        simp only [linkOrInsertChunk] at first
        split_ifs at first
        split at first
        · cases first
        · split at first
          · cases first
          · injection first with same
            rw [← same]
            rfl
      rw [List.length_drop] at counted
      omega

section Pass
variable {settings : Settings} {snapshot : Snapshot} {store : Store} {createdAt : Instant} {intake : SalesImport}
  {attempt : SalesImportAttempt} {checked : ValidationState}

/-- The facts a silent publication adds are those of the rows whose keys its snapshot misses. -/
theorem linkRows_added (numbers : (attempt.stagedRows.map SalesImportStagedRow.rowNumber).Nodup)
    (ids : (attempt.stagedRows.map SalesImportStagedRow.sourceRecordId).Nodup)
    (validated : PassChecked settings snapshot intake attempt checked) (silent : checked.collector.total = 0)
    {final : LinkState} (done : linkRows settings snapshot intake (validatedAttempt attempt checked)
      checked.collector createdAt store = .ok final) :
    ∃ added, final.table.facts = store.factTable.facts ++ added ∧
      added.map (fun fact => some fact.values) =
        (((inRowOrder attempt.stagedRows).map (resolve snapshot.master)).filter
          (absent intake.sourceSystem snapshot.factTable.facts)).map (newFact intake.sourceSystem) ∧
      final.insertedRows = added.length ∧ final.insertedRows + final.reusedRows = attempt.stagedRows.length := by
  have passes : AllSound snapshot.shown intake attempt.stagedRows := (total_zero_iff validated).mp silent
  have saved : (validatedAttempt attempt checked).stagedRows = attempt.stagedRows.map (resolve snapshot.master) :=
    @resolved_sound snapshot.shown _ _ numbers _ _ validated passes
  obtain ⟨sorted, sortedIds, ready⟩ := @sound_sorted snapshot.shown _ _ ids passes
  simp only [Snapshot.shown] at sorted sortedIds ready
  have partition := batched_partition settings.dbBatchSize
    ((inRowOrder attempt.stagedRows).map (resolve snapshot.master))
  have start : Passed intake.sourceSystem snapshot.factTable.facts store.factTable.facts [] []
      { visible := snapshot.factTable.facts, table := store.factTable, collector := checked.collector } :=
    ⟨⟨by simp, snapshot.factTable.keys_nodup, by simp⟩, by simp, silent, rfl⟩
  unfold linkRows at done
  rw [saved, sorted] at done
  have counted := linkBatches_inserted done
  obtain ⟨_, _, ends⟩ := @linkBatches_passed _ _ _ intake.uploadedById createdAt _ _ _ _ start
    (by rwa [List.nil_append, partition.flatten]) (by rwa [partition.flatten])
  rcases ends with ⟨_, failed⟩ | ⟨added, other, same, passed⟩
  · rw [failed] at done
    cases done
  · rw [same] at done
    obtain rfl := Except.ok.inj done
    rw [List.nil_append, List.nil_append, partition.flatten] at passed
    refine ⟨added, passed.table, passed.sees.values, ?_, ?_⟩
    · have size := congrArg List.length passed.table
      rw [List.length_append] at size
      simp only [Nat.zero_add] at counted
      omega
    · have total := passed.counted
      rwa [List.length_map, (inRowOrder_perm attempt.stagedRows).length_eq] at total

/-- Every row of a silent publication has its fact, in the snapshot or among the added ones. -/
theorem publishesAll_of_added (passes : AllSound snapshot.shown intake attempt.stagedRows)
    {next : Store} {added : List SalesTransaction}
    (facts : next.factTable.facts = store.factTable.facts ++ added)
    (values : added.map (fun fact => some fact.values) =
      (((inRowOrder attempt.stagedRows).map (resolve snapshot.master)).filter
        (absent intake.sourceSystem snapshot.factTable.facts)).map (newFact intake.sourceSystem))
    {inserted reused : Nat} (insertions : inserted = added.length)
    (total : inserted + reused = attempt.stagedRows.length) :
    PublishesAll snapshot intake.sourceSystem attempt.stagedRows store next
      (publicationCounts attempt.stagedRows.length inserted reused) added := by
  have perm := inRowOrder_perm attempt.stagedRows
  have clean : ∀ row ∈ attempt.stagedRows, rowMasterIssues snapshot.master row = [] ∧
      rowConflicts snapshot.master snapshot.factTable.facts intake.sourceSystem row = false :=
    fun row member => sound_iff.mp (passes row member)
  refine ⟨facts, ?_, ?_, ?_⟩
  · intro row member
    obtain ⟨stands, built, represents⟩ := @represents_of_clean _ intake.sourceSystem _ (clean row member).1
    by_cases missing : absent intake.sourceSystem snapshot.factTable.facts (resolve snapshot.master row) = true
    · have listed : some stands ∈ added.map (fun fact => some fact.values) := by
        rw [values, ← built]
        apply List.mem_map_of_mem
        exact List.mem_filter.mpr ⟨List.mem_map_of_mem (perm.mem_iff.mpr member), missing⟩
      obtain ⟨fact, inside, same⟩ := List.mem_map.mp listed
      obtain rfl := Option.some.inj same
      exact ⟨fact, List.mem_append_right _ inside, represents⟩
    · rw [absent, Option.isNone_iff_eq_none, ← ne_eq, Option.ne_none_iff_exists'] at missing
      obtain ⟨fact, found⟩ := missing
      obtain ⟨inside, key⟩ := findBy_some found
      have agrees := (sound_ready snapshot.factTable.keys_nodup (passes row member)).agrees fact inside key
      have same := (factMatches_iff (clean row member).1 key).mp agrees
      obtain rfl := Option.some.inj (built.symm.trans same)
      exact ⟨fact, List.mem_append_left _ inside, represents⟩
  · intro fact inside
    obtain ⟨resolved, listed, _, built⟩ := added_row values inside
    obtain ⟨row, member, rfl⟩ := List.mem_map.mp listed
    have origin := perm.mem_iff.mp member
    obtain ⟨stands, same, represents⟩ := @represents_of_clean _ intake.sourceSystem _ (clean row origin).1
    obtain rfl := Option.some.inj (same.symm.trans built)
    exact ⟨row, origin, represents⟩
  · rw [insertions] at total ⊢
    rw [← total, Nat.add_sub_cancel_left]

/-- A publication that ends published has published all rows of its attempt. -/
theorem publishOnce_published {claim : SalesImportClaim} {times : PublicationTimes} {next : Store}
    {result : SalesImportProcessingResult} (done : publishOnce settings snapshot claim times store = .ok (result, next))
    (published : result.status = .published) :
    ∃ job attempt intake, LiveClaim store claim.jobId claim.leaseToken times.startedAt job attempt ∧
      findImport store claim.jobId = some intake ∧
      ((attempt.stagedRows.map SalesImportStagedRow.rowNumber).Nodup →
        (attempt.stagedRows.map SalesImportStagedRow.sourceRecordId).Nodup →
          ∃ added, PublishesAll snapshot intake.sourceSystem attempt.stagedRows store next result.counts added) := by
  obtain ⟨job, attempt, live, body⟩ := fenced_ok done
  split_ifs at body with own
  cases found : findImport store claim.jobId with
  | none => simp [found] at body
  | some intake =>
    refine ⟨job, attempt, intake, live, rfl, ?_⟩
    intro numbers ids
    obtain ⟨checked, pass, validated⟩ := @validationPass_checked settings snapshot intake attempt numbers
    unfold validationPass at pass
    simp only [found, publishLocked, pass] at body
    split_ifs at body with counted
    · obtain ⟨_, rfl, _⟩ := finishLockedJob_inv body
      cases published
    · rw [ne_eq, not_not] at counted
      simp only [publishValidated] at body
      split at body
      · cases body
      · obtain ⟨_, rfl, _⟩ := finishLockedJob_inv body
        cases published
      · rename_i final linked
        obtain ⟨_, rfl, saved⟩ := finishLockedJob_inv body
        obtain ⟨added, facts, values, inserted, total⟩ := linkRows_added numbers ids validated counted linked
        have rows : (validatedAttempt attempt checked).stagedRows.length = attempt.stagedRows.length :=
          saveRows_length _ _ _
        rw [rows]
        exact ⟨added, publishesAll_of_added ((total_zero_iff validated).mp counted) (saved ▸ facts) values
          inserted total⟩

end Pass

end PharmaIntel.Publication

namespace PharmaIntel.System
open PharmaIntel.Base PharmaIntel.Models PharmaIntel.Queue PharmaIntel.Intake PharmaIntel.Publication

/-! ## What a worker adds to the facts -/

section Rules
variable (settings : Settings) (ucd : PyText.UnicodeDatabase) (claim : SalesImportClaim)

/-- No transaction of the trace has changed the facts. -/
def Steady (trace : Trace) : Prop :=
  ∀ performed ∈ trace, (answer settings ucd performed.input performed.call performed.before).2.factTable =
    performed.before.factTable

/-- The last transaction of the trace has published the rows, and no other has changed the facts. -/
def PublishedBy (rows : List SalesImportStagedRow) (trace : Trace) (result : SalesImportProcessingResult) :
    Prop :=
  ∃ earlier env store next intake added, trace = earlier ++ [⟨.publishOnce claim, env, store⟩] ∧
    Steady settings ucd earlier ∧ answer settings ucd env (.publishOnce claim) store = (.ok result, next) ∧
    findImport store claim.jobId = some intake ∧
    PublishesAll env.snapshot intake.sourceSystem rows store next result.counts added

/-- What a value comes with; an exception leaves the facts alone. -/
def Leaves {α : Type} (V : Trace → α → Store → Prop) (E : Store → Prop) (trace : Trace) :
    Except PyError α → Store → Prop
  | .ok value, store => V trace value store
  | .error _, store => Steady settings ucd trace ∧ E store

/-- A part of the worker, wherever the database fails. -/
def Adds {α : Type} (P : Store → Prop) (program : Transaction α) (V : Trace → α → Store → Prop)
    (E : Store → Prop) : Prop :=
  Meets (answer settings ucd) (fun _ => True) (Foreign claim) P program (Leaves settings ucd V E)

/-- A part of the worker that leaves the facts alone. -/
def Steadily {α : Type} (P : Store → Prop) (program : Transaction α) (V : α → Store → Prop)
    (E : Store → Prop) : Prop :=
  Adds settings ucd claim P program (fun trace value store => Steady settings ucd trace ∧ V value store) E

variable {settings ucd claim} {α β : Type} {P E : Store → Prop}

theorem steady_nil : Steady settings ucd [] := fun _ absent => (List.not_mem_nil absent).elim

theorem Steady.append {before after : Trace} (first : Steady settings ucd before)
    (second : Steady settings ucd after) : Steady settings ucd (before ++ after) :=
  fun performed member => (List.mem_append.mp member).elim (first performed) (second performed)

theorem PublishedBy.append {rows : List SalesImportStagedRow} {before trace : Trace}
    {result : SalesImportProcessingResult} (steady : Steady settings ucd before)
    (published : PublishedBy settings ucd claim rows trace result) :
    PublishedBy settings ucd claim rows (before ++ trace) result := by
  obtain ⟨earlier, env, store, next, intake, added, rfl, still, facts⟩ := published
  exact ⟨before ++ earlier, env, store, next, intake, added, (List.append_assoc ..).symm, steady.append still, facts⟩

theorem adds_pure {V : Trace → α → Store → Prop} {value : α} (holds : ∀ store, P store → V [] value store) :
    Adds settings ucd claim P (pure value) V E := meets_pure holds

theorem adds_throw {V : Trace → α → Store → Prop} {e : PyError} (holds : ∀ store, P store → E store) :
    Adds settings ucd claim P (throw e) V E :=
  meets_throw (fun store before => ⟨steady_nil, holds store before⟩)

theorem Adds.imp {program : Transaction α} {V V' : Trace → α → Store → Prop} {S E' : Store → Prop}
    (adds : Adds settings ucd claim P program V E) (stronger : ∀ store, S store → P store)
    (values : ∀ trace value store, V trace value store → V' trace value store)
    (errors : ∀ store, E store → E' store) : Adds settings ucd claim S program V' E' := by
  refine Meets.imp adds stronger ?_
  intro trace outcome store reached
  cases outcome with
  | ok value => exact values trace value store reached
  | error e => exact ⟨reached.1, errors store reached.2⟩

/-- Only the last part can add facts. -/
theorem adds_then {program : Transaction α} {f : α → Transaction β} {V : α → Store → Prop}
    {W : Trace → β → Store → Prop} (first : Steadily settings ucd claim P program V E)
    (second : ∀ value, Adds settings ucd claim (V value) (f value) W E)
    (extend : ∀ before trace value store, Steady settings ucd before → W trace value store →
      W (before ++ trace) value store) : Adds settings ucd claim P (program >>= f) W E := by
  refine meets_bind first (fun value => ?_) ?_ ?_ (S := fun _ => Leaves settings ucd W E)
  · exact Meets.imp (second value) (fun store ⟨_, _, holds⟩ => holds) (fun _ _ _ reached => reached)
  · exact fun trace e store failed => failed
  · rintro before value middle trace outcome store ⟨steady, _⟩ reached
    cases outcome with
    | ok result => exact extend before trace result store steady reached
    | error e => exact ⟨steady.append reached.1, reached.2⟩

theorem steadily_then {program : Transaction α} {f : α → Transaction β} {V : α → Store → Prop}
    {W : β → Store → Prop} (first : Steadily settings ucd claim P program V E)
    (second : ∀ value, Steadily settings ucd claim (V value) (f value) W E) :
    Steadily settings ucd claim P (program >>= f) W E :=
  adds_then first second (fun _ _ _ _ steady reached => ⟨steady.append reached.1, reached.2⟩)

/-- A call that is not a publication, or one that fails, leaves the facts alone. -/
theorem steady_single {c : Call} {env : Environment} {store : Store}
    (quiet : (∀ other, c ≠ .publishOnce other) ∨ ∃ e, (answer settings ucd env c store).1 = .error e) :
    Steady settings ucd [⟨c, env, store⟩] := by
  intro performed member
  rw [List.mem_singleton.mp member]
  cases outcome : (answer settings ucd env c store).1 with
  | error e =>
    dsimp only
    rw [answer_error settings ucd outcome]
  | ok reply =>
    rcases quiet with other | ⟨e, failed⟩
    · have done := answer_ok settings ucd (Prod.ext outcome rfl)
      rcases execute_facts done with kept | ⟨publisher, same, _⟩
      · exact kept
      · exact absurd same (other publisher)
    · rw [failed] at outcome
      cases outcome

theorem steadily_call {c : Call} {V : c.Reply → Store → Prop} (other : ∀ publisher, c ≠ .publishOnce publisher)
    (undisturbed : Undisturbed (answer settings ucd) (Foreign claim) P)
    (done : ∀ env store reply next, P store → answer settings ucd env c store = (.ok reply, next) → V reply next)
    (failed : ∀ store, P store → E store) : Steadily settings ucd claim P (transact c) V E := by
  refine meets_request undisturbed ?_
  intro store env _ before
  have steady : Steady settings ucd [⟨c, env, store⟩] := steady_single (Or.inl other)
  cases outcome : (answer settings ucd env c store).1 with
  | ok reply => exact ⟨steady, done env store reply _ before (Prod.ext outcome rfl)⟩
  | error e =>
    rw [answer_error settings ucd outcome]
    exact ⟨steady, failed store before⟩

theorem steadily_eachOf {body : β → Transaction Unit} {items : List β} {I : List β → Store → Prop}
    (each : ∀ past item rest, past ++ item :: rest = items →
      Steadily settings ucd claim (I past) (body item) (fun _ => I (past ++ [item])) E) :
    Steadily settings ucd claim (I []) (eachOf body items) (fun _ => I items) E := by
  have suffix : ∀ rest past, past ++ rest = items →
      Steadily settings ucd claim (I past) (eachOf body rest) (fun _ => I items) E := by
    intro rest
    induction rest with
    | nil =>
      intro past whole
      rw [List.append_nil] at whole
      subst whole
      exact adds_pure (fun store holds => ⟨steady_nil, holds⟩)
    | cons item rest ih =>
      intro past whole
      exact steadily_then (each past item rest whole) (fun _ => ih (past ++ [item]) (by simpa using whole))
  exact suffix items [] rfl

theorem adds_tryCatch {program : Transaction α} {handler : PyError → Transaction α}
    {V W : Trace → α → Store → Prop} {E' : Store → Prop} (first : Adds settings ucd claim P program V E)
    (second : ∀ e, Adds settings ucd claim E (handler e) W E')
    (values : ∀ trace value store, V trace value store → W trace value store)
    (extend : ∀ before trace value store, Steady settings ucd before → W trace value store →
      W (before ++ trace) value store) : Adds settings ucd claim P (tryCatch program handler) W E' := by
  refine meets_tryCatch first (fun e => ?_) values ?_ (S := fun _ => Leaves settings ucd W E')
  · exact Meets.imp (second e) (fun store ⟨_, _, holds⟩ => holds) (fun _ _ _ reached => reached)
  · rintro before e middle trace outcome store ⟨steady, _⟩ reached
    cases outcome with
    | ok result => exact extend before trace result store steady reached
    | error raised => exact ⟨steady.append reached.1, reached.2⟩

end Rules

/-! ## The parts of the worker -/

section Parts
variable {settings : Settings} {ucd : PyText.UnicodeDatabase} {claim : SalesImportClaim}
  {rows : List SalesImportStagedRow}

/-- A call that succeeds has not been failed by the database. -/
theorem undisrupted_of_ok {c : Call} {env : Environment} {store next : Store} {reply : c.Reply}
    (answered : answer settings ucd env c store = (.ok reply, next)) : Undisrupted (c, env) := by
  intro e fault
  unfold answer at answered
  rw [fault] at answered
  cases answered

theorem worked_ok {c : Call} {P : Store → Prop} {V : Trace → c.Reply → Store → Prop}
    {E : PyError → Store → Prop} (worked : Worked settings ucd claim P (transact c) V E) {env : Environment}
    {store next : Store} {reply : c.Reply} (before : P store)
    (answered : answer settings ucd env c store = (.ok reply, next)) : V [⟨c, env, store⟩] reply next := by
  have session : Session (answer settings ucd) Undisrupted (Foreign claim) (transact c).run store
      [⟨c, env, store⟩] (.ok reply) next := by
    refine .call [] env (by simp) (undisrupted_of_ok answered) ?_
    rw [run_nil, answered]
    exact .done _ _
  exact (worked store _ _ _ session before).2

theorem steadily_kept {c : Call} {later : List SalesImportStagedRow} {E : PyError → Store → Prop}
    (other : ∀ publisher, c ≠ .publishOnce publisher)
    (worked : Worked settings ucd claim (Keeps claim rows) (transact c) (fun _ _ => Keeps claim later) E) :
    Steadily settings ucd claim (Keeps claim rows) (transact c) (fun _ => Keeps claim later) (fun _ => True) :=
  steadily_call other foreign_keeps (fun _ _ _ _ keeps answered => worked_ok worked keeps answered)
    (fun _ _ => trivial)

theorem heartbeat_keeps {env : Environment} {store next : Store} {reply : Instant} (keeps : Keeps claim rows store)
    (answered : answer settings ucd env (.heartbeatJob claim.jobId claim.leaseToken defaultLeaseDuration) store =
      (.ok reply, next)) : Keeps claim rows next := by
  have session : Session (answer settings ucd) Undisrupted (Foreign claim) (heartbeat claim).run store
      [⟨.heartbeatJob claim.jobId claim.leaseToken defaultLeaseDuration, env, store⟩] (.ok ()) next := by
    refine .call [] env (by simp) (undisrupted_of_ok answered) ?_
    rw [run_nil, answered]
    exact .done _ _
  exact (heartbeat_worked settings ucd claim rows store _ _ _ session keeps).2

theorem steadily_heartbeat :
    Steadily settings ucd claim (Keeps claim rows) (heartbeat claim) (fun _ => Keeps claim rows)
      (fun _ => True) :=
  steadily_then (V := fun _ => Keeps claim rows) (steadily_call (by simp) foreign_keeps
    (fun _ _ _ _ keeps answered => heartbeat_keeps keeps answered) (fun _ _ => trivial))
    (fun _ => adds_pure (fun _ keeps => ⟨steady_nil, keeps⟩))

theorem steadily_heartbeats (count : Nat) :
    Steadily settings ucd claim (Keeps claim rows) (heartbeats claim count) (fun _ => Keeps claim rows)
      (fun _ => True) :=
  steadily_eachOf (I := fun _ => Keeps claim rows) (fun _ _ _ _ => steadily_heartbeat)

/-- A file whose staging is not rejected has no issue. -/
theorem steadily_stageFile (stream : Csv.TextStream) :
    Steadily settings ucd claim (Keeps claim []) (stageFile settings ucd claim stream)
      (fun staged store => Keeps claim (Staging.acceptedRows (Staging.results settings ucd stream)) store ∧
        (staged.2 = false → Staging.countedIssues settings ucd stream = [])) (fun _ => True) := by
  obtain ⟨rejected, returned, flagged⟩ := Staging.stageCsv_returns settings ucd stream
  have loop : Steadily settings ucd claim (Keeps claim ([].flatMap Staging.ParseBatch.stagedRows))
      (eachOf (fun batch => transact (.recordParseBatch claim batch)) (Staging.batches settings ucd stream))
      (fun _ => Keeps claim ((Staging.batches settings ucd stream).flatMap Staging.ParseBatch.stagedRows))
      (fun _ => True) := by
    refine steadily_eachOf (I := fun past => Keeps claim (past.flatMap Staging.ParseBatch.stagedRows)) ?_
    intro past batch rest whole
    rw [List.flatMap_append, List.flatMap_singleton]
    exact steadily_kept (by simp) (record_worked settings ucd claim _ ⟨settings, ucd, stream, whole ▸ by simp⟩)
  rw [Staging.batches_rows] at loop
  refine steadily_then loop (fun _ => ?_)
  rw [returned]
  refine adds_pure (fun store keeps => ⟨steady_nil, keeps, ?_⟩)
  intro accepted
  by_contra counted
  rw [flagged.mpr (List.length_pos_of_ne_nil counted)] at accepted
  cases accepted

/-! ## The ends of the worker -/

theorem steadily_complete (status : SalesImportJob.Status) (counts : Option SalesImportJobCounts)
    (errorCode errorMessage : String) {P : Store → Prop} (undisturbed : Undisturbed (answer settings ucd) (Foreign claim) P) :
    Steadily settings ucd claim P
      (transact (.completeJob claim.jobId claim.leaseToken status counts errorCode errorMessage))
      (fun job _ => job.status = status) (fun _ => True) := by
  refine steadily_call (by simp) undisturbed ?_ (fun _ _ => trivial)
  intro env store job next _ answered
  obtain ⟨_, _, same, _⟩ := @completeJob_ok Scope.all _ _ _ _ _ _ _ _ _ _ (answer_ok settings ucd answered)
  exact same

theorem undisturbed_true : Undisturbed (answer settings ucd) (Foreign claim) (fun _ => True) :=
  fun _ _ _ _ => trivial

/-- The result is not that of a publication. -/
def Unpublished (result : SalesImportProcessingResult) (_ : Store) : Prop := result.status ≠ .published

theorem steadily_rejectContract (progress : Staging.Progress) :
    Steadily settings ucd claim (fun _ => True) (rejectContract claim progress) Unpublished (fun _ => True) := by
  refine steadily_then (steadily_complete .rejected _ _ _ undisturbed_true) (fun job => ?_)
  refine adds_pure (fun store same => ⟨steady_nil, ?_⟩)
  simp [Unpublished, same]

theorem steadily_completeFailure (errorCode errorMessage : String) :
    Steadily settings ucd claim (fun _ => True) (completeFailure claim errorCode errorMessage) Unpublished
      (fun _ => True) := by
  refine steadily_then (V := fun _ _ => True) (steadily_call (by simp) undisturbed_true
    (fun _ _ _ _ _ _ => trivial) (fun _ _ => trivial)) (fun counts => ?_)
  refine steadily_then (steadily_complete .failed _ _ _ undisturbed_true) (fun job => ?_)
  refine adds_pure (fun store same => ⟨steady_nil, ?_⟩)
  simp [Unpublished, same]

theorem retriedJob_unpublished (job : SalesImportJob) (errorCode errorMessage : String) (failedAt : Instant)
    (delay : Duration) : (retriedJob job errorCode errorMessage failedAt delay).status ≠ .published := by
  unfold retriedJob
  split_ifs <;> simp

theorem steadily_scheduleProcessingRetry (errorCode errorMessage : String) :
    Steadily settings ucd claim (fun _ => True) (scheduleProcessingRetry claim errorCode errorMessage)
      Unpublished (fun _ => True) := by
  refine steadily_then (V := fun job _ => job.status ≠ .published) (steadily_call (by simp) undisturbed_true ?_
    (fun _ _ => trivial)) (fun job => ?_)
  · intro env store job next _ answered
    obtain ⟨before, attempt, live, saved⟩ := fenced_ok (answer_ok settings ucd answered)
    split at saved
    · cases saved
    · split at saved
      · cases saved
      · obtain ⟨rfl, _⟩ := Prod.mk.inj (Except.ok.inj saved)
        exact retriedJob_unpublished before _ _ _ _
  · refine steadily_then (V := fun _ _ => job.status ≠ .published) (steadily_call (by simp)
      (fun _ _ _ holds => holds) (fun _ _ _ _ holds _ => holds) (fun _ _ => trivial)) (fun counts => ?_)
    exact adds_pure (fun store holds => ⟨steady_nil, holds⟩)

theorem steadily_failStoredObject (failureCode : SalesImport.FailureCode) (errorCode errorMessage : String) :
    Steadily settings ucd claim (fun _ => True) (failStoredObject claim failureCode errorCode errorMessage)
      Unpublished (fun _ => True) := by
  refine steadily_then (V := fun job _ => job.status ≠ .published) (steadily_call (by simp) undisturbed_true ?_
    (fun _ _ => trivial)) (fun job => ?_)
  · intro env store job next _ answered
    have done := answer_ok settings ucd answered
    change completeStoredObjectFailure _ _ _ _ _ _ = _ at done
    unfold completeStoredObjectFailure at done
    split at done
    · cases done
    · split at done
      · cases done
      · split at done
        · cases done
        · obtain ⟨_, _, same, _⟩ := @completeJob_ok Scope.all _ _ _ _ _ _ _ _ _ _ done
          simp [same]
  · exact adds_pure (fun store holds => ⟨steady_nil, holds⟩)

theorem steadily_handleUnopened (failure : DownloadFailure) :
    Steadily settings ucd claim (fun _ => True) (handleUnopened claim failure) Unpublished (fun _ => True) := by
  cases failure with
  | downloadError message => exact steadily_scheduleProcessingRetry _ _
  | kmsProvenanceError message => exact steadily_completeFailure _ _
  | notFoundError message => exact steadily_failStoredObject _ _ _
  | verificationError message => exact steadily_failStoredObject _ _ _
  | storageError message => exact steadily_completeFailure _ _

/-! ## Publishing -/

variable (settings ucd claim) in
/-- The result of a part that publishes these rows or leaves the facts alone. -/
def Publishes (rows : List SalesImportStagedRow) (trace : Trace) (result : SalesImportProcessingResult)
    (_ : Store) : Prop :=
  Steady settings ucd trace ∧ result.status ≠ .published ∨
    result.status = .published ∧ PublishedBy settings ucd claim rows trace result

theorem Publishes.append {before trace : Trace} {result : SalesImportProcessingResult} {store : Store}
    (steady : Steady settings ucd before)
    (publishes : Publishes settings ucd claim rows trace result store) :
    Publishes settings ucd claim rows (before ++ trace) result store :=
  publishes.imp (fun ⟨still, other⟩ => ⟨steady.append still, other⟩)
    (fun ⟨status, published⟩ => ⟨status, published.append steady⟩)

theorem adds_publish (numbers : (rows.map SalesImportStagedRow.rowNumber).Nodup)
    (ids : (rows.map SalesImportStagedRow.sourceRecordId).Nodup) :
    Adds settings ucd claim (Keeps claim rows) (transact (.publishOnce claim))
      (Publishes settings ucd claim rows) (Keeps claim rows) := by
  refine meets_request foreign_keeps ?_
  intro store env _ keeps
  cases outcome : (answer settings ucd env (.publishOnce claim) store).1 with
  | error e =>
    rw [answer_error settings ucd outcome]
    exact ⟨steady_single (Or.inr ⟨e, outcome⟩), keeps⟩
  | ok result =>
    have answered : answer settings ucd env (.publishOnce claim) store =
        (.ok result, (answer settings ucd env (.publishOnce claim) store).2) := Prod.ext outcome rfl
    have done := answer_ok settings ucd answered
    by_cases published : result.status = .published
    · obtain ⟨job, attempt, intake, live, found, effect⟩ := publishOnce_published done published
      obtain ⟨_, _, _, staged⟩ := keeps.live live
      rw [staged] at effect
      obtain ⟨added, publishes⟩ := effect numbers ids
      exact Or.inr ⟨published, [], env, store, _, intake, added, rfl, steady_nil, answered, found, publishes⟩
    · refine Or.inl ⟨?_, published⟩
      intro performed member
      rw [List.mem_singleton.mp member]
      obtain ⟨ending, same⟩ := publishOnce_ok done
      rcases ending.ends with ⟨_, kept⟩ | ⟨status, _⟩
      · dsimp only
        rw [ending.saved]
        exact kept
      · rw [same] at published
        exact absurd status published

theorem adds_publishStagedRows (numbers : (rows.map SalesImportStagedRow.rowNumber).Nodup)
    (ids : (rows.map SalesImportStagedRow.sourceRecordId).Nodup) (wait : LockWait) :
    Adds settings ucd claim (Keeps claim rows) (publishStagedRows claim wait)
      (Publishes settings ucd claim rows) (fun _ => True) := by
  refine adds_then (steadily_heartbeats wait.heartbeats) (fun _ => ?_) (fun _ _ _ _ => Publishes.append)
  cases wait.acquired with
  | false => exact adds_throw (fun _ _ => trivial)
  | true =>
    refine adds_then steadily_heartbeat (fun _ => ?_) (fun _ _ _ _ => Publishes.append)
    refine adds_tryCatch (adds_publish numbers ids) (fun e => ?_) (fun _ _ _ publishes => publishes)
      (fun _ _ _ _ => Publishes.append)
    split_ifs with taken
    · exact (adds_publish numbers ids).imp (fun _ keeps => keeps) (fun _ _ _ publishes => publishes)
        (fun _ _ => trivial)
    · exact adds_throw (fun _ _ => trivial)

/-! ## The whole worker -/

variable (settings ucd claim) in
/-- The result of a worker that publishes all rows of a faultless file or leaves the facts alone. -/
def PublishesFile (download : Download) (trace : Trace) (result : SalesImportProcessingResult) (_ : Store) :
    Prop :=
  Steady settings ucd trace ∧ result.status ≠ .published ∨
    result.status = .published ∧ ∃ stream, download.opened = .ok stream ∧
      Staging.countedIssues settings ucd stream = [] ∧
      PublishedBy settings ucd claim (Staging.acceptedRows (Staging.results settings ucd stream)) trace result

theorem PublishesFile.append {download : Download} {before trace : Trace} {result : SalesImportProcessingResult}
    {store : Store} (steady : Steady settings ucd before)
    (publishes : PublishesFile settings ucd claim download trace result store) :
    PublishesFile settings ucd claim download (before ++ trace) result store :=
  publishes.imp (fun ⟨still, other⟩ => ⟨steady.append still, other⟩)
    (fun ⟨status, stream, opened, clean, published⟩ => ⟨status, stream, opened, clean, published.append steady⟩)

variable (settings ucd claim) in
/-- What the guarded part of the worker leaves: a result, or what the handlers go on with. -/
def Guarded (download : Download) (trace : Trace) : FileEnd → Store → Prop
  | .finished result, store => PublishesFile settings ucd claim download trace result store
  | .unopened _, _ | .databaseError, _ => Steady settings ucd trace

theorem guarded_append {download : Download} (before trace : Trace) (ending : FileEnd) (store : Store)
    (steady : Steady settings ucd before) (guarded : Guarded settings ucd claim download trace ending store) :
    Guarded settings ucd claim download (before ++ trace) ending store := by
  cases ending with
  | finished result =>
    have published : PublishesFile settings ucd claim download trace result store := guarded
    exact published.append steady
  | unopened failure => exact steady.append guarded
  | databaseError => exact steady.append guarded

theorem adds_finished {download : Download} {P E : Store → Prop} {program : Transaction SalesImportProcessingResult}
    (adds : Adds settings ucd claim P program (PublishesFile settings ucd claim download) E) :
    Adds settings ucd claim P (.finished <$> program) (Guarded settings ucd claim download) E := by
  refine meets_map (Meets.imp adds (fun _ => id) ?_)
  intro trace outcome store reached
  cases outcome with
  | ok result => exact reached
  | error e => exact reached

theorem adds_processFile (download : Download) (wait : LockWait) :
    Adds settings ucd claim (Keeps claim []) (processFile settings ucd claim download wait)
      (Guarded settings ucd claim download) (fun _ => True) := by
  refine adds_then (steadily_kept (by simp) (phase_worked settings ucd claim [] .download)) (fun _ => ?_)
    guarded_append
  refine adds_then steadily_heartbeat (fun _ => ?_) guarded_append
  refine adds_then (steadily_heartbeats download.heartbeats) (fun _ => ?_) guarded_append
  cases opened : download.opened with
  | error failure => exact adds_pure (fun _ _ => steady_nil)
  | ok stream =>
    obtain ⟨numbers, ids⟩ := acceptedRows_unique settings ucd stream
    refine adds_then steadily_heartbeat (fun _ => ?_) guarded_append
    refine adds_then (steadily_stageFile stream) (fun staged => ?_) guarded_append
    cases refused : staged.2 with
    | true =>
      rw [if_pos rfl]
      exact adds_finished ((steadily_rejectContract staged.1).imp (fun _ _ => trivial)
        (fun _ _ _ rejected => Or.inl rejected) (fun _ _ => trivial))
    | false =>
      rw [if_neg Bool.false_ne_true]
      by_cases clean : Staging.countedIssues settings ucd stream = []
      · refine adds_then (steadily_heartbeat.imp (fun _ staged => staged.1) (fun _ _ _ reached => reached)
          (fun _ _ => trivial)) (fun _ => ?_) guarded_append
        refine adds_finished ((adds_publishStagedRows numbers ids wait).imp (fun _ keeps => keeps)
          (fun _ _ _ publishes => ?_) (fun _ _ => trivial))
        exact publishes.imp_right (fun ⟨status, published⟩ => ⟨status, stream, opened, clean, published⟩)
      · rintro store trace outcome final _ ⟨_, accepted⟩
        exact absurd (accepted rfl) clean

/-- What follows the guarded part: a finished result is answered, the rest is handled. -/
def Follows (settings : Settings) (ucd : PyText.UnicodeDatabase) (claim : SalesImportClaim) (download : Download) :
    FileEnd → Trace → Except PyError SalesImportProcessingResult → Store → Prop
  | .finished result, trace, outcome, _ => trace = [] ∧ outcome = .ok result
  | .unopened _, trace, outcome, store | .databaseError, trace, outcome, store =>
      Leaves settings ucd (PublishesFile settings ucd claim download) (fun _ => True) trace outcome store

theorem leaves_append {download : Download} {before trace : Trace}
    {outcome : Except PyError SalesImportProcessingResult} {store : Store} (steady : Steady settings ucd before)
    (leaves : Leaves settings ucd (PublishesFile settings ucd claim download) (fun _ => True) trace outcome store) :
    Leaves settings ucd (PublishesFile settings ucd claim download) (fun _ => True) (before ++ trace) outcome store := by
  cases outcome with
  | ok result =>
    have published : PublishesFile settings ucd claim download trace result store := leaves
    exact published.append steady
  | error e => exact ⟨steady.append leaves.1, leaves.2⟩

theorem adds_unpublished {download : Download} {P : Store → Prop}
    {program : Transaction SalesImportProcessingResult}
    (steadily : Steadily settings ucd claim (fun _ => True) program Unpublished (fun _ => True)) :
    Adds settings ucd claim P program (PublishesFile settings ucd claim download) (fun _ => True) :=
  steadily.imp (fun _ _ => trivial) (fun _ _ _ reached => Or.inl reached) (fun _ _ => trivial)

theorem adds_processClaim (download : Download) (wait : LockWait) :
    Adds settings ucd claim (Keeps claim []) (processClaim settings ucd claim download wait)
      (PublishesFile settings ucd claim download) (fun _ => True) := by
  refine adds_then (V := fun _ => Keeps claim []) (steadily_call (by simp) foreign_keeps ?_ (fun _ _ => trivial))
    (fun intake => ?_) (fun _ _ _ _ => PublishesFile.append)
  · intro env store intake next keeps answered
    have same := answer_read settings ucd env (Or.inl ⟨claim.jobId, rfl⟩) store
    rw [answered] at same
    obtain rfl : next = store := same
    exact keeps
  · by_cases present : intake.processingJob = none
    · rw [if_pos present]
      exact adds_throw (fun _ _ => trivial)
    rw [if_neg present]
    split_ifs with format
    · exact adds_unpublished (steadily_completeFailure _ _)
    · have guarded : Adds settings ucd claim (Keeps claim []) (tryCatch (processFile settings ucd claim download wait)
          (fun e => if isDatabaseError e then return .databaseError else throw e))
          (Guarded settings ucd claim download) (fun _ => True) := by
        refine adds_tryCatch (adds_processFile download wait) (fun e => ?_) (fun _ _ _ reached => reached)
          guarded_append
        split_ifs
        · exact adds_pure (fun _ _ => steady_nil)
        · exact adds_throw (fun _ _ => trivial)
      refine meets_bind guarded (fun ending => ?_) (fun _ _ _ failed => failed) ?_
        (S := Follows settings ucd claim download)
      · cases ending with
        | finished result => exact meets_pure (fun _ _ => ⟨rfl, rfl⟩)
        | unopened failure => exact adds_unpublished (steadily_handleUnopened failure)
        | databaseError => exact adds_unpublished (steadily_scheduleProcessingRetry _ _)
      · intro before ending middle trace outcome store reached follows
        cases ending with
        | finished result =>
          obtain ⟨rfl, rfl⟩ := follows
          rw [List.append_nil]
          exact reached
        | unopened failure => exact leaves_append reached follows
        | databaseError => exact leaves_append reached follows

end Parts

/-! ## A whole file or nothing -/

/-- The worker has published a file without issues whole, in its last transaction. -/
structure PublishedWhole (settings : Settings) (ucd : PyText.UnicodeDatabase) (claim : SalesImportClaim)
    (stream : Csv.TextStream) (trace : Trace) (result : SalesImportProcessingResult) : Prop where
  published : result.status = .published
  clean : Staging.countedIssues settings ucd stream = []
  every : (Staging.acceptedRows (Staging.results settings ucd stream)).length =
    (Staging.results settings ucd stream).length
  committed : PublishedBy settings ucd claim (Staging.acceptedRows (Staging.results settings ucd stream)) trace result

/-- Wherever the database fails and however other workers interleave, a worker publishes every
row of its file in one transaction, or none of its transactions changes the facts. -/
theorem processClaim_wholeFile (settings : Settings) (ucd : PyText.UnicodeDatabase) (start : Store)
    (unqueued : Unqueued start) (before : List Event) (staged : StagedBatches before) (event : Event)
    (claim : SalesImportClaim) (issued : Issued settings ucd (run (step settings ucd) start before) event claim)
    (download : Download) (wait : LockWait) (trace : Trace) (outcome : Except PyError SalesImportProcessingResult)
    (final : Store) (session : Session (answer settings ucd) (fun _ => True) (Foreign claim)
      (processClaim settings ucd claim download wait).run
      (step settings ucd (run (step settings ucd) start before) event) trace outcome final) :
    (Steady settings ucd trace ∧ ∀ result, outcome = .ok result → result.status ≠ .published) ∨
      ∃ stream result, download.opened = .ok stream ∧ outcome = .ok result ∧
        PublishedWhole settings ucd claim stream trace result := by
  have keeps := issued_keeps settings ucd issued (run_invariants settings ucd start unqueued before staged)
  have reached := adds_processClaim download wait _ trace outcome final session keeps
  cases outcome with
  | error e =>
    obtain ⟨steady, _⟩ := reached
    refine Or.inl ⟨steady, ?_⟩
    rintro result ⟨⟩
  | ok result =>
    have publishes : PublishesFile settings ucd claim download trace result final := reached
    rcases publishes with ⟨steady, other⟩ | ⟨published, stream, opened, clean, committed⟩
    · refine Or.inl ⟨steady, ?_⟩
      rintro _ ⟨⟩
      exact other
    · obtain ⟨_, every⟩ := Staging.accepted_file settings ucd stream clean
      exact Or.inr ⟨stream, result, opened, rfl, published, clean, every, committed⟩

namespace Sample

/-- A file of three rows about the sample master data. -/
def threeRowFile : Download where
  heartbeats := 0
  opened := .ok (Csv.textStream (Contracts.Sample.header ++ Contracts.Sample.line "S1" "2.000" "1000.00" ++
    Contracts.Sample.line "S2" "1.500" "750.00" ++ Contracts.Sample.line "S3" "-1" "-20.00"))

def publishingMoves : List (List Event × Environment) :=
  (List.range 9).map (fun elapsed => ([], environment (2 + elapsed) 0 0))

end Sample

/-- The worker stages and publishes the rows of the sample file in batches of two. -/
theorem processClaim_wholeFile_sample :
    ∃ trace outcome final, Session (answer Publication.Sample.smallBatches PyText.asciiDatabase) (fun _ => True)
      (Foreign Sample.firstClaim) (processClaim Publication.Sample.smallBatches PyText.asciiDatabase
        Sample.firstClaim Sample.threeRowFile Sample.uncontended).run Sample.claimedStore trace outcome final ∧
    final.factTable.facts.length = 3 ∧
    ((Steady Publication.Sample.smallBatches PyText.asciiDatabase trace ∧
        ∀ result, outcome = .ok result → result.status ≠ .published) ∨
      ∃ stream result, Sample.threeRowFile.opened = .ok stream ∧ outcome = .ok result ∧
        PublishedWhole Publication.Sample.smallBatches PyText.asciiDatabase Sample.firstClaim stream trace
          result) := by
  have ends : ((processClaim Publication.Sample.smallBatches PyText.asciiDatabase Sample.firstClaim
      Sample.threeRowFile Sample.uncontended).run.play (answer Publication.Sample.smallBatches
        PyText.asciiDatabase) Sample.claimedStore Sample.publishingMoves).map
      (fun played => played.2.2.factTable.facts.length) = some 3 := by decide +kernel
  obtain ⟨⟨trace, outcome, final⟩, done, size⟩ := Option.map_eq_some_iff.mp ends
  have session : Session (answer Publication.Sample.smallBatches PyText.asciiDatabase) (fun _ => True)
      (Foreign Sample.firstClaim) _ _ trace outcome final :=
    session_of_play (by simp [Sample.publishingMoves]) (fun _ _ _ => trivial) done
  exact ⟨trace, outcome, final, session, size, processClaim_wholeFile Publication.Sample.smallBatches
    PyText.asciiDatabase Sample.store (by simp [Unqueued, Sample.store]) (Sample.reclaimedRun.take 1)
    (by simp [StagedBatches, Sample.reclaimedRun]) (Sample.reclaimedRun.get ⟨1, by decide⟩) Sample.firstClaim
    ⟨Sample.workerId, 100, rfl, rfl⟩ Sample.threeRowFile Sample.uncontended trace outcome final session⟩

end PharmaIntel.System
