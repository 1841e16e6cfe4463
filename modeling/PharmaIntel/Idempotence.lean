import Mathlib
import PharmaIntel.Base.Dict
import PharmaIntel.Atomicity
import PharmaIntel.Transitions

/-! What publications do to the facts as a whole. Read as a map from keys to values, the
table is joined with the values of the published rows, so publications that agree commute
and a repeated one adds nothing. -/

namespace PharmaIntel.Publication
open PharmaIntel.Base PharmaIntel.Models PharmaIntel.Validation PharmaIntel.Queue

/-! ## Facts and rows as maps -/

/-- The values a table holds under each key. -/
def factContent (table : FactTable) (key : String × String) : Option SalesValues :=
  (table.find key).map SalesTransaction.values

/-- The values the rows of a source system bring under each key. -/
def rowContent (master : MasterData) (sourceSystem : String) (rows : List SalesImportStagedRow)
    (key : String × String) : Option SalesValues :=
  (findBy (fun row => (sourceSystem, row.sourceRecordId)) key rows).bind
    (fun row => newFact sourceSystem (resolve master row))

theorem factContent_iff {table : FactTable} {key : String × String} {values : SalesValues} :
    factContent table key = some values ↔ ∃ fact ∈ table.facts, fact.values = values ∧ fact.key = key := by
  unfold factContent
  rw [Option.map_eq_some_iff]
  constructor
  · rintro ⟨fact, found, same⟩
    obtain ⟨member, key⟩ := findBy_some found
    exact ⟨fact, member, same, key⟩
  · rintro ⟨fact, member, same, rfl⟩
    exact ⟨fact, FactTable.find_of_mem member, same⟩

theorem factContent_of_mem {table : FactTable} {fact : SalesTransaction} (member : fact ∈ table.facts) :
    factContent table fact.key = some fact.values := factContent_iff.mpr ⟨fact, member, rfl, rfl⟩

/-- A table is given by its content, up to ids, creators, creation times and order. -/
theorem perm_of_content {first second : FactTable} (same : factContent first = factContent second) :
    (first.facts.map SalesTransaction.values).Perm (second.facts.map SalesTransaction.values) := by
  have distinct : ∀ table : FactTable, (table.facts.map SalesTransaction.values).Nodup := by
    intro table
    apply List.Nodup.of_map SalesValues.key
    rw [List.map_map]
    exact table.keys_nodup
  apply (List.perm_ext_iff_of_nodup (distinct first) (distinct second)).mpr
  have member : ∀ (table : FactTable) (values : SalesValues),
      values ∈ table.facts.map SalesTransaction.values ↔ factContent table values.key = some values := by
    intro table values
    rw [factContent_iff, List.mem_map]
    constructor
    · rintro ⟨fact, inside, rfl⟩
      exact ⟨fact, inside, rfl, rfl⟩
    · rintro ⟨fact, inside, equal, _⟩
      exact ⟨fact, inside, equal⟩
  intro values
  rw [member, member, same]

section Rows
variable {master : MasterData} {sourceSystem : String} {rows : List SalesImportStagedRow}

theorem rowContent_of_mem (ids : (rows.map SalesImportStagedRow.sourceRecordId).Nodup)
    {row : SalesImportStagedRow} (member : row ∈ rows) :
    rowContent master sourceSystem rows (sourceSystem, row.sourceRecordId) =
      newFact sourceSystem (resolve master row) := by
  have keys : (rows.map (fun row => (sourceSystem, row.sourceRecordId))).Nodup := by
    have paired := ids.map (f := fun id : String => (sourceSystem, id))
      (fun first second equal => congrArg Prod.snd equal)
    rwa [List.map_map] at paired
  unfold rowContent
  rw [findBy_of_mem keys member]
  rfl

theorem rowContent_some {key : String × String} {values : SalesValues}
    (held : rowContent master sourceSystem rows key = some values) :
    values.key = key ∧ ∃ row ∈ rows, newFact sourceSystem (resolve master row) = some values := by
  obtain ⟨row, found, built⟩ := Option.bind_eq_some_iff.mp held
  obtain ⟨member, same⟩ := findBy_some found
  exact ⟨(newFact_key built).trans same, row, member, built⟩

/-- Rows that hold, under the key of a fact, the fact's values. -/
theorem agree_facts {table : FactTable}
    (equal : ∀ fact ∈ table.facts, ∀ row ∈ rows, fact.key = (sourceSystem, row.sourceRecordId) →
      newFact sourceSystem (resolve master row) = some fact.values) :
    Agree (factContent table) (rowContent master sourceSystem rows) := by
  intro key values other stored brought
  obtain ⟨fact, inside, rfl, rfl⟩ := factContent_iff.mp stored
  obtain ⟨key_eq, row, listed, built⟩ := rowContent_some brought
  have same := equal fact inside row listed (key_eq.symm.trans (newFact_key built :))
  exact Option.some.inj (same.symm.trans built)

/-- Rows of two files that hold, under one key, the same values. -/
theorem agree_rows {otherSystem : String} {others : List SalesImportStagedRow}
    (equal : ∀ row ∈ rows, ∀ other ∈ others,
      (sourceSystem, row.sourceRecordId) = (otherSystem, other.sourceRecordId) →
        newFact sourceSystem (resolve master row) = newFact otherSystem (resolve master other)) :
    Agree (rowContent master sourceSystem rows) (rowContent master otherSystem others) := by
  intro key values otherValues first second
  obtain ⟨key_eq, row, listed, built⟩ := rowContent_some first
  obtain ⟨otherKey, other, otherListed, otherBuilt⟩ := rowContent_some second
  have shared := (newFact_key built).symm.trans ((key_eq.trans otherKey.symm).trans (newFact_key otherBuilt))
  have same := equal row listed other otherListed shared
  exact Option.some.inj (built.symm.trans (same.trans otherBuilt))

/-- `_fact_matches` compares everything an inserted fact would hold. -/
theorem factMatches_iff {row : SalesImportStagedRow} {fact : SalesTransaction}
    (clean : rowMasterIssues master row = []) (key : fact.key = (sourceSystem, row.sourceRecordId)) :
    factMatches (resolve master row) fact = true ↔
      newFact sourceSystem (resolve master row) = some fact.values := by
  obtain ⟨calendar, product, territory⟩ := references_found clean
  obtain ⟨product, foundProduct⟩ := Option.isSome_iff_exists.mp product
  obtain ⟨territory, foundTerritory⟩ := Option.isSome_iff_exists.mp territory
  have source : fact.sourceSystem = sourceSystem := congrArg Prod.fst key
  have id : fact.sourceRecordId = row.sourceRecordId := congrArg Prod.snd key
  simp only [factMatches, newFact, resolve, resolvedRow, calendar, foundProduct, foundTerritory,
    Option.map_some, Bool.and_eq_true, decide_eq_true_eq, Option.some.injEq, SalesTransaction.values,
    SalesValues.mk.injEq, source, id, and_true]
  constructor
  · rintro ⟨⟨⟨⟨⟨⟨⟨date, product⟩, territory⟩, hospital⟩, representative⟩, quantity⟩, revenue⟩, currency⟩
    exact ⟨date.symm, product.symm, territory.symm, hospital.symm, representative.symm, quantity.symm,
      revenue.symm, currency.symm⟩
  · rintro ⟨date, product, territory, hospital, representative, quantity, revenue, currency⟩
    exact ⟨⟨⟨⟨⟨⟨⟨date.symm, product.symm⟩, territory.symm⟩, hospital.symm⟩, representative.symm⟩,
      quantity.symm⟩, revenue.symm⟩, currency.symm⟩

end Rows

/-! ## Uploads -/

/-- A worker's claim on an intake whose rows are staged. -/
structure Upload where
  settings : Settings
  claim : SalesImportClaim
  intake : SalesImport
  job : SalesImportJob
  attempt : SalesImportAttempt

namespace Upload

def content (upload : Upload) (master : MasterData) : String × String → Option SalesValues :=
  rowContent master upload.intake.sourceSystem upload.attempt.stagedRows

/-- Every row validates against the calendar, the master data and the assignments. -/
def Valid (upload : Upload) (master : MasterData) : Prop :=
  ∀ row ∈ upload.attempt.stagedRows, rowMasterIssues master row = []

def InLease (upload : Upload) (now : Instant) : Prop :=
  ∃ expiry, upload.job.leaseExpiresAt = some expiry ∧ now < expiry

/-- The store holds the upload, claimed and staged. -/
structure Publishable (upload : Upload) (store : Store) : Prop where
  found : findImport store upload.claim.jobId = some upload.intake
  held : upload.intake.processingJob = some upload.job
  processing : upload.job.status = .processing
  token : upload.job.leaseToken = some upload.claim.leaseToken
  running : upload.job.attempts.find? (fun attempt =>
    attempt.leaseToken = upload.claim.leaseToken && attempt.outcome = .running) = some upload.attempt
  own : claimMatches upload.attempt upload.claim = true
  numbers : (upload.attempt.stagedRows.map SalesImportStagedRow.rowNumber).Nodup
  ids : (upload.attempt.stagedRows.map SalesImportStagedRow.sourceRecordId).Nodup
  staged : ∀ row ∈ upload.attempt.stagedRows, row.outcome = .staged ∧ row.salesTransactionId = none

/-- The publication commits, and its job ends published with these counters. -/
structure Publishes (upload : Upload) (times : PublicationTimes) (store next : Store)
    (counts : SalesImportJobCounts) : Prop where
  committed : publishOnce upload.settings (snapshotOf store) upload.claim times store =
    .ok (⟨upload.claim.jobId, .published, counts⟩, next)
  jobSaved : ∃ job, findJob next upload.claim.jobId = some job ∧ job.status = .published ∧ job.counts = counts

end Upload

section Publishing
variable {upload : Upload} {store : Store}

theorem Upload.Publishable.live (ready : upload.Publishable store) {now : Instant}
    (lease : upload.InLease now) :
    lockedLiveClaim upload.claim.jobId upload.claim.leaseToken now store =
      .ok (upload.job, upload.attempt) := by
  obtain ⟨expiry, deadline, early⟩ := lease
  have located : findJob store upload.claim.jobId = some upload.job := by
    rw [findJob, ready.found]
    exact ready.held
  unfold lockedLiveClaim
  rw [located, Option.filter_some, if_pos (by simp [ready.processing, ready.token, deadline, early])]
  dsimp only
  rw [ready.running]

theorem allSound_of_agree (valid : upload.Valid store.master)
    (ids : (upload.attempt.stagedRows.map SalesImportStagedRow.sourceRecordId).Nodup)
    (agree : Agree (factContent store.factTable) (upload.content store.master)) :
    AllSound store upload.intake upload.attempt.stagedRows := by
  intro row member
  refine sound_iff.mpr ⟨valid row member, ?_⟩
  rw [Bool.eq_false_iff, ne_eq, rowConflicts_iff]
  rintro ⟨fact, found, differs⟩
  obtain ⟨inside, key⟩ := findBy_some found
  obtain ⟨values, built, _⟩ := newFact_resolve upload.intake.sourceSystem (valid row member)
  have equal : fact.values = values := by
    apply agree fact.key fact.values values (factContent_of_mem inside)
    rw [key, Upload.content, rowContent_of_mem ids member, built]
  have matching := (factMatches_iff (valid row member) key).mpr (by rw [built, equal])
  simp [matching] at differs

/-- A published run joins the rows to the facts. -/
theorem content_published {next : Store} {times : PublicationTimes} {finalJob : SalesImportJob}
    {finalAttempt : SalesImportAttempt} {added : List SalesTransaction}
    (ids : (upload.attempt.stagedRows.map SalesImportStagedRow.sourceRecordId).Nodup)
    (published : PublishedRun store next upload.claim.jobId upload.intake upload.attempt times finalJob
      finalAttempt added) :
    factContent next.factTable = join (factContent store.factTable) (upload.content store.master) := by
  funext key
  have older : Below (factContent store.factTable) (factContent next.factTable) := by
    intro key values held
    obtain ⟨fact, member, same⟩ := factContent_iff.mp held
    exact factContent_iff.mpr ⟨fact, published.facts ▸ List.mem_append_left _ member, same⟩
  unfold join
  cases held : factContent store.factTable key with
  | some values => exact older key values held
  | none =>
    rw [Option.none_or]
    ext values
    rw [factContent_iff]
    constructor
    · rintro ⟨fact, member, rfl, rfl⟩
      rw [published.facts] at member
      rcases List.mem_append.mp member with old | new
      · rw [factContent_of_mem old] at held
        cases held
      · have listed := List.mem_map_of_mem (f := fun fact => some fact.values) new
        rw [published.values] at listed
        obtain ⟨row, inside, built⟩ := List.mem_map.mp listed
        have origin := (inRowOrder_perm _).mem_iff.mp (List.mem_filter.mp inside).1
        have own : fact.key = (upload.intake.sourceSystem, row.sourceRecordId) := newFact_key built
        rw [own, Upload.content, rowContent_of_mem ids origin, built]
    · intro brought
      obtain ⟨key_eq, row, member, built⟩ := rowContent_some brought
      have missing : absent upload.intake.sourceSystem store.factTable.facts row = true := by
        rw [absent, Option.isNone_iff_eq_none]
        cases found : findBy SalesTransaction.key (upload.intake.sourceSystem, row.sourceRecordId)
            store.factTable.facts with
        | none => rfl
        | some fact =>
          obtain ⟨inside, same⟩ := findBy_some found
          have stored := factContent_of_mem inside
          have own : values.key = (upload.intake.sourceSystem, row.sourceRecordId) := (newFact_key built :)
          rw [same, ← own, key_eq, held] at stored
          cases stored
      have listed : some values ∈ added.map (fun fact => some fact.values) := by
        rw [published.values]
        exact List.mem_map.mpr
          ⟨row, List.mem_filter.mpr ⟨(inRowOrder_perm _).mem_iff.mpr member, missing⟩, built⟩
      obtain ⟨fact, inside, same⟩ := List.mem_map.mp listed
      injection same with same
      refine ⟨fact, published.facts ▸ List.mem_append_right _ inside, same, ?_⟩
      rw [← key_eq, ← same]
      rfl

theorem publishOnce_extends {settings : Settings} {snapshot : Snapshot} {claim : SalesImportClaim}
    {times : PublicationTimes} {next : Store} {result : SalesImportProcessingResult}
    (done : publishOnce settings snapshot claim times store = .ok (result, next)) :
    store.factTable.Extends next.factTable := by
  obtain ⟨ending⟩ := System.publishOnce_ok done
  rw [ending.saved]
  rcases ending.ends with ⟨_, kept⟩ | ⟨_, grown⟩
  · rw [kept]
    exact FactTable.Extends.refl _
  · exact grown

/-- An upload that agrees with the facts is published, and its rows are joined to them. -/
theorem publishes_of_agree (ready : upload.Publishable store) (valid : upload.Valid store.master)
    (agree : Agree (factContent store.factTable) (upload.content store.master))
    {times : PublicationTimes} (lease : upload.InLease times.startedAt) :
    ∃ next added, upload.Publishes times store next
        (publicationCounts upload.attempt.stagedRows.length added
          (upload.attempt.stagedRows.countP
            (fun row => !absent upload.intake.sourceSystem store.factTable.facts row))) ∧
      factContent next.factTable = join (factContent store.factTable) (upload.content store.master) ∧
      next.factTable.facts.length = store.factTable.facts.length + added ∧
      Elsewhere store next upload.claim.jobId := by
  have live := ready.live lease
  have passes := allSound_of_agree valid ready.ids agree
  have run := @publishOnce_live upload.settings (snapshotOf store) store upload.claim times upload.job
    upload.attempt upload.intake live ready.own ready.found
  obtain ⟨result, next, finalJob, finalAttempt, added, done, same, published⟩ := publishLocked_published
    upload.settings times ready.found (lockedLiveClaim_ok live).member ready.numbers ready.ids passes
  refine ⟨next, added.length, ⟨?_, finalJob, published.jobSaved, published.status.1, published.jobCounts⟩,
    content_published ready.ids published, ?_, published.elsewhere⟩
  · rw [run.trans done, same, published.status.1, published.jobCounts]
  · rw [published.facts, List.length_append]

end Publishing

/-- One publication after the other, and both end published. -/
def BothPublished (first second : Upload) (times later : PublicationTimes) (store final : Store) : Prop :=
  ∃ middle firstCounts secondCounts, first.Publishes times store middle firstCounts ∧
    second.Publishes later middle final secondCounts

/-! ## Two uploads, and one again -/

/-- Equal values wherever the uploads share a key with each other or with a fact. -/
structure Compatible (store : Store) (first second : Upload) : Prop where
  first_facts : Agree (factContent store.factTable) (first.content store.master)
  second_facts : Agree (factContent store.factTable) (second.content store.master)
  shared : Agree (first.content store.master) (second.content store.master)

theorem Compatible.symm {store : Store} {first second : Upload}
    (compatible : Compatible store first second) : Compatible store second first :=
  ⟨compatible.second_facts, compatible.first_facts, compatible.shared.symm⟩

/-- Both rows normalize to the same values, on whatever line of whatever file. -/
structure SameValues (row origin : SalesImportStagedRow) : Prop where
  sourceRecordId : row.sourceRecordId = origin.sourceRecordId
  transactionDate : row.transactionDate = origin.transactionDate
  productCode : row.productCode = origin.productCode
  territoryCode : row.territoryCode = origin.territoryCode
  hospitalCode : row.hospitalCode = origin.hospitalCode
  salesRepresentativeCode : row.salesRepresentativeCode = origin.salesRepresentativeCode
  quantity : row.quantity = origin.quantity
  revenueAmount : row.revenueAmount = origin.revenueAmount
  currencyCode : row.currencyCode = origin.currencyCode

theorem SameValues.references {row origin : SalesImportStagedRow} (same : SameValues row origin)
    (master : MasterData) : references master row = references master origin := by
  simp only [Validation.references, same.transactionDate, same.productCode, same.territoryCode,
    same.hospitalCode, same.salesRepresentativeCode]

theorem SameValues.newFact {row origin : SalesImportStagedRow} (same : SameValues row origin)
    (master : MasterData) (sourceSystem : String) :
    newFact sourceSystem (resolve master row) = newFact sourceSystem (resolve master origin) := by
  simp only [Publication.newFact, resolve, resolvedRow, same.references master, same.quantity,
    same.revenueAmount, same.currencyCode, same.sourceRecordId]

theorem SameValues.clean {row origin : SalesImportStagedRow} (same : SameValues row origin)
    {master : MasterData} (clean : rowMasterIssues master origin = []) : rowMasterIssues master row = [] := by
  have territory : ∀ found, territoryIssues origin found = [] → territoryIssues row found = [] := by
    intro found silent
    cases found with
    | none => simp [territoryIssues] at silent
    | some territory =>
      simp only [territoryIssues] at silent ⊢
      split_ifs at silent ⊢
      rfl
  have mismatches : ∀ hospital representative, mismatchIssues origin hospital representative = [] →
      mismatchIssues row hospital representative = [] := by
    intro hospital representative silent
    cases hospital <;> cases representative <;> simp [mismatchIssues] at silent ⊢
  simp only [rowMasterIssues, referenceIssues, dimensionErrors, same.references master,
    same.transactionDate, same.hospitalCode, same.salesRepresentativeCode, List.append_eq_nil_iff,
    ite_eq_right_iff, reduceCtorEq, imp_false] at clean ⊢
  obtain ⟨⟨⟨⟨⟨calendar, product⟩, leaf⟩, hospital⟩, representative⟩, assigned⟩ := clean
  exact ⟨⟨⟨⟨⟨calendar, product⟩, territory _ leaf⟩, hospital⟩, representative⟩, mismatches _ _ assigned⟩

namespace Upload

/-- The rows of `again` are rows of `upload` for the same source system. -/
structure Repeats (again upload : Upload) : Prop where
  sourceSystem : again.intake.sourceSystem = upload.intake.sourceSystem
  rows : ∀ row ∈ again.attempt.stagedRows, ∃ origin ∈ upload.attempt.stagedRows, SameValues row origin

/-- From the store on, a repeated upload is published, reuses all its rows and leaves the
facts alone. -/
def Settled (upload : Upload) (store : Store) : Prop :=
  ∀ (later : Store), later.master = store.master → store.factTable.facts ⊆ later.factTable.facts →
    ∀ (again : Upload) (times : PublicationTimes), again.Repeats upload → again.Publishable later →
      again.InLease times.startedAt →
      ∃ next counts, again.Publishes times later next counts ∧ counts.insertedRows = 0 ∧
        counts.reusedRows = counts.totalRows ∧ counts.totalRows = again.attempt.stagedRows.length ∧
        next.factTable = later.factTable

theorem Settled.mono {upload : Upload} {store later : Store} (settled : upload.Settled store)
    (master : later.master = store.master) (grown : store.factTable.facts ⊆ later.factTable.facts) :
    upload.Settled later :=
  fun last sameMaster facts => settled last (sameMaster.trans master) (List.Subset.trans grown facts)

/-- Rows whose facts are all stored settle the upload. -/
theorem settled_of_below {upload : Upload} {store : Store} (valid : upload.Valid store.master)
    (ids : (upload.attempt.stagedRows.map SalesImportStagedRow.sourceRecordId).Nodup)
    (stored : Below (upload.content store.master) (factContent store.factTable)) : upload.Settled store := by
  intro later master grown again times repeats ready lease
  have known : Below (again.content later.master) (factContent later.factTable) := by
    intro key values brought
    obtain ⟨key_eq, row, member, built⟩ := rowContent_some brought
    obtain ⟨origin, listed, same⟩ := repeats.rows row member
    rw [repeats.sourceSystem, master, same.newFact] at built
    have held : upload.content store.master key = some values := by
      rw [← key_eq, newFact_key built]
      exact (rowContent_of_mem ids listed).trans built
    obtain ⟨fact, inside, own⟩ := factContent_iff.mp (stored key values held)
    exact factContent_iff.mpr ⟨fact, grown inside, own⟩
  have clean : again.Valid later.master := by
    intro row member
    obtain ⟨origin, listed, same⟩ := repeats.rows row member
    rw [master]
    exact same.clean (valid origin listed)
  obtain ⟨next, added, published, content, counted, _⟩ := publishes_of_agree ready clean known.agree lease
  rw [join_of_below known] at content
  have lengths := (perm_of_content content).length_eq
  rw [List.length_map, List.length_map, counted] at lengths
  obtain rfl : added = 0 := by omega
  have extended := publishOnce_extends published.committed
  have facts : next.factTable.facts = later.factTable.facts :=
    (extended.facts_kept.eq_of_length counted.symm).symm
  refine ⟨next, _, published, rfl, ?_, rfl, extended.eq_of_facts facts⟩
  have present : ∀ row ∈ again.attempt.stagedRows,
      (!absent again.intake.sourceSystem later.factTable.facts row) = true := by
    intro row member
    obtain ⟨values, built, _⟩ := newFact_resolve again.intake.sourceSystem (clean row member)
    have held := known _ _ ((rowContent_of_mem ready.ids member).trans built)
    unfold absent
    cases found : findBy SalesTransaction.key (again.intake.sourceSystem, row.sourceRecordId)
        later.factTable.facts with
    | none => simp [factContent, FactTable.find, found] at held
    | some fact => rfl
  exact List.countP_eq_length.mpr present

theorem Publishable.elsewhere {upload : Upload} {store next : Store} {jobId : Uuid}
    (ready : upload.Publishable store) (apart : upload.claim.jobId ≠ jobId)
    (kept : Elsewhere store next jobId) : upload.Publishable next :=
  { ready with found := (kept.imports _ apart).trans ready.found }

end Upload

theorem step_extends (settings : Settings) (ucd : PyText.UnicodeDatabase) (store : Store)
    (event : System.Event) :
    store.factTable.Extends (System.step settings ucd store event).factTable := by
  rcases System.step_cases settings ucd store event with same | ⟨reply, done⟩
  · rw [same]
    exact FactTable.Extends.refl _
  · rcases System.execute_facts done with kept | ⟨claim, _, ending, published⟩
    · rw [kept]
      exact FactTable.Extends.refl _
    · rw [ending.saved]
      rcases ending.ends with ⟨rejected, _⟩ | ⟨_, grown⟩
      · rw [published] at rejected
        cases rejected
      · exact grown

theorem run_extends (settings : Settings) (ucd : PyText.UnicodeDatabase) (start : Store)
    (events : List System.Event) :
    start.factTable.Extends (run (System.step settings ucd) start events).factTable := by
  refine run_invariant (System.step settings ucd) (fun _ => True)
    (fun store => start.factTable.Extends store.factTable) ?_ start (FactTable.Extends.refl _) events
    (fun _ _ => trivial)
  intro store event _ grown
  exact grown.trans (step_extends settings ucd store event)

/-- Two compatible uploads, one after the other: both are published, the facts are joined
with the rows of both, and each upload is settled. -/
theorem publishes_both {store : Store} {first second : Upload}
    (apart : first.claim.jobId ≠ second.claim.jobId) (firstReady : first.Publishable store)
    (secondReady : second.Publishable store) (firstValid : first.Valid store.master)
    (secondValid : second.Valid store.master) (compatible : Compatible store first second)
    {times later : PublicationTimes} (firstLease : first.InLease times.startedAt)
    (secondLease : second.InLease later.startedAt) :
    ∃ final, BothPublished first second times later store final ∧
      factContent final.factTable = join (join (factContent store.factTable) (first.content store.master))
        (second.content store.master) ∧
      first.Settled final ∧ second.Settled final := by
  obtain ⟨middle, _, firstPublished, firstContent, _, firstElsewhere⟩ :=
    publishes_of_agree firstReady firstValid compatible.first_facts firstLease
  have middleReady := secondReady.elsewhere apart.symm firstElsewhere
  have agree : Agree (factContent middle.factTable) (second.content middle.master) := by
    rw [firstContent, firstElsewhere.master]
    exact compatible.second_facts.join compatible.shared
  obtain ⟨final, _, secondPublished, secondContent, _, secondElsewhere⟩ :=
    publishes_of_agree middleReady (firstElsewhere.master ▸ secondValid) agree secondLease
  have firstBelow : Below (first.content middle.master) (factContent middle.factTable) := by
    rw [firstContent, firstElsewhere.master]
    exact below_join_right compatible.first_facts
  have secondBelow : Below (second.content final.master) (factContent final.factTable) := by
    rw [secondContent, secondElsewhere.master]
    exact below_join_right agree
  refine ⟨final, ⟨middle, _, _, firstPublished, secondPublished⟩, ?_, ?_, ?_⟩
  · rw [secondContent, firstContent, firstElsewhere.master]
  · exact (Upload.settled_of_below (firstElsewhere.master ▸ firstValid) firstReady.ids firstBelow).mono
      secondElsewhere.master (publishOnce_extends secondPublished.committed).facts_kept.subset
  · exact Upload.settled_of_below (secondElsewhere.master ▸ firstElsewhere.master ▸ secondValid)
      secondReady.ids secondBelow

/-- Publication is idempotent and order independent, and facts are immutable in every run. -/
theorem publication_idempotent (store : Store) (first second : Upload)
    (apart : first.claim.jobId ≠ second.claim.jobId) (firstReady : first.Publishable store)
    (secondReady : second.Publishable store) (firstValid : first.Valid store.master)
    (secondValid : second.Valid store.master) (compatible : Compatible store first second)
    (times later times' later' : PublicationTimes) (firstLease : first.InLease times.startedAt)
    (secondLease : second.InLease later.startedAt) (secondLease' : second.InLease times'.startedAt)
    (firstLease' : first.InLease later'.startedAt) :
    (∃ final final', BothPublished first second times later store final ∧
      BothPublished second first times' later' store final' ∧
      (final.factTable.facts.map SalesTransaction.values).Perm
        (final'.factTable.facts.map SalesTransaction.values) ∧
      (first.Settled final ∧ second.Settled final) ∧ first.Settled final' ∧ second.Settled final') ∧
    ∀ (settings : Settings) (ucd : PyText.UnicodeDatabase) (start : Store) (events : List System.Event),
      start.factTable.facts <+: (run (System.step settings ucd) start events).factTable.facts ∧
        ((run (System.step settings ucd) start events).factTable.facts.map SalesTransaction.key).Nodup := by
  constructor
  · obtain ⟨final, done, content, settled, settled'⟩ :=
      publishes_both apart firstReady secondReady firstValid secondValid compatible firstLease secondLease
    obtain ⟨final', done', content', again', again⟩ :=
      publishes_both apart.symm secondReady firstReady secondValid firstValid compatible.symm secondLease'
        firstLease'
    refine ⟨final, final', done, done', ?_, ⟨settled, settled'⟩, again, again'⟩
    apply perm_of_content
    rw [content, content', join_right_comm compatible.shared]
  · intro settings ucd start events
    exact ⟨(run_extends settings ucd start events).facts_kept, FactTable.keys_nodup _⟩

namespace Sample

def firstRows : List SalesImportStagedRow := [Validation.Sample.row 2 "A-1" "PROD"]
/-- The second file repeats the first file's record on another line. -/
def secondRows : List SalesImportStagedRow :=
  [Validation.Sample.row 2 "A-2" "PROD", Validation.Sample.row 3 "A-1" "PROD"]

def otherIntake : SalesImport := { intake secondRows with id := 4, sha256 := "1f" }

def firstUpload : Upload := ⟨settings, claim, intake firstRows, job firstRows, attempt firstRows⟩
def secondUpload : Upload :=
  ⟨settings, otherClaim, otherIntake, job secondRows, attempt secondRows⟩

def pairStore : Store where
  importTable := ⟨[intake firstRows, otherIntake], by decide, by decide, by
    simp [SalesImport.MetadataConsistent, intake, otherIntake]⟩
  factTable := Validation.Sample.table "A-3"
  master := Validation.Sample.master

end Sample

/-- Two files that share a record end with the same facts in either order. -/
theorem publication_idempotent_sample :
    ∃ final final', BothPublished Sample.firstUpload Sample.secondUpload Sample.times Sample.times
        Sample.pairStore final ∧
      BothPublished Sample.secondUpload Sample.firstUpload Sample.times Sample.times Sample.pairStore final' ∧
      (final.factTable.facts.map SalesTransaction.values).Perm
        (final'.factTable.facts.map SalesTransaction.values) := by
  have lease : ∀ upload ∈ [Sample.firstUpload, Sample.secondUpload],
      upload.InLease Sample.times.startedAt := by
    intro upload member
    simp only [List.mem_cons, List.not_mem_nil, or_false] at member
    rcases member with rfl | rfl
    · exact ⟨1000, rfl, by decide⟩
    · exact ⟨1000, rfl, by decide⟩
  obtain ⟨⟨final, final', done, done', same, _⟩, _⟩ := publication_idempotent Sample.pairStore
    Sample.firstUpload Sample.secondUpload (by decide)
    ⟨rfl, rfl, rfl, rfl, rfl, rfl, by decide, by decide, by decide⟩
    ⟨rfl, rfl, rfl, rfl, rfl, rfl, by decide, by decide, by decide⟩
    (by unfold Upload.Valid; decide) (by unfold Upload.Valid; decide)
    ⟨agree_facts (by decide), agree_facts (by decide), agree_rows (by decide)⟩ Sample.times Sample.times
    Sample.times Sample.times (lease _ (by simp)) (lease _ (by simp)) (lease _ (by simp)) (lease _ (by simp))
  exact ⟨final, final', done, done', same⟩

end PharmaIntel.Publication
