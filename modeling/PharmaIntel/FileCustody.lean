import Mathlib
import PharmaIntel.Base.Beside
import PharmaIntel.FileRecords
import PharmaIntel.Inspection
import PharmaIntel.WorkerCommand

/-! An uploaded file from its inspection to its download: what intake, reconciliation and the
backfill record in the database always names a version in the bucket that holds the file. -/

namespace PharmaIntel.Custody
open PharmaIntel.Base PharmaIntel.Models PharmaIntel.Queue PharmaIntel.Intake PharmaIntel.System PharmaIntel.Storage
  PharmaIntel.Inspection

/-! ## Commands over the bucket and the database -/

/-- S3 calls and transactions in the order in which a command makes them. -/
abbrev FileProgram (β α : Type) : Type :=
  ExceptT PyError (Program (Sum.elim (S3Call.Answer β) (fun c : Call => Except PyError c.Reply))) α

section Commands
variable {β : Type}

def inStorage {α : Type} (program : S3Program β α) : FileProgram β α :=
  ExceptT.mk (program.onFirst >>= fun value => .done (.ok value))

def inDatabase {α : Type} (transaction : Transaction α) : FileProgram β α := ExceptT.mk transaction.run.onSecond

def fileFormatValue : SalesImport.FileFormat → String
  | .csv => "csv"
  | .xlsx => "xlsx"

/-- `_object_key`, for today's year and month. -/
def objectKey (year month : Nat) (importId : Uuid) (fileFormat : SalesImport.FileFormat) : String :=
  "sales-imports/original/" ++ toString year ++ "/" ++ (if month < 10 then "0" else "") ++ toString month ++ "/" ++
    toString importId ++ "." ++ fileFormatValue fileFormat

/-- The arguments of `receive_sales_import`; the file has passed its inspection. -/
structure ReceiveRequest (sha256 : List UInt8 → List UInt8) where
  file : UploadedFile
  inspection : InspectedSalesFile
  passed : ∃ casefold validateXlsx maxBytes,
    inspectSalesFile casefold (fun bytes => toHex (sha256 bytes)) validateXlsx maxBytes file = .ok inspection
  sourceSystem : String
  contentType : String
  uploadedById : Nat
  importId : Uuid
  year : Nat
  month : Nat

section Requests
variable {sha256 : List UInt8 → List UInt8} (request : ReceiveRequest sha256)

def ReceiveRequest.objectKey : String :=
  Custody.objectKey request.year request.month request.importId request.inspection.fileFormat

def ReceiveRequest.draft (storage : OriginalFileStorage) (filename : String) : IntakeDraft where
  id := request.importId
  sourceSystem := request.sourceSystem
  originalFilename := filename
  contentType := String.ofList (request.contentType.toList.take 255)
  fileFormat := request.inspection.fileFormat
  sizeBytes := request.inspection.sizeBytes
  sha256 := request.inspection.sha256
  storageBucket := storage.bucketName
  storageKmsKeyArn := storage.kmsKeyArn
  storageKey := request.objectKey
  uploadedById := request.uploadedById

def ReceiveRequest.upload : Upload where
  objectKey := request.objectKey
  sizeBytes := request.inspection.sizeBytes
  sha256 := request.inspection.sha256
  contentType := String.ofList (request.contentType.toList.take 255)
  importId := toString request.importId
  dataContract := dataContractValue .salesV1
  rowContract := rowContractValue .salesRowsV1

/-- The upload; a storage error leaves the import to reconciliation. -/
def ReceiveRequest.stored (storage : OriginalFileStorage) : FileProgram β (Option String) := do
  match ← inStorage (store storage request.upload ⟨request.file.content, 0⟩) with
  | (.error .valueError, _) => throw (.valueError "non-hexadecimal number found in fromhex() arg")
  | (.error _, _) => return none
  | (.ok versionId, _) => return some versionId

/-- `receive_sales_import` with its storage. -/
def receiveOriginalFile (ucd : PyText.UnicodeDatabase) (storage : OriginalFileStorage) :
    FileProgram β SalesImportIntakeResult :=
  receiveSalesImport inDatabase ucd request.sourceSystem request.inspection.sha256
    (match normalizedFilename request.file.name with
    | .error e => throw e
    | .ok filename => return (request.draft storage filename, request.stored storage))

end Requests

/-- The handlers of `reconcile_sales_imports`. -/
def storageCheck : Except DownloadFailure String → StorageCheck
  | .ok versionId => .stored versionId
  | .error (.notFoundError _) => .notFound
  | .error (.verificationError _) => .verificationFailed
  | .error _ => .unavailable

/-- Whatever version the object has now is checked. -/
def checkedInStorage (intake : SalesImport) : FileProgram β StorageCheck := do
  let checked ← inStorage (verifyStored { recordedFile intake with versionId := "" })
  return storageCheck checked

/-- `reconcile_sales_imports` with its storage, started at `now`. -/
def reconcileStoredImports (graceMinutes : Int) (now : Instant) : FileProgram β String :=
  reconcileSalesImports inDatabase checkedInStorage graceMinutes now

def failureMessage : DownloadFailure → String
  | .downloadError message | .kmsProvenanceError message | .notFoundError message | .verificationError message
  | .storageError message => message

/-- A storage error ends the backfill with its message. -/
def discoveredInStorage (settings : StorageSettings) (intake : SalesImport) :
    FileProgram β (Except String DiscoveredKmsProvenance) := do
  match getSalesImportStorage settings with
  | .error failure => return .error (failureMessage failure)
  | .ok _ =>
      let discovered ← inStorage (discoverKmsProvenance (recordedFile intake))
      return discovered.mapError failureMessage

/-- `backfill_sales_import_kms` with the storage of the settings. -/
def backfillStoredKms (settings : StorageSettings) (pk : Uuid) : FileProgram β Unit :=
  backfillSalesImportKms inDatabase (discoveredInStorage settings) pk

end Commands

/-! ## What the records owe -/

/-- How the record of a file may have changed. -/
structure RecordSince (record later : VersionRequest) : Prop where
  file : { later with versionId := record.versionId, expectedKmsKeyArn := record.expectedKmsKeyArn } = record
  key : ∀ arn, record.expectedKmsKeyArn = some arn → later.expectedKmsKeyArn = some arn
  version : record.versionId ≠ "" → later.versionId = record.versionId
  legacy : later.expectedKmsKeyArn = none → later.versionId = record.versionId

theorem recordSince_refl (record : VersionRequest) : RecordSince record record :=
  ⟨rfl, fun _ same => same, fun _ => rfl, fun _ => rfl⟩

theorem RecordSince.trans {first second third : VersionRequest} (earlier : RecordSince first second)
    (later : RecordSince second third) : RecordSince first third where
  file := by
    have same := later.file
    have before := earlier.file
    rw [← same] at before
    exact before
  key := fun arn same => later.key arn (earlier.key arn same)
  version := fun named => by
    have same := earlier.version named
    rw [later.version (by rwa [same]), same]
  legacy := fun unkeyed => by
    have before : second.expectedKmsKeyArn = none := by
      by_contra keyed
      obtain ⟨arn, given⟩ := Option.ne_none_iff_exists'.mp keyed
      rw [later.key arn given] at unkeyed
      cases unkeyed
    rw [later.legacy unkeyed, earlier.legacy before]

def RecordsSince (store later : Store) : Prop :=
  ∀ pk intake, findImport store pk = some intake →
    ∃ after, findImport later pk = some after ∧ RecordSince (recordedFile intake) (recordedFile after)

theorem recordsSince_refl (store : Store) : RecordsSince store store :=
  fun _ intake found => ⟨intake, found, recordSince_refl _⟩

theorem RecordsSince.trans {first second third : Store} (earlier : RecordsSince first second)
    (later : RecordsSince second third) : RecordsSince first third := by
  intro pk intake found
  obtain ⟨middle, located, since⟩ := earlier pk intake found
  obtain ⟨after, reached, more⟩ := later pk middle located
  exact ⟨after, reached, since.trans more⟩

theorem sameFiles_since {store next : Store} (same : SameFiles store next) : RecordsSince store next := by
  intro pk intake found
  have kept := same pk
  rw [found, Option.map_some, Option.map_eq_some_iff] at kept
  obtain ⟨after, located, equal⟩ := kept
  exact ⟨after, located, equal ▸ recordSince_refl _⟩

section Custody
variable {σ ι β : Type} (answer : ι → (c : S3Call) → σ → c.Answer β × σ)
  (versions : σ → String → String → String → Option StoredVersion)

/-- The record was found to describe the version it names, in this state or an earlier one. -/
def Kept (state : σ) (record : VersionRequest) : Prop :=
  ∃ past version expectedKey, requiredExpectedKmsKeyArn record.expectedKmsKeyArn = .ok expectedKey ∧
    Certified versions past { record with expectedKmsKeyArn := some expectedKey } version ∧
    ∃ events, state = run (afterCall answer) past events

/-- A record with a version and a key is kept; legacy records have no key. -/
structure InCustody (state : σ) (record : VersionRequest) : Prop where
  keyed : PyText.strip record.objectKey ≠ ""
  digest : ∃ digest, record.sha256 = toHex digest
  kept : record.versionId ≠ "" → record.expectedKmsKeyArn ≠ none → Kept answer versions state record

def AllInCustody (state : σ × Store) : Prop :=
  ∀ pk intake, findImport state.2 pk = some intake → InCustody answer versions state.1 (recordedFile intake)

variable {answer versions}

theorem Kept.later {state : σ} {record : VersionRequest} (kept : Kept answer versions state record)
    (events : List (S3Call × ι)) : Kept answer versions (run (afterCall answer) state events) record := by
  obtain ⟨past, version, expectedKey, required, certified, before, rfl⟩ := kept
  exact ⟨past, version, expectedKey, required, certified, before ++ events, (run_append _ _ _ _).symm⟩

theorem Kept.key {state : σ} {record : VersionRequest} (kept : Kept answer versions state record) :
    record.expectedKmsKeyArn ≠ none := by
  obtain ⟨_, _, _, required, _⟩ := kept
  intro unkeyed
  rw [unkeyed, requiredExpectedKmsKeyArn] at required
  obtain ⟨given, _⟩ := passed_guard required
  exact given (by decide)

theorem InCustody.later {state : σ} {record : VersionRequest} (custody : InCustody answer versions state record)
    (events : List (S3Call × ι)) : InCustody answer versions (run (afterCall answer) state events) record :=
  ⟨custody.keyed, custody.digest, fun named keyed => (custody.kept named keyed).later events⟩

variable (answer versions) in
/-- What a call that records a file has to know of the bucket. -/
def Entitled (state : σ × Store) : Call → Prop
  | .createImport draft => PyText.strip draft.storageKey ≠ "" ∧ ∃ digest, draft.sha256 = toHex digest
  | .completeReceiving pk versionId => ∀ intake, findImport state.2 pk = some intake →
      intake.status = .receiving →
        Kept answer versions state.1 { recordedFile intake with versionId := PyText.strip versionId }
  | .recordProvenance pk kmsKeyArn versionId => ∀ intake, findImport state.2 pk = some intake →
      lacksProvenance intake = true → Kept answer versions state.1 { recordedFile intake with
        versionId := if intake.status = .receiving then PyText.strip versionId else intake.storageVersionId
        expectedKmsKeyArn := some (PyText.strip kmsKeyArn) }
  | _ => True

/-! ## One transaction -/

theorem recorded_custody {state : σ × Store} {next : Store} {pk : Uuid} {record : VersionRequest}
    (custody : AllInCustody answer versions state) (records : RecordsFile state.2 next pk record)
    (mine : InCustody answer versions state.1 record)
    (since : ∀ intake, findImport state.2 pk = some intake → RecordSince (recordedFile intake) record) :
    AllInCustody answer versions (state.1, next) ∧ RecordsSince state.2 next := by
  obtain ⟨written, stands, same⟩ := Option.map_eq_some_iff.mp records.here
  constructor
  · intro other intake found
    by_cases here : other = pk
    · rw [here, stands, Option.some.injEq] at found
      rwa [← found, same]
    · have kept := records.elsewhere other here
      change findImport next other = _ at found
      rw [found, Option.map_some, eq_comm, Option.map_eq_some_iff] at kept
      obtain ⟨before, located, equal⟩ := kept
      exact equal ▸ custody other before located
  · intro other intake found
    by_cases here : other = pk
    · subst here
      exact ⟨written, stands, same ▸ since intake found⟩
    · have kept := records.elsewhere other here
      rw [found, Option.map_some, Option.map_eq_some_iff] at kept
      obtain ⟨after, located, equal⟩ := kept
      exact ⟨after, located, equal ▸ recordSince_refl _⟩

theorem sameFiles_custody {state : σ × Store} {next : Store} (custody : AllInCustody answer versions state)
    (same : SameFiles state.2 next) : AllInCustody answer versions (state.1, next) := by
  intro pk intake found
  have kept := same pk
  change findImport next pk = _ at found
  rw [found, Option.map_some, eq_comm, Option.map_eq_some_iff] at kept
  obtain ⟨before, located, equal⟩ := kept
  exact equal ▸ custody pk before located

variable {settings : Settings} {ucd : PyText.UnicodeDatabase} {env : Environment} {c : Call} {reply : c.Reply}
  {state : σ × Store} {next : Store}

/-- A call that knows what it records keeps every file in custody. -/
theorem execute_custody (custody : AllInCustody answer versions state)
    (entitled : Entitled answer versions state c)
    (done : execute settings ucd env c state.2 = .ok (reply, next)) :
    AllInCustody answer versions (state.1, next) ∧ RecordsSince state.2 next := by
  by_cases keeps : c.KeepsFiles
  · have same := execute_sameFiles keeps done
    exact ⟨sameFiles_custody custody same, sameFiles_since same⟩
  cases c with
  | createImport draft =>
    obtain ⟨absent, records⟩ := createImport_records done
    refine recorded_custody custody records ⟨entitled.1, entitled.2, fun named => absurd rfl named⟩ ?_
    intro intake found
    rw [absent] at found
    cases found
  | completeReceiving pk versionId =>
    obtain ⟨intake, found, receiving, records⟩ := completeReceiving_records done
    have kept := entitled intake found receiving
    have before := custody pk intake found
    have unversioned : (recordedFile intake).versionId = "" := by
      have consistent := state.2.importTable.consistent intake (ImportTable.find_some found).1
      simp only [SalesImport.MetadataConsistent, receiving] at consistent
      simp at consistent
      exact consistent.2.2.1
    refine recorded_custody custody records ⟨before.keyed, before.digest, fun _ _ => kept⟩ ?_
    intro other located
    obtain rfl := Option.some.inj (found.symm.trans located)
    exact ⟨rfl, fun _ same => same, fun named => absurd unversioned named, fun unkeyed => absurd unkeyed kept.key⟩
  | recordProvenance pk kmsKeyArn versionId =>
    obtain ⟨intake, found, lacking, records⟩ := recordProvenance_records done
    have kept := entitled intake found lacking
    have before := custody pk intake found
    refine recorded_custody custody records ⟨before.keyed, before.digest, fun _ _ => kept⟩ ?_
    intro other located
    obtain rfl := Option.some.inj (found.symm.trans located)
    simp only [lacksProvenance, Bool.and_eq_true, Bool.or_eq_true, decide_eq_true_eq] at lacking
    refine ⟨rfl, fun arn same => ?_, fun named => ?_, fun unkeyed => by cases unkeyed⟩
    · change intake.storageKmsKeyArn = some arn at same
      rw [lacking.1] at same
      cases same
    · change intake.storageVersionId ≠ "" at named
      rcases lacking.2 with waits | settled
      · exact absurd waits.2 named
      · refine if_neg ?_
        rcases settled.1.1 with received | failed
        · rw [received]
          simp
        · rw [failed]
          simp
  | _ => exact absurd trivial keeps

/-! ## The commands -/

variable (answer versions) in
/-- What every command relies on and keeps. -/
def custodyRely : Rely (σ × Store) where
  Holds := AllInCustody answer versions
  Since earlier later :=
    (∃ events, later.1 = run (afterCall answer) earlier.1 events) ∧ RecordsSince earlier.2 later.2
  since_refl state := ⟨⟨[], rfl⟩, recordsSince_refl _⟩
  since_trans := by
    rintro first second third ⟨⟨before, middle⟩, earlier⟩ ⟨⟨after, last⟩, later⟩
    exact ⟨⟨before ++ after, by rw [run_append, ← middle, last]⟩, earlier.trans later⟩

theorem storage_kept (c : S3Call) (now : σ × Store) (input : ι) (holds : (custodyRely answer versions).Holds now) :
    (custodyRely answer versions).Holds ((answer input c now.1).2, now.2) ∧
      (custodyRely answer versions).Since now ((answer input c now.1).2, now.2) :=
  ⟨fun pk intake found => (holds pk intake found).later [(c, input)], ⟨[(c, input)], rfl⟩, recordsSince_refl _⟩

theorem database_kept {now : σ × Store} (holds : (custodyRely answer versions).Holds now)
    (entitled : Entitled answer versions now c) :
    (custodyRely answer versions).Holds (now.1, (System.answer settings ucd env c now.2).2) ∧
      (custodyRely answer versions).Since now (now.1, (System.answer settings ucd env c now.2).2) := by
  rcases step_cases settings ucd now.2 (c, env) with same | ⟨reply, done⟩
  · change (System.answer settings ucd env c now.2).2 = now.2 at same
    rw [same]
    exact ⟨holds, (custodyRely answer versions).since_refl now⟩
  · obtain ⟨kept, since⟩ := execute_custody holds entitled done
    exact ⟨kept, ⟨[], rfl⟩, since⟩

variable (settings ucd answer) in
/-- The bucket and the database side by side. -/
abbrev services : ι × Environment → (c : S3Call ⊕ Call) → σ × Store →
    Sum.elim (S3Call.Answer β) (fun c : Call => Except PyError c.Reply) c × (σ × Store) :=
  beside answer (System.answer settings ucd)

variable {α : Type}

theorem upholds_inStorage (program : S3Program β α) {Q : Except PyError α → σ × Store → Prop}
    (ends : ∀ value now trace, (custodyRely answer versions).Since state now →
      Session answer (fun _ => True) (fun _ => True) program state.1 trace value now.1 → Q (.ok value) now) :
    Upholds (services answer settings ucd) (custodyRely answer versions) (inStorage program).run Q state := by
  refine upholds_bind ((upholds_onFirst storage_kept (fun since => since.1) program state).along.imp ?_)
  rintro value now ⟨since, trace, session⟩
  exact ends value now trace since session

theorem upholds_transact {Q : Except PyError c.Reply → σ × Store → Prop}
    (entitled : ∀ now, (custodyRely answer versions).Since state now → AllInCustody answer versions now →
      Entitled answer versions now c)
    (ends : ∀ now env, (custodyRely answer versions).Since state now → AllInCustody answer versions now →
      Q (System.answer settings ucd env c now.2).1 (now.1, (System.answer settings ucd env c now.2).2)) :
    Upholds (services answer settings ucd) (custodyRely answer versions) (inDatabase (transact c)).run Q state := by
  intro now since holds input
  obtain ⟨kept, moved⟩ := database_kept holds (entitled now since holds)
  exact ⟨kept, moved, ends now input.2 since holds⟩

theorem inDatabase_bind {γ : Type} (transaction : Transaction α) (f : α → Transaction γ) :
    (inDatabase (transaction >>= f) : FileProgram β γ) =
      inDatabase transaction >>= fun value => inDatabase (f value) := by
  refine (Program.onSecond_bind transaction.run _).trans (congrArg (fun next => transaction.run.onSecond >>= next) ?_)
  funext outcome
  cases outcome <;> rfl

theorem inDatabase_tryCatch (transaction : Transaction α) (handler : PyError → Transaction α) :
    (inDatabase (tryCatch transaction handler) : FileProgram β α) =
      tryCatch (inDatabase transaction) (fun e => inDatabase (handler e)) := by
  refine (Program.onSecond_bind transaction.run _).trans (congrArg (fun next => transaction.run.onSecond >>= next) ?_)
  funext outcome
  cases outcome <;> rfl

theorem keepsFiles_entitled (keeps : c.KeepsFiles) (now : σ × Store) :
    Entitled answer versions now c := by
  cases c with
  | createImport | completeReceiving | recordProvenance => exact keeps.elim
  | _ => trivial

/-- A program of transactions that record no file. -/
theorem upholds_plain {program : TransactionProgram α} (plain : program.All Call.KeepsFiles) (state : σ × Store) :
    Upholds (services answer settings ucd) (custodyRely answer versions) program.onSecond (fun _ _ => True) state := by
  refine upholds_all (all_onSecond plain) ?_ state
  intro c keeps now input holds
  cases c with
  | inl c => exact storage_kept c now input.1 holds
  | inr c => exact database_kept holds (keepsFiles_entitled keeps now)

theorem strip_append_visible (front rest : String) (visible : front.toList.any (fun c => !PyText.isspace c) = true) :
    PyText.strip (front ++ rest) ≠ "" := by
  intro empty
  have trimmed : trimBy PyText.isspace (front.toList ++ rest.toList) = [] := by
    rw [← String.toList_append, ← PyText.toList_strip, empty]
    rfl
  rw [trimBy, List.rdropWhile_eq_nil_iff] at trimmed
  obtain ⟨c, member, seen⟩ := List.any_eq_true.mp visible
  have inside : c ∈ front.toList ++ rest.toList := List.mem_append_left _ member
  rw [← List.takeWhile_append_dropWhile (p := PyText.isspace) (l := front.toList ++ rest.toList)] at inside
  have blank : PyText.isspace c = true := by
    rcases List.mem_append.mp inside with before | after
    · exact List.mem_takeWhile_imp before
    · exact trimmed c after
  rw [blank] at seen
  cases seen

theorem objectKey_visible (year month : Nat) (importId : Uuid) (fileFormat : SalesImport.FileFormat) :
    PyText.strip (objectKey year month importId fileFormat) ≠ "" := by
  unfold objectKey
  simp only [String.append_assoc]
  exact strip_append_visible _ _ (by decide +kernel)

theorem ReceiveRequest.digest {sha256 : List UInt8 → List UInt8} (request : ReceiveRequest sha256) :
    request.inspection = ⟨request.inspection.fileFormat, request.file.content.length,
      toHex (sha256 request.file.content)⟩ := by
  obtain ⟨casefold, validateXlsx, maxBytes, passed⟩ := request.passed
  exact (inspectContent_ok (inspectSalesFile_ok passed)).1

/-! ## What the storage has answered -/

variable {reading : β → Int → Reply UInt8 × β} {used : σ → String → String → String → Prop}
  {request : VersionRequest} {before after : σ} {trace : List (Performed S3Call ι σ)} {versionId : String}

theorem verified_kept (laws : Versioned answer reading versions used)
    (session : Session answer (fun _ => True) (fun _ => True) (verifyStored request) before trace (.ok versionId)
      after) :
    Kept answer versions after { request with versionId := versionId } ∧ PyText.strip versionId = versionId := by
  obtain ⟨expectedKey, version, performed, member, required, _, certified⟩ := verifyStored_certifies laws session
  exact ⟨⟨performed.before, version, expectedKey, required, certified, session.since member⟩,
    (laws.named certified.held).2⟩

theorem stored_kept (laws : Versioned answer reading versions used) {storage : OriginalFileStorage} {upload : Upload}
    {file reread : SpooledFile}
    (session : Session answer (fun _ => True) (fun _ => True) (store storage upload file) before trace
      (.ok versionId, reread) after) :
    Kept answer versions after (upload.request storage versionId) ∧ PyText.strip versionId = versionId := by
  obtain ⟨past, version, expectedKey, required, certified, _, _, since⟩ := store_certifies laws session
  exact ⟨⟨past, version, expectedKey, required, certified, since⟩, (laws.named certified.held).2⟩

theorem discovered_kept (laws : Versioned answer reading versions used) {provenance : DiscoveredKmsProvenance}
    (session : Session answer (fun _ => True) (fun _ => True) (discoverKmsProvenance request) before trace
      (.ok provenance) after) :
    Kept answer versions after { request with
        versionId := provenance.versionId
        expectedKmsKeyArn := some provenance.kmsKeyArn } ∧
      (request.versionId = "" ∨ provenance.versionId = request.versionId) ∧
      PyText.strip provenance.versionId = provenance.versionId ∧
      PyText.strip provenance.kmsKeyArn = provenance.kmsKeyArn := by
  obtain ⟨version, performed, member, required, asked, certified⟩ := discoverKmsProvenance_certifies laws session
  refine ⟨⟨performed.before, version, _, required, certified, session.since member⟩, asked,
    (laws.named certified.held).2, ?_⟩
  unfold requiredExpectedKmsKeyArn at required
  obtain ⟨_, required⟩ := passed_guard required
  obtain ⟨_, required⟩ := passed_guard required
  exact Except.ok.inj required

/-! ## What the commands know -/

/-- The intake stands, and its record goes back to this one. -/
def Recorded (store : Store) (pk : Uuid) (record : VersionRequest) : Prop :=
  ∃ intake, findImport store pk = some intake ∧ RecordSince record (recordedFile intake)

theorem Recorded.later {store later : Store} {pk : Uuid} {record : VersionRequest} (recorded : Recorded store pk record)
    (since : RecordsSince store later) : Recorded later pk record := by
  obtain ⟨intake, found, before⟩ := recorded
  obtain ⟨after, located, more⟩ := since pk intake found
  exact ⟨after, located, before.trans more⟩

theorem recorded_of_found {store : Store} {pk : Uuid} {intake : SalesImport}
    (found : findImport store pk = some intake) :
    Recorded store pk (recordedFile intake) := ⟨intake, found, recordSince_refl _⟩

/-- With a key the record can still change in its version only. -/
theorem RecordSince.versioned {record later : VersionRequest} (since : RecordSince record later)
    (keyed : record.expectedKmsKeyArn ≠ none) (versionId : String) :
    { later with versionId := versionId } = { record with versionId := versionId } := by
  obtain ⟨arn, given⟩ := Option.ne_none_iff_exists'.mp keyed
  have same := since.key arn given
  rw [← since.file, given, same]

/-- A version found for the record may be recorded for the intake. -/
theorem recorded_entitled {earlier now : σ × Store} {pk : Uuid} {record : VersionRequest}
    (recorded : Recorded earlier.2 pk record)
    (kept : Kept answer versions earlier.1 { record with versionId := versionId })
    (stripped : PyText.strip versionId = versionId) (since : (custodyRely answer versions).Since earlier now) :
    Entitled answer versions now (.completeReceiving pk versionId) := by
  obtain ⟨⟨events, reached⟩, moved⟩ := since
  obtain ⟨later, located, changed⟩ := recorded.later moved
  intro intake found _
  obtain rfl := Option.some.inj (located.symm.trans found)
  rw [stripped, changed.versioned kept.key versionId, reached]
  exact kept.later events

/-- A version and a key found together may be recorded for an intake that lacks the key. -/
theorem discovered_entitled {earlier now : σ × Store} {pk : Uuid} {record : VersionRequest}
    {provenance : DiscoveredKmsProvenance} (recorded : Recorded earlier.2 pk record)
    (kept : Kept answer versions earlier.1 { record with
      versionId := provenance.versionId
      expectedKmsKeyArn := some provenance.kmsKeyArn })
    (asked : record.versionId = "" ∨ provenance.versionId = record.versionId)
    (version : PyText.strip provenance.versionId = provenance.versionId)
    (key : PyText.strip provenance.kmsKeyArn = provenance.kmsKeyArn)
    (since : (custodyRely answer versions).Since earlier now) :
    Entitled answer versions now
      (.recordProvenance pk provenance.kmsKeyArn provenance.versionId) := by
  obtain ⟨⟨events, reached⟩, moved⟩ := since
  obtain ⟨later, located, changed⟩ := recorded.later moved
  intro intake found lacking
  obtain rfl := Option.some.inj (located.symm.trans found)
  have named : (if later.status = .receiving then PyText.strip provenance.versionId else later.storageVersionId) =
      provenance.versionId := by
    split_ifs with receiving
    · exact version
    · simp only [lacksProvenance, Bool.and_eq_true, Bool.or_eq_true, decide_eq_true_eq] at lacking
      have stored : later.storageVersionId ≠ "" :=
        lacking.2.elim (fun waits => absurd waits.1.1 receiving) (fun settled => settled.2)
      have same : later.storageVersionId = record.versionId := changed.legacy lacking.1
      rw [same] at stored ⊢
      exact (asked.resolve_left stored).symm
  rw [named, key, reached]
  rw [← changed.file] at kept
  exact kept.later events

/-! ## The commands keep the files -/

variable (settings ucd) in
/-- Wherever it starts and whatever the others do, the command keeps the files in custody. -/
def KeepsCustody (answer : ι → (c : S3Call) → σ → c.Answer β × σ)
    (versions : σ → String → String → String → Option StoredVersion) (command : FileProgram β α) : Prop :=
  ∀ state, Upholds (services answer settings ucd) (custodyRely answer versions) command.run (fun _ _ => True) state

section Receiving
variable {sha256 : List UInt8 → List UInt8} (request : ReceiveRequest sha256) (storage : OriginalFileStorage)

/-- The draft as the command completes it. -/
def ReceiveRequest.created (ucd : PyText.UnicodeDatabase) (filename : String) : IntakeDraft :=
  { request.draft storage filename with sourceSystem := PyText.upper ucd (PyText.strip request.sourceSystem) }

theorem recordedFile_created (filename : String) (createdAt : Instant) :
    recordedFile (newImport ucd (request.created storage ucd filename) createdAt) =
      request.upload.request storage "" := by
  have stripped := PyText.strip_of_stripped storage.concrete.1
  simp only [recordedFile, newImport, ReceiveRequest.created, ReceiveRequest.draft, ReceiveRequest.upload,
    Upload.request, stripped]

/-- The new intake records the file as it will be stored. -/
theorem createImport_recorded (filename : String) (state : σ × Store) :
    Upholds (services answer settings ucd) (custodyRely answer versions)
      (inDatabase (tryCatch
        (do
          let _ ← transact (.createImport (request.created storage ucd filename))
          return none)
        (concurrentImport (PyText.upper ucd (PyText.strip request.sourceSystem)) request.inspection.sha256)) :
        FileProgram β (Option Uuid)).run
      (fun outcome now => outcome = .ok none → Recorded now.2 request.importId (request.upload.request storage ""))
      state := by
  rw [inDatabase_tryCatch, inDatabase_bind]
  have entitled : ∀ now : σ × Store, Entitled answer versions now
      (.createImport (request.created storage ucd filename)) := fun _ =>
    ⟨objectKey_visible _ _ _ _, _, congrArg InspectedSalesFile.sha256 request.digest⟩
  refine upholds_catch (upholds_then (upholds_transact (fun now _ _ => entitled now) (fun now env _ _ => ?_)))
  generalize ran : System.answer settings ucd env _ now.2 = result
  obtain ⟨outcome, next⟩ := result
  cases outcome with
  | ok job =>
    intro _
    obtain ⟨_, records⟩ := createImport_records (answer_ok settings ucd ran)
    obtain ⟨intake, found, same⟩ := Option.map_eq_some_iff.mp records.here
    rw [recordedFile_created] at same
    exact ⟨intake, found, same ▸ recordSince_refl _⟩
  | error e =>
    dsimp only
    unfold concurrentImport
    split
    · rw [inDatabase_bind]
      refine upholds_then (upholds_transact (fun _ _ _ => trivial) (fun now env _ _ => ?_))
      split
      · split
        · intro same
          cases same
        · intro same
          cases same
      · intro same
        cases same
    · intro same
      cases same

/-- A version that the upload gives is the recorded file. -/
theorem stored_upholds (laws : Versioned answer reading versions used) (state : σ × Store) :
    Upholds (services answer settings ucd) (custodyRely answer versions) (request.stored storage).run
      (fun outcome now => (custodyRely answer versions).Since state now ∧ ∀ versionId, outcome = .ok (some versionId) →
        Kept answer versions now.1 (request.upload.request storage versionId) ∧
          PyText.strip versionId = versionId) state := by
  refine Upholds.along (upholds_then (upholds_inStorage _ ?_))
  rintro ⟨failure | versionId, reread⟩ now trace since session
  · cases failure with
    | valueError =>
      intro other same
      cases same
    | uploadError message | storage failure =>
      intro other same
      cases same
  · intro other same
    obtain rfl := Option.some.inj (Except.ok.inj same)
    exact stored_kept laws session

theorem receiveOriginalFile_keeps (laws : Versioned answer reading versions used) :
    KeepsCustody settings ucd answer versions (receiveOriginalFile request ucd storage) := by
  intro start
  unfold receiveOriginalFile receiveSalesImport
  refine upholds_then (upholds_transact (fun _ _ _ => trivial) (fun now env _ _ => ?_))
  split
  swap
  · trivial
  rename_i existing _
  cases existing with
  | some existing =>
    refine upholds_then (upholds_transact (fun _ _ _ => trivial) (fun _ _ _ _ => ?_))
    split <;> trivial
  | none =>
    dsimp only
    cases normalizedFilename request.file.name with
    | error e => trivial
    | ok filename =>
      refine upholds_then (upholds_pure ?_)
      refine upholds_then ((createImport_recorded request storage filename _).imp ?_)
      intro outcome created recorded
      cases outcome with
      | error e => trivial
      | ok concurrent =>
        cases concurrent with
        | some existing => trivial
        | none =>
          refine upholds_then ((stored_upholds request storage laws created).imp ?_)
          rintro uploaded after ⟨since, named⟩
          cases uploaded with
          | error e => trivial
          | ok versionId =>
            cases versionId with
            | none => trivial
            | some versionId =>
              obtain ⟨kept, stripped⟩ := named versionId rfl
              have known := (recorded rfl).later since.2
              refine upholds_then (upholds_transact (fun later since _ => recorded_entitled known kept stripped since)
                (fun _ _ _ _ => ?_))
              split <;> trivial

end Receiving

theorem reconcileImport_keeps {earlier : σ × Store} {pk : Uuid} {record : VersionRequest} {checked : StorageCheck}
    (recorded : Recorded earlier.2 pk record)
    (kept : ∀ versionId, checked = .stored versionId →
      Kept answer versions earlier.1 { record with versionId := versionId } ∧ PyText.strip versionId = versionId) :
    Upholds (services answer settings ucd) (custodyRely answer versions)
      (inDatabase (reconcileImport pk checked) : FileProgram β Reconciled).run
      (fun _ now => (custodyRely answer versions).Since earlier now) earlier := by
  have settled : ∀ (result : Reconciled) {transaction : Transaction SalesImportJob},
      Upholds (services answer settings ucd) (custodyRely answer versions)
        (inDatabase transaction : FileProgram β SalesImportJob).run (fun _ _ => True) earlier →
      Upholds (services answer settings ucd) (custodyRely answer versions)
        (inDatabase (unlessFinished result transaction) : FileProgram β Reconciled).run (fun _ _ => True) earlier := by
    intro result transaction upheld
    unfold unlessFinished
    rw [inDatabase_tryCatch, inDatabase_bind]
    refine upholds_catch (upholds_then (upheld.imp ?_))
    intro outcome now _
    cases outcome with
    | ok job => trivial
    | error e =>
      dsimp only
      split_ifs <;> trivial
  refine Upholds.imp (Upholds.along (?_ : Upholds (services answer settings ucd) (custodyRely answer versions)
    (inDatabase (reconcileImport pk checked) : FileProgram β Reconciled).run (fun _ _ => True) earlier))
    (fun _ _ reached => reached.1)
  cases checked with
  | stored versionId =>
    obtain ⟨certified, stripped⟩ := kept versionId rfl
    exact settled .received (upholds_transact (fun _ since _ => recorded_entitled recorded certified stripped since)
      (fun _ _ _ _ => trivial))
  | notFound | verificationFailed =>
    exact settled .failed (upholds_transact (fun _ _ _ => trivial) (fun _ _ _ _ => trivial))
  | unavailable => trivial

/-- A version that the check reports is the recorded file. -/
theorem checkedInStorage_upholds (laws : Versioned answer reading versions used) (intake : SalesImport)
    (state : σ × Store) :
    Upholds (services answer settings ucd) (custodyRely answer versions)
      (checkedInStorage intake : FileProgram β StorageCheck).run
      (fun outcome now => (custodyRely answer versions).Since state now ∧
        ∀ versionId, outcome = .ok (.stored versionId) →
          Kept answer versions now.1 { recordedFile intake with versionId := versionId } ∧
            PyText.strip versionId = versionId) state := by
  unfold checkedInStorage
  -- Named, so that unification does not run the program.
  generalize verifying : (verifyStored { recordedFile intake with versionId := "" } :
    S3Program β (Except DownloadFailure String)) = program
  refine Upholds.along (upholds_then (upholds_inStorage program ?_))
  intro checked now trace since session
  subst verifying
  refine upholds_pure ?_
  intro versionId same
  cases checked with
  | error failure => cases failure <;> cases same
  | ok found =>
    obtain rfl := StorageCheck.stored.inj (Except.ok.inj same)
    have certified := verified_kept laws session
    exact certified

theorem reconcileEach_keeps (laws : Versioned answer reading versions used) (imports : List SalesImport)
    (state : σ × Store) (recorded : ∀ intake ∈ imports, Recorded state.2 intake.id (recordedFile intake)) :
    Upholds (services answer settings ucd) (custodyRely answer versions)
      (reconcileEach inDatabase checkedInStorage imports : FileProgram β (List Reconciled)).run (fun _ _ => True)
      state := by
  induction imports generalizing state with
  | nil => trivial
  | cons intake rest ih =>
    unfold reconcileEach
    have checking := @checkedInStorage_upholds σ ι β answer versions settings ucd reading used laws intake state
    generalize (checkedInStorage intake : FileProgram β StorageCheck) = program at checking ⊢
    refine upholds_then (checking.imp ?_)
    rintro checked after ⟨since, found⟩
    cases checked with
    | error e => trivial
    | ok checked =>
      have mine := (recorded intake List.mem_cons_self).later since.2
      have settling := @reconcileImport_keeps σ ι β answer versions settings ucd after intake.id _ checked mine
        (fun versionId stored => found versionId (congrArg _ stored))
      refine upholds_then (settling.imp ?_)
      intro outcome now more
      cases outcome with
      | error e => trivial
      | ok reconciled =>
        refine upholds_then ((ih now ?_).imp ?_)
        · intro other member
          exact ((recorded other (List.mem_cons_of_mem _ member)).later since.2).later more.2
        · intro others _ _
          cases others <;> trivial

theorem reconcileStoredImports_keeps (laws : Versioned answer reading versions used) (graceMinutes : Int)
    (now : Instant) :
    KeepsCustody settings ucd answer versions (reconcileStoredImports graceMinutes now) := by
  intro start
  unfold reconcileStoredImports reconcileSalesImports
  split_ifs
  · trivial
  refine upholds_then (upholds_transact (fun _ _ _ => trivial) (fun state env _ _ => ?_))
  generalize ran : System.answer settings ucd env _ state.2 = result
  obtain ⟨outcome, next⟩ := result
  cases outcome with
  | error e => trivial
  | ok imports =>
    have listed := Prod.mk.inj (Except.ok.inj (answer_ok settings ucd ran))
    refine upholds_then ((reconcileEach_keeps laws _ _ ?_).imp ?_)
    · intro intake member
      have inside := List.mem_mergeSort.mp member
      rw [← listed.1] at inside
      rw [← listed.2]
      exact recorded_of_found (ImportTable.find_of_mem (List.mem_of_mem_filter inside))
    · intro results _ _
      cases results with
      | error e => trivial
      | ok results =>
        dsimp only
        split_ifs <;> trivial

/-- A version and a key that are discovered belong to the recorded file. -/
theorem discoveredInStorage_upholds (laws : Versioned answer reading versions used)
    (configuration : StorageSettings) (intake : SalesImport) (state : σ × Store) :
    Upholds (services answer settings ucd) (custodyRely answer versions)
      (discoveredInStorage configuration intake : FileProgram β (Except String DiscoveredKmsProvenance)).run
      (fun outcome now => (custodyRely answer versions).Since state now ∧
        ∀ provenance, outcome = .ok (.ok provenance) →
          Kept answer versions now.1 { recordedFile intake with
            versionId := provenance.versionId
            expectedKmsKeyArn := some provenance.kmsKeyArn } ∧
          ((recordedFile intake).versionId = "" ∨ provenance.versionId = (recordedFile intake).versionId) ∧
          PyText.strip provenance.versionId = provenance.versionId ∧
          PyText.strip provenance.kmsKeyArn = provenance.kmsKeyArn) state := by
  unfold discoveredInStorage
  split
  · refine Upholds.along (upholds_pure ?_)
    intro provenance same
    cases same
  -- Named, so that unification does not run the program.
  generalize discovering : (discoverKmsProvenance (recordedFile intake) :
    S3Program β (Except DownloadFailure DiscoveredKmsProvenance)) = program
  refine Upholds.along (upholds_then (upholds_inStorage program ?_))
  intro discovered now trace since session
  subst discovering
  refine upholds_pure ?_
  intro provenance same
  cases discovered with
  | error failure => cases same
  | ok found =>
    obtain rfl := Except.ok.inj (Except.ok.inj same)
    exact discovered_kept laws session

/-- The intake that the backfill reads is the recorded file. -/
theorem readImport_recorded (pk : Uuid) (state : σ × Store) :
    Upholds (services answer settings ucd) (custodyRely answer versions)
      (inDatabase (tryCatch (transact (.readImport pk)) (fun e =>
        if e = .doesNotExist then throw (.commandError ("No sales import exists for " ++ toString pk ++ "."))
        else throw e)) : FileProgram β SalesImport).run
      (fun outcome now => ∀ intake, outcome = .ok intake → Recorded now.2 pk (recordedFile intake)) state := by
  rw [inDatabase_tryCatch]
  refine upholds_catch (upholds_transact (fun _ _ _ => trivial) (fun now env _ _ => ?_))
  generalize ran : System.answer settings ucd env _ now.2 = result
  obtain ⟨outcome, next⟩ := result
  cases outcome with
  | error e =>
    dsimp only
    split_ifs
    · intro intake same
      cases same
    · intro intake same
      cases same
  | ok intake =>
    intro other same
    obtain rfl := Except.ok.inj same
    have done := answer_ok settings ucd ran
    change answered (findImport now.2 pk) now.2 = _ at done
    cases found : findImport now.2 pk with
    | none =>
      rw [found] at done
      cases done
    | some located =>
      rw [found] at done
      obtain ⟨rfl, rfl⟩ := Prod.mk.inj (Except.ok.inj done)
      exact recorded_of_found found

theorem backfillStoredKms_keeps (laws : Versioned answer reading versions used) (configuration : StorageSettings)
    (pk : Uuid) : KeepsCustody settings ucd answer versions (backfillStoredKms configuration pk) := by
  intro start
  unfold backfillStoredKms backfillSalesImportKms
  refine upholds_then ((readImport_recorded pk start).imp ?_)
  intro outcome now recorded
  cases outcome with
  | error e => trivial
  | ok intake =>
    dsimp only
    split_ifs with known recoverable
    · trivial
    · trivial
    refine upholds_then ((discoveredInStorage_upholds laws configuration intake now).imp ?_)
    rintro discovered after ⟨since, found⟩
    cases discovered with
    | error e => trivial
    | ok discovered =>
      cases discovered with
      | error message => trivial
      | ok provenance =>
        obtain ⟨kept, asked, version, key⟩ := found provenance rfl
        have mine := (recorded intake rfl).later since.2
        dsimp only
        rw [inDatabase_tryCatch]
        refine upholds_catch (upholds_transact ?_ (fun _ _ _ _ => ?_))
        · exact fun later moved _ => discovered_entitled mine kept asked version key moved
        · split
          · trivial
          · split_ifs <;> trivial

/-! ## The worker records no file -/

theorem claimNextJob_plain (workerId : String) (leaseDuration : Duration) :
    AllCalls Call.KeepsFiles (claimNextJob workerId leaseDuration) := by
  unfold claimNextJob
  split
  · exact allCalls_throw _
  · split
    · exact allCalls_throw _
    · exact (allCalls_request trivial).bind (fun _ => allCalls_request trivial)

theorem processClaim_plain (claim : SalesImportClaim) (download : Download) (wait : LockWait) :
    AllCalls Call.KeepsFiles (processClaim settings ucd claim download wait) := by
  refine (processClaim_under settings ucd claim download wait).mono ?_
  rintro c (lease | ⟨pk, rfl⟩ | ⟨jobId, rfl⟩)
  · cases c <;> trivial
  · trivial
  · trivial

theorem processSalesImports_plain (workerId : String) (files : SalesImportClaim → Download × LockWait)
    (maxJobs : Int) (generated : String) (storage : Except String Unit) :
    (processSalesImports settings ucd workerId files maxJobs generated storage).All Call.KeepsFiles := by
  have loop : ∀ workerId left results,
      (claimedJobs settings ucd workerId files left results).All Call.KeepsFiles := by
    intro workerId left
    induction left with
    | zero => exact fun results => .done _
    | succ left ih =>
      intro results
      unfold claimedJobs
      refine Program.All.bind (claimNextJob_plain workerId defaultLeaseDuration) (fun claimed => ?_)
      split
      · exact .done _
      · exact .done _
      · rename_i claim
        refine Program.All.bind (processClaim_plain claim (files claim).1 (files claim).2) (fun processed => ?_)
        split
        · exact .done _
        · exact ih _
  unfold processSalesImports
  by_cases limited : maxJobs < 1
  · rw [if_pos limited]
    exact .done _
  · rw [if_neg limited]
    split
    · exact .done _
    · exact loop _ _ _

/-! ## Any number of parties -/

variable (β) in
/-- The commands, any other program of transactions that records no file, and other users of the bucket. -/
inductive Party (sha256 : List UInt8 → List UInt8) where
  | receive (request : ReceiveRequest sha256) (storage : OriginalFileStorage)
  | reconcile (graceMinutes : Int) (now : Instant)
  | backfill (configuration : StorageSettings) (pk : Uuid)
  | work (workerId : String) (files : SalesImportClaim → Download × LockWait) (maxJobs : Int) (generated : String)
      (storage : Except String Unit)
  | transactions (program : TransactionProgram Unit) (plain : program.All Call.KeepsFiles)
  | bucket (program : S3Program β Unit)

variable (settings ucd) in
def Party.program {sha256 : List UInt8 → List UInt8} :
    Party β sha256 → Program (Sum.elim (S3Call.Answer β) (fun c : Call => Except PyError c.Reply)) Unit
  | .receive request storage => (receiveOriginalFile request ucd storage).run >>= fun _ => .done ()
  | .reconcile graceMinutes now => (reconcileStoredImports graceMinutes now).run >>= fun _ => .done ()
  | .backfill configuration pk => (backfillStoredKms configuration pk).run >>= fun _ => .done ()
  | .work workerId files maxJobs generated storage =>
      (processSalesImports settings ucd workerId files maxJobs generated storage).onSecond >>= fun _ => .done ()
  | .transactions program _ => program.onSecond
  | .bucket program => program.onFirst

theorem party_upholds (laws : Versioned answer reading versions used) {sha256 : List UInt8 → List UInt8}
    (party : Party β sha256) (state : σ × Store) :
    Upholds (services answer settings ucd) (custodyRely answer versions) (party.program settings ucd)
      (fun _ _ => True) state := by
  cases party with
  | receive request storage => exact upholds_bind (receiveOriginalFile_keeps request storage laws state)
  | reconcile graceMinutes now => exact upholds_bind (reconcileStoredImports_keeps laws graceMinutes now state)
  | backfill configuration pk => exact upholds_bind (backfillStoredKms_keeps laws configuration pk state)
  | work workerId files maxJobs generated storage =>
    exact upholds_bind (upholds_plain (processSalesImports_plain workerId files maxJobs generated storage) state)
  | transactions program all => exact upholds_plain all state
  | bucket program =>
    exact (upholds_onFirst storage_kept (fun since => since.1) program state).imp (fun _ _ _ => trivial)

variable (settings ucd answer) in
/-- The bucket and the database after a schedule of the calls of some parties. -/
def served {sha256 : List UInt8 → List UInt8} (start : σ × Store) (parties : List (Party β sha256))
    (schedule : List (Nat × (ι × Environment))) : σ × Store :=
  (run (Pool.step (services answer settings ucd)) ⟨start, parties.map (Party.program settings ucd)⟩ schedule).state

/-- However the parties are interleaved, an intake that records a version and a key can be opened from then on as
bytes of the recorded size and digest, whatever anybody does to the bucket; short of a deletion, of S3 or its stream
failing, and of an exception in the progress callback, it is these bytes. -/
theorem files_in_custody (laws : Versioned answer reading versions used) (sha256 : List UInt8 → List UInt8)
    (checksummed : Checksummed sha256 versions) (settings : Settings) (ucd : PyText.UnicodeDatabase)
    (start : σ × Store) (custody : AllInCustody answer versions start) (parties : List (Party β sha256))
    (schedule : List (Nat × (ι × Environment))) :
    ∀ intake ∈ (served answer settings ucd start parties schedule).2.importTable.imports,
      intake.storageVersionId ≠ "" → intake.storageKmsKeyArn ≠ none →
        ∃ bytes, bytes.length = intake.sizeBytes ∧ toHex (sha256 bytes) = intake.sha256 ∧
          ∀ (ε : Type) (progress : Option (Nat → Option ε)) (trace : List (Performed S3Call ι σ))
            (outcome : Except (Raised ε) SpooledFile × Observed) (final : σ),
            Session answer (fun _ => True) (fun _ => True)
                (openRecorded reading progress (fun bytes => toHex (sha256 bytes)) (recordedFile intake))
                (served answer settings ucd start parties schedule).1 trace outcome final →
              Opened answer reading versions progress (recordedFile intake) bytes trace outcome := by
  have reached : AllInCustody answer versions (served answer settings ucd start parties schedule) := by
    have upheld : ∀ program ∈ parties.map (Party.program settings ucd),
        Upholds (services answer settings ucd) (custodyRely answer versions) program (fun _ _ => True) start := by
      intro program member
      obtain ⟨party, _, rfl⟩ := List.mem_map.mp member
      exact party_upholds laws party start
    exact (Pool.upheld ⟨start, parties.map (Party.program settings ucd)⟩ custody upheld schedule).1
  intro intake member named keyed
  have mine := reached intake.id intake (ImportTable.find_of_mem member)
  obtain ⟨digest, canonical⟩ := mine.digest
  obtain ⟨past, version, expectedKey, required, certified, since⟩ := mine.kept named keyed
  obtain ⟨length, sum⟩ := Certified.recorded checksummed canonical certified
  refine ⟨version.bytes, length, sum, ?_⟩
  intro ε progress trace outcome final session
  exact certified.opens laws _ (recordedFile intake) required mine.keyed since length sum session

end Custody

/-! ## An upload that reconciliation overtakes -/

namespace Sample

def file : UploadedFile where
  name := "sales.csv"
  size := some 3
  content := Storage.Sample.abc
  digestChunks := ⟨[Storage.Sample.abc], List.flatten_singleton⟩
  csvChunks := ⟨[Storage.Sample.abc], List.flatten_singleton⟩

def request : ReceiveRequest Storage.Sample.sha256 where
  file := file
  inspection := ⟨.csv, 3, toHex (Storage.Sample.sha256 Storage.Sample.abc)⟩
  passed := ⟨id, fun _ _ => .ok (), 9, by decide +kernel⟩
  sourceSystem := " erp "
  contentType := "text/csv"
  uploadedById := 1
  importId := 3
  year := 2026
  month := 2

/-- No upload yet. -/
def store : Store := Publication.Snapshot.shown ⟨FactTable.empty, Validation.Sample.master⟩

/-- The upload, the reconciliation, and a client that puts the object a second time. -/
def parties : List (Party (List UInt8) Storage.Sample.sha256) :=
  [.receive request Storage.Sample.storage, .reconcile 1 100000000,
    .bucket (.call (.putObject (request.upload.object Storage.Sample.storage
      "ungWv48Bz+pBQUDeXa4iI7ADYaOWF3qctBD/YfIAFa0=" Storage.Sample.abc)) (fun _ => .done ()))]

def schedule : List (Nat × (Unit × Environment)) :=
  [0, 0, 0, 1, 2, 1, 1, 0, 0].map (fun choice => (choice, ((), System.Sample.environment 5 0 0)))

end Sample

/-- The second version is recorded, and the upload's own attempt to record the first one fails. -/
theorem files_in_custody_sample :
    ∃ intake ∈ (served Storage.Sample.answer Publication.Sample.settings PyText.asciiDatabase ([], Sample.store)
        Sample.parties Sample.schedule).2.importTable.imports,
      intake.storageVersionId = "vv" ∧
        ∃ bytes, bytes.length = intake.sizeBytes ∧ toHex (Storage.Sample.sha256 bytes) = intake.sha256 ∧
          ∀ (ε : Type) (progress : Option (Nat → Option ε))
            (trace : List (Performed S3Call Unit (List Storage.Sample.Slot)))
            (outcome : Except (Raised ε) SpooledFile × Observed) (final : List Storage.Sample.Slot),
            Session Storage.Sample.answer (fun _ => True) (fun _ => True)
                (openRecorded (readUpTo 2) progress (fun bytes => toHex (Storage.Sample.sha256 bytes))
                  (recordedFile intake))
                (served Storage.Sample.answer Publication.Sample.settings PyText.asciiDatabase ([], Sample.store)
                  Sample.parties Sample.schedule).1 trace outcome final →
              Opened Storage.Sample.answer (readUpTo 2) Storage.Sample.versions progress (recordedFile intake) bytes
                trace outcome := by
  have stands : ((served Storage.Sample.answer Publication.Sample.settings PyText.asciiDatabase ([], Sample.store)
      Sample.parties Sample.schedule).2.importTable.imports.map (fun intake =>
        (intake.storageVersionId, intake.storageKmsKeyArn))) = [("vv", some Storage.Sample.storage.kmsKeyArn)] := by
    decide +kernel
  obtain ⟨intake, member, same⟩ := List.mem_map.mp (stands ▸ List.mem_singleton_self _)
  obtain ⟨version, key⟩ := Prod.mk.inj same
  refine ⟨intake, member, version, ?_⟩
  have empty : AllInCustody Storage.Sample.answer Storage.Sample.versions ([], Sample.store) := by
    intro pk intake found
    cases found
  exact files_in_custody Storage.Sample.versioned Storage.Sample.sha256 Storage.Sample.checksummed
    Publication.Sample.settings PyText.asciiDatabase ([], Sample.store) empty Sample.parties Sample.schedule intake
    member (by rw [version]; decide) (by rw [key]; simp)

end PharmaIntel.Custody
