import Mathlib
import PharmaIntel.Base.Session
import PharmaIntel.Storage

/-! The original file in a versioned bucket that others use too: it is put, its version is
checked, and that version is opened again later. What S3 does with a call is a parameter. -/

namespace PharmaIntel.Storage
open PharmaIntel.Base PharmaIntel.System

/-! ## The calls -/

structure PutObject where
  bucket : String
  key : String
  body : List UInt8
  contentLength : Nat
  contentType : String
  checksumSha256 : String
  sseKmsKeyId : String
  metadata : Dict String String
  deriving DecidableEq, Repr

structure PutResponse where
  versionId : Option String
  checksumSha256 : Option String
  deriving DecidableEq, Repr

/-- Calls to S3; the storage itself never deletes. -/
inductive S3Call where
  | putObject (object : PutObject)
  | headObject (bucket key : String) (versionId : Option String)
  | getObject (bucket key versionId : String)
  | deleteObject (bucket key : String) (versionId : Option String)

/-- An exception of `put_object` is one of the storage's own, where its client cannot be made. -/
def S3Call.Answer (β : Type) : S3Call → Type
  | .putObject _ => Except (Option DownloadFailure) PutResponse
  | .headObject .. => Except String StoredObject
  | .getObject .. => GetObject β
  | .deleteObject .. => Unit

abbrev S3Program (β α : Type) : Type := Program (S3Call.Answer β) α

/-! ## The storage -/

/-- `S3OriginalFileStorage`, once it is configured. -/
structure OriginalFileStorage where
  bucketName : String
  kmsKeyArn : String
  named : PyText.Stripped bucketName ∧ bucketName ≠ ""
  concrete : PyText.Stripped kmsKeyArn ∧ Intake.isKmsKeyArn kmsKeyArn = true

/-- The settings of the S3 bucket, its key and its region. -/
structure StorageSettings where
  bucketName : String
  kmsKeyArn : String
  regionName : String

/-- `get_sales_import_storage`: `S3OriginalFileStorage.__init__` with the settings. -/
def getSalesImportStorage (settings : StorageSettings) : Except DownloadFailure OriginalFileStorage :=
  if configured : PyText.strip settings.bucketName = "" ∨ PyText.strip settings.kmsKeyArn = "" ∨
      PyText.strip settings.regionName = "" then
    .error (.storageError "Sales-import S3 storage is not fully configured.")
  else if concrete : Intake.isKmsKeyArn (PyText.strip settings.kmsKeyArn) = true then
    .ok ⟨PyText.strip settings.bucketName, PyText.strip settings.kmsKeyArn,
      ⟨PyText.strip_stripped settings.bucketName, fun empty => configured (Or.inl empty)⟩,
      ⟨PyText.strip_stripped settings.kmsKeyArn, concrete⟩⟩
  else .error (.storageError "Sales-import storage requires a concrete KMS key ARN, not an alias.")

/-- The arguments of `store`, but for the file. -/
structure Upload where
  objectKey : String
  sizeBytes : Nat
  sha256 : String
  contentType : String
  importId : String
  dataContract : String
  rowContract : String
  deriving DecidableEq, Repr

inductive StoreFailure where
  | valueError
  | uploadError (message : String)
  | storage (failure : DownloadFailure)
  deriving DecidableEq

/-- The error codes of an object or a version that is not there. -/
def absentCodes : List String := ["404", "NoSuchKey", "NoSuchVersion", "NotFound"]

section Calls
variable {β : Type}

/-- `S3OriginalFileStorage.verify`; without a version id it checks the latest version. -/
def verifyStored (request : VersionRequest) : S3Program β (Except DownloadFailure String) :=
  match requiredExpectedKmsKeyArn request.expectedKmsKeyArn with
  | .error failure => .done (.error failure)
  | .ok expectedKey =>
      if PyText.strip request.bucketName = "" then
        .done (.error (.verificationError "The recorded S3 bucket is missing."))
      else
        .call (.headObject request.bucketName request.objectKey
            (if request.versionId = "" then none else some request.versionId))
          (fun (answered : Except String StoredObject) =>
            match answered with
            | .error errorCode =>
                if errorCode ∈ absentCodes then
                  .done (.error (.notFoundError "The recorded S3 object was not found."))
                else .done (.error (.storageError "The stored object could not be checked in S3."))
            | .ok stored =>
                .done (validateStoredObject stored { request with expectedKmsKeyArn := some expectedKey }))

/-- `discover_kms_provenance`. -/
def discoverKmsProvenance (request : VersionRequest) : S3Program β (Except DownloadFailure DiscoveredKmsProvenance) :=
  if PyText.strip request.bucketName = "" ∨ PyText.strip request.objectKey = "" then
    .done (.error (.kmsProvenanceError "Legacy KMS provenance requires a recorded bucket and object key."))
  else
    .call (.headObject request.bucketName request.objectKey
        (if request.versionId = "" then none else some request.versionId))
      (fun (answered : Except String StoredObject) =>
        match answered with
        | .error errorCode =>
            if errorCode ∈ absentCodes then
              .done (.error (.notFoundError "The recorded S3 object version was not found."))
            else .done (.error (.storageError "The stored object could not be checked in S3."))
        | .ok stored =>
            let discoveredKey := PyText.strip (stored.sseKmsKeyId.getD "")
            if Intake.isKmsKeyArn discoveredKey = false then
              .done (.error (.verificationError
                "S3 did not report a concrete KMS key ARN for the exact version."))
            else
              .done ((validateStoredObject stored { request with expectedKmsKeyArn := some discoveredKey }).map
                (fun versionId => ⟨discoveredKey, versionId⟩)))

/-- What an intake records about its file. -/
def Upload.request (upload : Upload) (storage : OriginalFileStorage) (versionId : String) : VersionRequest where
  bucketName := storage.bucketName
  objectKey := upload.objectKey
  versionId := versionId
  sizeBytes := upload.sizeBytes
  sha256 := upload.sha256
  importId := upload.importId
  dataContract := upload.dataContract
  rowContract := upload.rowContract
  expectedKmsKeyArn := some storage.kmsKeyArn

def Upload.object (upload : Upload) (storage : OriginalFileStorage) (checksum : String) (body : List UInt8) :
    PutObject where
  bucket := storage.bucketName
  key := upload.objectKey
  body := body
  contentLength := upload.sizeBytes
  contentType := if upload.contentType = "" then "application/octet-stream" else upload.contentType
  checksumSha256 := checksum
  sseKmsKeyId := storage.kmsKeyArn
  metadata := Dict.ofPairs [("sha256", upload.sha256), ("sales-import-id", upload.importId),
    ("data-contract", upload.dataContract), ("row-contract", upload.rowContract)]

/-- `S3OriginalFileStorage.store`, and the file as it leaves it. -/
def store (storage : OriginalFileStorage) (upload : Upload) (file : SpooledFile) :
    S3Program β (Except StoreFailure String × SpooledFile) :=
  match fromHex upload.sha256.toList with
  | none => .done (.error .valueError, file)
  | some digest =>
      let checksum := String.ofList (base64Encode digest)
      let start := file.seek 0
      .call (.putObject (upload.object storage checksum (start.content.drop start.position)))
        (fun (answered : Except (Option DownloadFailure) PutResponse) =>
          match answered with
          | .error none => .done (.error (.uploadError "S3 rejected the original-file upload."), start)
          | .error (some failure) => .done (.error (.storage failure), start)
          | .ok response =>
              let versionId := PyText.strip (response.versionId.getD "")
              if versionId = "" then
                .done (.error (.storage (.storageError "S3 did not return a version for the stored object.")), start)
              else if response.checksumSha256 ≠ some checksum then
                .done (.error (.storage (.verificationError "S3 did not confirm the uploaded checksum.")), start)
              else
                (verifyStored (upload.request storage versionId)).bind
                  (fun verified => .done (verified.mapError .storage, start)))

/-- `open_version` calls S3 once its arguments have passed. -/
def openRecorded {ε : Type} (reading : β → Int → Reply UInt8 × β) (progress : Option (Nat → Option ε))
    (hexdigest : List UInt8 → String) (request : VersionRequest) :
    S3Program β (Except (Raised ε) SpooledFile × Observed) :=
  match checkRequest request with
  | .error failure => .done (.error (.storage failure), {})
  | .ok _ =>
      .call (.getObject request.bucketName request.objectKey request.versionId)
        (fun (response : GetObject β) => .done (openVersion reading progress hexdigest request response))

end Calls

/-! ## A versioned bucket -/

structure StoredVersion where
  headers : StoredObject
  bytes : List UInt8

section Bucket
variable {σ ι β : Type}

/-- What S3 documents of a versioned bucket and the storage relies on. `versions` is what the
bucket holds; `used` are the versions it has ever held. Any call may fail, and so may the body
of a version while it is read. -/
structure Versioned (answer : ι → (c : S3Call) → σ → c.Answer β × σ) (reading : β → Int → Reply UInt8 × β)
    (versions : σ → String → String → String → Option StoredVersion) (used : σ → String → String → String → Prop) :
    Prop where
  held : ∀ {state bucket key v version}, versions state bucket key v = some version → used state bucket key v
  ever : ∀ {state bucket key v} input c, used state bucket key v → used (answer input c state).2 bucket key v
  immutable : ∀ {state bucket key v} input c, used state bucket key v →
    versions (answer input c state).2 bucket key v = versions state bucket key v ∨
      versions (answer input c state).2 bucket key v = none
  named : ∀ {state bucket key v version}, versions state bucket key v = some version →
    version.headers.versionId = some v ∧ PyText.strip v = v
  put : ∀ {state input object response}, (answer input (.putObject object) state).1 = .ok response →
    ∀ v ∈ response.versionId, ∃ version,
      versions (answer input (.putObject object) state).2 object.bucket object.key v = some version ∧
        version.bytes = object.body
  head : ∀ {state input bucket key v stored}, (answer input (.headObject bucket key (some v)) state).1 = .ok stored →
    ∃ version, versions state bucket key v = some version ∧ stored = version.headers
  latest : ∀ {state input bucket key stored}, (answer input (.headObject bucket key none) state).1 = .ok stored →
    ∃ v version, versions state bucket key v = some version ∧ stored = version.headers
  absent : ∀ {state input bucket key v errorCode},
    (answer input (.getObject bucket key v) state).1 = .failed errorCode → errorCode ∈ absentCodes →
      versions state bucket key v = none
  valid : ∀ {state input bucket key v}, (answer input (.getObject bucket key v) state).1 ≠ .invalid
  get : ∀ {state input bucket key v stored body},
    (answer input (.getObject bucket key v) state).1 = .object stored body →
    ∃ version source, versions state bucket key v = some version ∧ stored = version.headers ∧ body = some source ∧
      Delivers reading True source version.bytes

/-! ## What a check establishes -/

/-- The headers are those of the recorded file in this version. -/
structure Validated (stored : StoredObject) (request : VersionRequest) (versionId : String) : Prop where
  size : stored.contentLength = some (some (request.sizeBytes : Int))
  checksum : ∃ digest, fromHex request.sha256.toList = some digest ∧
    stored.checksumSha256 = some (String.ofList (base64Encode digest))
  metadata : (stored.metadata.getD Dict.empty).get "sha256" = some request.sha256 ∧
    (stored.metadata.getD Dict.empty).get "sales-import-id" = some request.importId ∧
    (stored.metadata.getD Dict.empty).get "data-contract" = some request.dataContract ∧
    (stored.metadata.getD Dict.empty).get "row-contract" = some request.rowContract
  encrypted : stored.serverSideEncryption = some "aws:kms"
  key : ∃ expectedKey, requiredExpectedKmsKeyArn request.expectedKmsKeyArn = .ok expectedKey ∧
    stored.sseKmsKeyId = some expectedKey
  version : versionId = PyText.strip (stored.versionId.getD "") ∧ versionId ≠ "" ∧
    (request.versionId = "" ∨ versionId = request.versionId)

theorem passed_guard {ε α : Type} {c : Prop} [Decidable c] {e : ε} {otherwise : Except ε α} {value : α}
    (passes : (if c then .error e else otherwise) = .ok value) : ¬c ∧ otherwise = .ok value := by
  split_ifs at passes with refused
  exact ⟨refused, passes⟩

theorem validateStoredObject_iff {stored : StoredObject} {request : VersionRequest} {versionId : String} :
    validateStoredObject stored request = .ok versionId ↔ Validated stored request versionId := by
  constructor
  · intro passes
    unfold validateStoredObject at passes
    split at passes
    · cases passes
    rename_i storedSize reported
    obtain ⟨size, passes⟩ := passed_guard passes
    split at passes
    · cases passes
    rename_i digest hex
    obtain ⟨checksum, passes⟩ := passed_guard passes
    obtain ⟨sha, passes⟩ := passed_guard passes
    obtain ⟨importId, passes⟩ := passed_guard passes
    obtain ⟨dataContract, passes⟩ := passed_guard passes
    obtain ⟨rowContract, passes⟩ := passed_guard passes
    obtain ⟨encrypted, passes⟩ := passed_guard passes
    split at passes
    · cases passes
    rename_i expectedKey required
    obtain ⟨key, passes⟩ := passed_guard passes
    obtain ⟨named, passes⟩ := passed_guard passes
    obtain ⟨version, passes⟩ := passed_guard passes
    obtain rfl := Except.ok.inj passes
    rw [not_not] at size checksum sha importId dataContract rowContract encrypted key
    subst size
    refine ⟨?_, ⟨digest, hex, checksum⟩, ⟨sha, importId, dataContract, rowContract⟩, encrypted,
      ⟨expectedKey, required, key⟩, rfl, named, ?_⟩
    · cases length : stored.contentLength with
      | none =>
        rw [length] at reported
        have negative := Option.some.inj reported
        omega
      | some value =>
        rw [length] at reported
        exact congrArg some reported
    · by_contra neither
      rw [not_or] at neither
      exact version neither
  · rintro ⟨size, ⟨digest, hex, checksum⟩, ⟨sha, importId, dataContract, rowContract⟩, encrypted,
      ⟨expectedKey, required, key⟩, rfl, named, version⟩
    have other : ¬(request.versionId ≠ "" ∧ PyText.strip (stored.versionId.getD "") ≠ request.versionId) :=
      fun differs => version.elim differs.1 differs.2
    unfold validateStoredObject
    rw [size, Option.getD_some]
    dsimp only
    rw [if_neg (not_not.mpr rfl), hex]
    dsimp only
    rw [if_neg (not_not.mpr checksum), if_neg (not_not.mpr sha), if_neg (not_not.mpr importId),
      if_neg (not_not.mpr dataContract), if_neg (not_not.mpr rowContract), if_neg (not_not.mpr encrypted), required]
    dsimp only
    rw [if_neg (not_not.mpr key), if_neg named, if_neg other]

/-- Once a version is found, it is found again when it is asked for. -/
theorem Validated.again {stored : StoredObject} {request : VersionRequest} {versionId : String}
    (validated : Validated stored request versionId) :
    Validated stored { request with versionId := versionId } versionId :=
  { validated with version := ⟨validated.version.1, validated.version.2.1, Or.inr rfl⟩ }

variable {answer : ι → (c : S3Call) → σ → c.Answer β × σ} {reading : β → Int → Reply UInt8 × β}
  {versions : σ → String → String → String → Option StoredVersion} {used : σ → String → String → String → Prop}

/-- Over any run a version stays as it is until it is deleted, and no other takes its id. -/
theorem Versioned.run (laws : Versioned answer reading versions used) {state : σ} {bucket key v : String}
    (was : used state bucket key v) (events : List (S3Call × ι)) :
    used (run (afterCall answer) state events) bucket key v ∧
      (versions (run (afterCall answer) state events) bucket key v = versions state bucket key v ∨
        versions (run (afterCall answer) state events) bucket key v = none) := by
  induction events generalizing state with
  | nil => exact ⟨was, Or.inl rfl⟩
  | cons event rest ih =>
    rw [run_cons]
    obtain ⟨still, kept⟩ := ih (laws.ever event.2 event.1 was)
    refine ⟨still, ?_⟩
    rcases laws.immutable event.2 event.1 was with same | gone
    · exact kept.imp (fun later => later.trans same) id
    · rcases kept with later | later
      · exact Or.inr (later.trans gone)
      · exact Or.inr later

/-- A held version whose headers are those of the record. -/
structure Certified (versions : σ → String → String → String → Option StoredVersion) (state : σ)
    (request : VersionRequest) (version : StoredVersion) : Prop where
  held : versions state request.bucketName request.objectKey request.versionId = some version
  validated : Validated version.headers request request.versionId
  bucket : PyText.strip request.bucketName ≠ ""

/-- The headers that S3 reports are those of the version they name. -/
theorem Versioned.reported (laws : Versioned answer reading versions used) {state : σ} {input : ι}
    {bucket key : String} {asked : Option String} {stored : StoredObject}
    (answered : (answer input (.headObject bucket key asked) state).1 = .ok stored) :
    ∃ version, versions state bucket key (PyText.strip (stored.versionId.getD "")) = some version ∧
      stored = version.headers := by
  cases asked with
  | none =>
    obtain ⟨v, version, held, rfl⟩ := laws.latest answered
    obtain ⟨reported, stripped⟩ := laws.named held
    rw [reported, Option.getD_some, stripped]
    exact ⟨version, held, rfl⟩
  | some v =>
    obtain ⟨version, held, rfl⟩ := laws.head answered
    obtain ⟨reported, stripped⟩ := laws.named held
    rw [reported, Option.getD_some, stripped]
    exact ⟨version, held, rfl⟩

theorem certified_of_validated (laws : Versioned answer reading versions used) {state : σ} {input : ι}
    (request : VersionRequest) {asked : Option String} {stored : StoredObject} {versionId : String}
    (answered : (answer input (.headObject request.bucketName request.objectKey asked) state).1 = .ok stored)
    (validated : Validated stored request versionId) (bucket : PyText.strip request.bucketName ≠ "") :
    ∃ version, Certified versions state { request with versionId := versionId } version := by
  obtain ⟨version, held, rfl⟩ := laws.reported answered
  rw [← validated.version.1] at held
  exact ⟨version, held, validated.again, bucket⟩

/-- Checking a version is one call, whose answer is validated. -/
theorem verifyStored_validates {request : VersionRequest} {state final : σ} {trace : List (Performed S3Call ι σ)}
    {versionId : String}
    (session : Session answer (fun _ => True) (fun _ => True) (verifyStored request) state trace (.ok versionId)
      final) :
    ∃ expectedKey stored, ∃ performed ∈ trace, requiredExpectedKmsKeyArn request.expectedKmsKeyArn = .ok expectedKey ∧
      PyText.strip request.bucketName ≠ "" ∧
      (answer performed.input (.headObject request.bucketName request.objectKey
        (if request.versionId = "" then none else some request.versionId)) performed.before).1 = .ok stored ∧
      Validated stored { request with expectedKmsKeyArn := some expectedKey } versionId := by
  unfold verifyStored at session
  split at session
  · cases session
  rename_i expectedKey required
  by_cases missing : PyText.strip request.bucketName = ""
  · rw [if_pos missing] at session
    cases session
  rw [if_neg missing] at session
  cases session with
  | call events input foreign mine later =>
    dsimp only at later
    split at later
    · split_ifs at later <;> cases later
    · rename_i stored answered
      generalize checked : validateStoredObject stored { request with expectedKmsKeyArn := some expectedKey } = verdict
        at later
      cases later
      exact ⟨expectedKey, stored, _, List.mem_cons_self, required, missing, answered,
        validateStoredObject_iff.mp checked⟩

/-- What passed the check is in the bucket as recorded. -/
theorem verifyStored_certifies (laws : Versioned answer reading versions used) {request : VersionRequest}
    {state final : σ} {trace : List (Performed S3Call ι σ)} {versionId : String}
    (session : Session answer (fun _ => True) (fun _ => True) (verifyStored request) state trace (.ok versionId)
      final) :
    ∃ expectedKey version, ∃ performed ∈ trace, requiredExpectedKmsKeyArn request.expectedKmsKeyArn = .ok expectedKey ∧
      (request.versionId = "" ∨ versionId = request.versionId) ∧
      Certified versions performed.before { request with versionId := versionId, expectedKmsKeyArn := some expectedKey }
        version := by
  obtain ⟨expectedKey, stored, performed, member, required, bucket, answered, validated⟩ :=
    verifyStored_validates session
  obtain ⟨version, certified⟩ := certified_of_validated laws { request with expectedKmsKeyArn := some expectedKey }
    answered validated bucket
  exact ⟨expectedKey, version, performed, member, required, validated.version.2.2, certified⟩

theorem discoverKmsProvenance_certifies (laws : Versioned answer reading versions used) {request : VersionRequest}
    {state final : σ} {trace : List (Performed S3Call ι σ)} {provenance : DiscoveredKmsProvenance}
    (session : Session answer (fun _ => True) (fun _ => True) (discoverKmsProvenance request) state trace
      (.ok provenance) final) :
    ∃ version, ∃ performed ∈ trace, requiredExpectedKmsKeyArn (some provenance.kmsKeyArn) = .ok provenance.kmsKeyArn ∧
      (request.versionId = "" ∨ provenance.versionId = request.versionId) ∧ Certified versions performed.before
        { request with versionId := provenance.versionId, expectedKmsKeyArn := some provenance.kmsKeyArn } version := by
  unfold discoverKmsProvenance at session
  by_cases missing : PyText.strip request.bucketName = "" ∨ PyText.strip request.objectKey = ""
  · rw [if_pos missing] at session
    cases session
  rw [if_neg missing] at session
  cases session with
  | call events input foreign mine later =>
    dsimp only at later
    split at later
    · split_ifs at later <;> cases later
    · rename_i stored answered
      by_cases unknown : Intake.isKmsKeyArn (PyText.strip (stored.sseKmsKeyId.getD "")) = false
      · rw [if_pos unknown] at later
        cases later
      rw [if_neg unknown] at later
      generalize checked : validateStoredObject stored
        { request with expectedKmsKeyArn := some (PyText.strip (stored.sseKmsKeyId.getD "")) } = verdict at later
      cases verdict with
      | error failure => cases later
      | ok versionId =>
        cases later
        have validated := validateStoredObject_iff.mp checked
        obtain ⟨version, certified⟩ := certified_of_validated laws
          { request with expectedKmsKeyArn := some (PyText.strip (stored.sseKmsKeyId.getD "")) } answered validated
          (fun empty => missing (Or.inl empty))
        obtain ⟨expectedKey, required, _⟩ := validated.key
        refine ⟨version, _, List.mem_cons_self, ?_, validated.version.2.2, certified⟩
        have same := PyText.strip_of_stripped (PyText.strip_stripped (stored.sseKmsKeyId.getD ""))
        rw [required]
        unfold requiredExpectedKmsKeyArn at required
        obtain ⟨_, required⟩ := passed_guard required
        obtain ⟨_, required⟩ := passed_guard required
        rw [← Except.ok.inj required, Option.getD_some, same]

/-! ## Opening a certified version -/

/-- What S3 answers a download of the recorded version, in the state of this call. -/
def download (answer : ι → (c : S3Call) → σ → c.Answer β × σ) (request : VersionRequest)
    (performed : Performed S3Call ι σ) : GetObject β :=
  (answer performed.input (.getObject request.bucketName request.objectKey request.versionId) performed.before).1

/-- How opening a version ends: with its bytes, or for a reason that lies outside the record. The
version is gone when the download asks for it, S3 fails the download with another code, a read
of the body raises, or the callback does. -/
inductive Opened {ε : Type} (answer : ι → (c : S3Call) → σ → c.Answer β × σ) (reading : β → Int → Reply UInt8 × β)
    (versions : σ → String → String → String → Option StoredVersion)
    (progress : Option (Nat → Option ε)) (request : VersionRequest) (bytes : List UInt8)
    (trace : List (Performed S3Call ι σ)) : Except (Raised ε) SpooledFile × Observed → Prop where
  | whole (observed : Observed) : Opened answer reading versions progress request bytes trace (.ok ⟨bytes, 0⟩, observed)
  | deleted {performed : Performed S3Call ι σ} (member : performed ∈ trace)
      (gone : versions performed.before request.bucketName request.objectKey request.versionId = none) :
      Opened answer reading versions progress request bytes trace
        (.error (.storage (.notFoundError "The recorded S3 object version was not found.")), {})
  | unreached {performed : Performed S3Call ι σ} {errorCode : String} (member : performed ∈ trace)
      (failed : download answer request performed = .failed errorCode) (other : errorCode ∉ absentCodes) :
      Opened answer reading versions progress request bytes trace
        (.error (.storage (.downloadError "The stored object could not be downloaded from S3.")), {})
  | interrupted {performed : Performed S3Call ι σ} {stored : StoredObject} {source : β} {observed : Observed}
      (member : performed ∈ trace) (began : download answer request performed = .object stored (some source))
      (failed : Interrupted reading source observed) :
      Opened answer reading versions progress request bytes trace
        (.error (.storage (.downloadError "The stored object download was interrupted.")), observed)
  | escaped {raised : Raised ε} {observed : Observed} (escaped : Escaped progress observed raised) :
      Opened answer reading versions progress request bytes trace (.error raised, observed)

/-- Once the download has begun, only its body and the callback can keep it from ending well. -/
theorem delivered_opens {ε : Type} {hexdigest : List UInt8 → String} {request : VersionRequest} {expectedKey : String}
    {version : StoredVersion} (checked : checkRequest request = .ok expectedKey)
    (validated : Validated version.headers { request with expectedKmsKeyArn := some expectedKey } request.versionId)
    (size : version.bytes.length = request.sizeBytes) (digest : hexdigest version.bytes = request.sha256)
    (progress : Option (Nat → Option ε)) {trace : List (Performed S3Call ι σ)} {performed : Performed S3Call ι σ}
    {source : β} (member : performed ∈ trace)
    (began : download answer request performed = .object version.headers (some source))
    (delivers : Delivers reading True source version.bytes) :
    Opened answer reading versions progress request version.bytes trace
      (openVersion reading progress hexdigest request (.object version.headers (some source))) := by
  have passes := validateStoredObject_iff.mpr validated
  have settled := openVersion_delivered hexdigest checked passes progress delivers
  generalize openVersion reading progress hexdigest request (.object version.headers (some source)) = opened
    at settled ⊢
  obtain ⟨result, observed⟩ := opened
  rcases settled with ⟨ended, _⟩ | ⟨raised, ended, escaped⟩ | ⟨_, ended, broken⟩
  · rw [(verdict_ok hexdigest request version.bytes).mpr ⟨size, digest⟩] at ended
    obtain rfl : result = .ok ⟨version.bytes, 0⟩ := ended
    exact .whole observed
  · obtain rfl : result = .error raised := ended
    exact .escaped escaped
  · obtain rfl : result = .error (.storage interrupted) := ended
    exact .interrupted member began broken

/-- A certified version, whatever happened since, opens with its bytes if they are the recorded ones. -/
theorem certified_opens {ε : Type} (laws : Versioned answer reading versions used) {hexdigest : List UInt8 → String}
    {request : VersionRequest} {expectedKey : String} {version : StoredVersion} {state : σ}
    (kept : versions state request.bucketName request.objectKey request.versionId = some version ∨
      versions state request.bucketName request.objectKey request.versionId = none)
    (was : used state request.bucketName request.objectKey request.versionId)
    (checked : checkRequest request = .ok expectedKey)
    (validated : Validated version.headers { request with expectedKmsKeyArn := some expectedKey } request.versionId)
    (size : version.bytes.length = request.sizeBytes) (digest : hexdigest version.bytes = request.sha256)
    {progress : Option (Nat → Option ε)} {trace : List (Performed S3Call ι σ)}
    {outcome : Except (Raised ε) SpooledFile × Observed} {final : σ}
    (session : Session answer (fun _ => True) (fun _ => True) (openRecorded reading progress hexdigest request) state
      trace outcome final) : Opened answer reading versions progress request version.bytes trace outcome := by
  unfold openRecorded at session
  rw [checked] at session
  cases session with
  | call events input foreign mine later =>
    obtain ⟨_, after⟩ := laws.run was events
    dsimp only at later
    generalize response : (answer input (.getObject request.bucketName request.objectKey request.versionId)
      (run (afterCall answer) state events)).1 = got at later
    cases later
    cases got with
    | failed errorCode =>
      unfold openVersion
      rw [checked]
      dsimp only
      split_ifs with absent
      · exact .deleted List.mem_cons_self (laws.absent response absent)
      · exact .unreached List.mem_cons_self response absent
    | invalid => exact absurd response laws.valid
    | object stored body =>
      obtain ⟨found, source, held, rfl, rfl, delivers⟩ := laws.get response
      have same : found = version := by
        rcases after with later | later
        · rcases kept with now | now
          · exact Option.some.inj ((held.symm.trans later).trans now)
          · rw [later, now] at held
            cases held
        · rw [later] at held
          cases held
      subst same
      exact delivered_opens checked validated size digest progress List.mem_cons_self response delivers

/-! ## The file comes back -/

theorem checkRequest_ok {request : VersionRequest} {expectedKey : String}
    (required : requiredExpectedKmsKeyArn request.expectedKmsKeyArn = .ok expectedKey)
    (bucket : PyText.strip request.bucketName ≠ "") (key : PyText.strip request.objectKey ≠ "")
    (version : PyText.strip request.versionId ≠ "") : checkRequest request = .ok expectedKey := by
  unfold checkRequest
  rw [required]
  dsimp only
  rw [if_neg bucket, if_neg key, if_neg version]

/-- Once a record is certified, its version opens from every later state. -/
theorem Certified.opens {ε : Type} (laws : Versioned answer reading versions used) (hexdigest : List UInt8 → String)
    (request : VersionRequest) {expectedKey : String} {version : StoredVersion} {state later : σ}
    (certified : Certified versions state { request with expectedKmsKeyArn := some expectedKey } version)
    (required : requiredExpectedKmsKeyArn request.expectedKmsKeyArn = .ok expectedKey)
    (keyed : PyText.strip request.objectKey ≠ "") (since : ∃ events, later = run (afterCall answer) state events)
    (size : version.bytes.length = request.sizeBytes) (digest : hexdigest version.bytes = request.sha256)
    {progress : Option (Nat → Option ε)} {trace : List (Performed S3Call ι σ)}
    {outcome : Except (Raised ε) SpooledFile × Observed} {final : σ}
    (session : Session answer (fun _ => True) (fun _ => True) (openRecorded reading progress hexdigest request) later
      trace outcome final) : Opened answer reading versions progress request version.bytes trace outcome := by
  obtain ⟨events, rfl⟩ := since
  have held : versions state request.bucketName request.objectKey request.versionId = some version := certified.held
  obtain ⟨was, kept⟩ := laws.run (laws.held held) events
  have named : PyText.strip request.versionId = request.versionId := (laws.named certified.held).2
  have given : request.versionId ≠ "" := certified.validated.version.2.1
  have checked : checkRequest request = .ok expectedKey :=
    checkRequest_ok required certified.bucket keyed (by rwa [named])
  exact certified_opens laws (kept.imp (fun same => same.trans held) id) was checked certified.validated size digest
    session

/-- The version that `store` gives holds the file, and is certified. -/
theorem store_certifies (laws : Versioned answer reading versions used) {storage : OriginalFileStorage}
    {upload : Upload} {file reread : SpooledFile} {state final : σ} {trace : List (Performed S3Call ι σ)}
    {versionId : String}
    (session : Session answer (fun _ => True) (fun _ => True) (store storage upload file) state trace
      (.ok versionId, reread) final) :
    ∃ checked version expectedKey, requiredExpectedKmsKeyArn (some storage.kmsKeyArn) = .ok expectedKey ∧
      Certified versions checked { upload.request storage versionId with expectedKmsKeyArn := some expectedKey }
        version ∧
      version.bytes = file.content ∧ reread = file.seek 0 ∧
      ∃ events, final = run (afterCall answer) checked events := by
  unfold store at session
  split at session
  · cases session
  rename_i digest hex
  cases session with
  | call events input foreign mine later =>
    dsimp only at later
    split at later
    · cases later
    · cases later
    rename_i response answered
    by_cases blank : PyText.strip (response.versionId.getD "") = ""
    · rw [if_pos blank] at later
      cases later
    rw [if_neg blank] at later
    by_cases confirmed : response.checksumSha256 = some (String.ofList (base64Encode digest))
    swap
    · rw [if_pos confirmed] at later
      cases later
    rw [if_neg (not_not.mpr confirmed)] at later
    cases given : response.versionId with
    | none =>
      rw [given] at blank
      exact absurd (by decide) blank
    | some v =>
      obtain ⟨version, held, bytes⟩ := laws.put answered v given
      obtain ⟨_, stripped⟩ := laws.named held
      rw [given, Option.getD_some, stripped] at later blank
      obtain ⟨earlier, rest, middle, verified, rfl, begun, ended⟩ := Session.bind later
      cases verified with
      | error failure => cases ended
      | ok found =>
        cases ended
        obtain ⟨expectedKey, checked, performed, member, required, asked, certified⟩ :=
          verifyStored_certifies laws begun
        obtain rfl : versionId = v := asked.resolve_left blank
        obtain ⟨befores, since⟩ := begun.reached
        obtain ⟨between, same⟩ := befores performed member
        obtain ⟨_, kept⟩ := laws.run (laws.held held) between
        have found : versions performed.before storage.bucketName upload.objectKey versionId = some checked :=
          certified.held
        rw [same] at found
        have unchanged : checked = version := by
          rcases kept with still | gone
          · exact Option.some.inj ((found.symm.trans still).trans held)
          · exact absurd (found.symm.trans gone) (by simp)
        subst unchanged
        exact ⟨_, checked, expectedKey, required, ⟨held, certified.validated, certified.bucket⟩, bytes, rfl, since⟩

/-- A file that was stored comes back as it was, whatever others do to the bucket between the calls
and after them. It is never refused for its size, its checksum, its description or its key. -/
theorem stored_opens {ε : Type} (laws : Versioned answer reading versions used) (hexdigest : List UInt8 → String)
    (storage : OriginalFileStorage) (upload : Upload) (file reread : SpooledFile)
    (keyed : PyText.strip upload.objectKey ≠ "") (size : file.content.length = upload.sizeBytes)
    (digest : hexdigest file.content = upload.sha256) (state middle final : σ) (versionId : String)
    (storeTrace openTrace : List (Performed S3Call ι σ)) (progress : Option (Nat → Option ε))
    (outcome : Except (Raised ε) SpooledFile × Observed)
    (storing : Session answer (fun _ => True) (fun _ => True) (store storage upload file) state storeTrace
      (.ok versionId, reread) middle)
    (opening : Session answer (fun _ => True) (fun _ => True)
      (openRecorded reading progress hexdigest (upload.request storage versionId)) middle openTrace outcome final) :
    reread = ⟨file.content, 0⟩ ∧
      Opened answer reading versions progress (upload.request storage versionId) file.content openTrace outcome := by
  obtain ⟨_, version, expectedKey, required, certified, bytes, rewound, since⟩ := store_certifies laws storing
  refine ⟨rewound, ?_⟩
  rw [← bytes] at size digest ⊢
  exact certified.opens laws hexdigest (upload.request storage versionId) required keyed since size digest opening

/-! ## Checksums -/

def hexChar (value : Nat) : Char := "0123456789abcdef".toList.getD value '0'

/-- `bytes.hex`. -/
def toHex (bytes : List UInt8) : String :=
  String.ofList (bytes.flatMap (fun byte => [hexChar (byte.toNat / 16), hexChar (byte.toNat % 16)]))

theorem hexDigit_hexChar : ∀ value < 16, hexDigit (hexChar value) = some value ∧
    hexChar value ∉ [' ', '\t', '\n', '\r', '\x0b', '\x0c'] := by
  decide

theorem fromHex_toHex (bytes : List UInt8) : fromHex (toHex bytes).toList = some bytes := by
  rw [toHex, String.toList_ofList]
  induction bytes with
  | nil => rfl
  | cons byte rest ih =>
    have bound := byte.toNat_lt
    obtain ⟨high, visible⟩ := hexDigit_hexChar (byte.toNat / 16) (by omega)
    obtain ⟨low, _⟩ := hexDigit_hexChar (byte.toNat % 16) (by omega)
    have whole : 16 * (byte.toNat / 16) + byte.toNat % 16 = byte.toNat := Nat.div_add_mod byte.toNat 16
    rw [List.flatMap_cons, List.cons_append, List.cons_append, List.nil_append, fromHex, if_neg visible, high, low]
    dsimp only
    rw [ih, whole, Option.map_some, UInt8.ofNat_toNat]

def base64Value (c : Char) : Nat :=
  "ABCDEFGHIJKLMNOPQRSTUVWXYZabcdefghijklmnopqrstuvwxyz0123456789+/".toList.idxOf c

theorem base64Value_digit : ∀ value < 64, base64Value (base64Digit value) = value ∧ base64Digit value ≠ '=' := by
  decide

theorem base64Digit_injective {first second : Nat} (small : first < 64) (smaller : second < 64)
    (same : base64Digit first = base64Digit second) : first = second := by
  rw [← (base64Value_digit first small).1, same, (base64Value_digit second smaller).1]

theorem base64Encode_injective {first second : List UInt8} (same : base64Encode first = base64Encode second) :
    first = second := by
  have byteEq : ∀ {x y : UInt8}, x.toNat = y.toNat → x = y := fun equal => UInt8.toNat_inj.mp equal
  fun_induction base64Encode first generalizing second with
  | case1 =>
    fun_cases base64Encode second with
    | case1 => rfl
    | case2 | case3 | case4 => simp [base64Encode] at same
  | case2 a =>
    have boundA := a.toNat_lt
    fun_cases base64Encode second with
    | case1 => simp [base64Encode] at same
    | case2 x =>
      have boundX := x.toNat_lt
      simp only [base64Encode, List.cons.injEq, and_true] at same
      have high := base64Digit_injective (by omega) (by omega) same.1
      have low := base64Digit_injective (by omega) (by omega) same.2
      rw [byteEq (show a.toNat = x.toNat by omega)]
    | case3 x y =>
      have boundY := y.toNat_lt
      simp only [base64Encode, List.cons.injEq, and_true] at same
      exact absurd same.2.2.symm (base64Value_digit _ (by omega)).2
    | case4 x y z rest =>
      have boundY := y.toNat_lt
      have boundZ := z.toNat_lt
      simp only [base64Encode, List.cons.injEq] at same
      exact absurd same.2.2.1.symm (base64Value_digit _ (by omega)).2
  | case3 a b =>
    have boundA := a.toNat_lt
    have boundB := b.toNat_lt
    fun_cases base64Encode second with
    | case1 => simp [base64Encode] at same
    | case2 x =>
      simp only [base64Encode, List.cons.injEq, and_true] at same
      exact absurd same.2.2 (base64Value_digit _ (by omega)).2
    | case3 x y =>
      have boundX := x.toNat_lt
      have boundY := y.toNat_lt
      simp only [base64Encode, List.cons.injEq, and_true] at same
      have high := base64Digit_injective (by omega) (by omega) same.1
      have middle := base64Digit_injective (by omega) (by omega) same.2.1
      have low := base64Digit_injective (by omega) (by omega) same.2.2
      rw [byteEq (show a.toNat = x.toNat by omega), byteEq (show b.toNat = y.toNat by omega)]
    | case4 x y z rest =>
      have boundZ := z.toNat_lt
      simp only [base64Encode, List.cons.injEq] at same
      exact absurd same.2.2.2.1.symm (base64Value_digit _ (by omega)).2
  | case4 a b c rest ih =>
    have boundA := a.toNat_lt
    have boundB := b.toNat_lt
    have boundC := c.toNat_lt
    fun_cases base64Encode second with
    | case1 => simp [base64Encode] at same
    | case2 x =>
      simp only [base64Encode, List.cons.injEq] at same
      exact absurd same.2.2.1 (base64Value_digit _ (by omega)).2
    | case3 x y =>
      simp only [base64Encode, List.cons.injEq] at same
      exact absurd same.2.2.2.1 (base64Value_digit _ (by omega)).2
    | case4 x y z others =>
      have boundX := x.toNat_lt
      have boundY := y.toNat_lt
      have boundZ := z.toNat_lt
      simp only [base64Encode, List.cons.injEq] at same
      obtain ⟨one, two, three, four, later⟩ := same
      have digit1 := base64Digit_injective (by omega) (by omega) one
      have digit2 := base64Digit_injective (by omega) (by omega) two
      have digit3 := base64Digit_injective (by omega) (by omega) three
      have digit4 := base64Digit_injective (by omega) (by omega) four
      rw [byteEq (show a.toNat = x.toNat by omega), byteEq (show b.toNat = y.toNat by omega),
        byteEq (show c.toNat = z.toNat by omega), ih later]

/-! ## A record that is checked -/

/-- S3 computes the length and the checksum of an object itself. -/
structure Checksummed (sha256 : List UInt8 → List UInt8)
    (versions : σ → String → String → String → Option StoredVersion) : Prop where
  length : ∀ {state bucket key v version}, versions state bucket key v = some version →
    version.headers.contentLength = some (some (version.bytes.length : Int))
  checksum : ∀ {state bucket key v version}, versions state bucket key v = some version →
    ∀ checksum ∈ version.headers.checksumSha256, checksum = String.ofList (base64Encode (sha256 version.bytes))

/-- The version of a certified record has the recorded size and digest. -/
theorem Certified.recorded {sha256 : List UInt8 → List UInt8} (checksummed : Checksummed sha256 versions)
    {request : VersionRequest} {digest : List UInt8} (canonical : request.sha256 = toHex digest) {state : σ}
    {versionId : String} {expectedKey : Option String} {version : StoredVersion}
    (certified : Certified versions state
      { request with versionId := versionId, expectedKmsKeyArn := expectedKey } version) :
    version.bytes.length = request.sizeBytes ∧ toHex (sha256 version.bytes) = request.sha256 := by
  have reported : some (some (version.bytes.length : Int)) = some (some (request.sizeBytes : Int)) :=
    (checksummed.length certified.held).symm.trans certified.validated.size
  obtain ⟨recorded, hex, checksum⟩ := certified.validated.checksum
  have computed := checksummed.checksum certified.held _ checksum
  have same : recorded = sha256 version.bytes := base64Encode_injective (String.ofList_injective computed)
  dsimp only at hex
  rw [canonical, fromHex_toHex] at hex
  refine ⟨by simpa using reported, ?_⟩
  rw [canonical, Option.some.inj hex, same]

/-- Once `verify` passes a record, or `discover_kms_provenance` has found its key, the version it
names opens with bytes of the recorded size and digest, whatever others did in between. -/
theorem verified_opens {ε : Type} (laws : Versioned answer reading versions used) (sha256 : List UInt8 → List UInt8)
    (checksummed : Checksummed sha256 versions) (request : VersionRequest)
    (keyed : PyText.strip request.objectKey ≠ "") (digest : List UInt8) (canonical : request.sha256 = toHex digest)
    (state middle final : σ) (checkTrace openTrace : List (Performed S3Call ι σ)) (progress : Option (Nat → Option ε))
    (outcome : Except (Raised ε) SpooledFile × Observed) (found : VersionRequest)
    (checking : (∃ versionId, found = { request with versionId := versionId } ∧
        Session answer (fun _ => True) (fun _ => True) (verifyStored request) state checkTrace (.ok versionId) middle) ∨
      (∃ provenance : DiscoveredKmsProvenance,
        found = { request with versionId := provenance.versionId, expectedKmsKeyArn := some provenance.kmsKeyArn } ∧
        Session answer (fun _ => True) (fun _ => True) (discoverKmsProvenance request) state checkTrace
          (.ok provenance) middle))
    (opening : Session answer (fun _ => True) (fun _ => True)
      (openRecorded reading progress (fun bytes => toHex (sha256 bytes)) found) middle openTrace outcome final) :
    ∃ bytes, bytes.length = request.sizeBytes ∧ toHex (sha256 bytes) = request.sha256 ∧
      Opened answer reading versions progress found bytes openTrace outcome := by
  rcases checking with ⟨versionId, rfl, verified⟩ | ⟨provenance, rfl, discovered⟩
  · obtain ⟨expectedKey, version, performed, member, required, _, certified⟩ := verifyStored_certifies laws verified
    obtain ⟨length, sum⟩ := certified.recorded checksummed canonical
    exact ⟨version.bytes, length, sum, certified.opens laws (fun bytes => toHex (sha256 bytes))
      { request with versionId := versionId } required keyed (verified.since member) length sum opening⟩
  · obtain ⟨version, performed, member, required, _, certified⟩ := discoverKmsProvenance_certifies laws discovered
    obtain ⟨length, sum⟩ := certified.recorded checksummed canonical
    exact ⟨version.bytes, length, sum, certified.opens laws (fun bytes => toHex (sha256 bytes))
      { request with versionId := provenance.versionId, expectedKmsKeyArn := some provenance.kmsKeyArn } required keyed
      (discovered.since member) length sum opening⟩

end Bucket

/-! ## A bucket that is played -/

namespace Sample

/-- A put in the order of the puts; its place is its version id. -/
structure Slot where
  object : PutObject
  deleted : Bool := false

def versionId (place : Nat) : String := String.ofList (List.replicate (place + 1) 'v')

/-- SHA-256, as far as it is asked for here. -/
def sha256 (bytes : List UInt8) : List UInt8 :=
  if bytes = abc then (fromHex request.sha256.toList).getD [] else []

def reportedHeaders (place : Nat) (object : PutObject) : StoredObject where
  contentLength := some (some object.body.length)
  checksumSha256 := some (String.ofList (base64Encode (sha256 object.body)))
  metadata := some object.metadata
  serverSideEncryption := some "aws:kms"
  sseKmsKeyId := some object.sseKmsKeyId
  versionId := some (versionId place)

def versions (slots : List Slot) (bucket key v : String) : Option StoredVersion :=
  (slots[v.toList.length - 1]?).bind (fun slot =>
    if slot.deleted = false ∧ slot.object.bucket = bucket ∧ slot.object.key = key ∧
        v = versionId (v.toList.length - 1) then
      some ⟨reportedHeaders (v.toList.length - 1) slot.object, slot.object.body⟩
    else none)

def used (slots : List Slot) (_bucket _key v : String) : Prop := v.toList.length - 1 < slots.length

/-- The latest version of the key. -/
def latest (slots : List Slot) (bucket key : String) : Option (String × StoredVersion) :=
  (List.range slots.length).reverse.findSome? (fun place =>
    (versions slots bucket key (versionId place)).map (fun version => (versionId place, version)))

def deletes (slots : List Slot) (bucket key v : String) : List Slot :=
  slots.mapIdx (fun place slot =>
    if slot.object.bucket = bucket ∧ slot.object.key = key ∧ v = versionId place then { slot with deleted := true }
    else slot)

def answer (_ : Unit) : (c : S3Call) → List Slot → c.Answer (List UInt8) × List Slot
  | .putObject object, slots =>
      if object.checksumSha256 = String.ofList (base64Encode (sha256 object.body)) then
        (.ok ⟨some (versionId slots.length), some object.checksumSha256⟩, slots ++ [⟨object, false⟩])
      else (.error none, slots)
  | .headObject bucket key none, slots =>
      (match latest slots bucket key with
        | some (_, version) => .ok version.headers
        | none => .error "404", slots)
  | .headObject bucket key (some v), slots =>
      (match versions slots bucket key v with
        | some version => .ok version.headers
        | none => .error "404", slots)
  | .getObject bucket key v, slots =>
      (match versions slots bucket key v with
        | some version => .object version.headers (some version.bytes)
        | none => .failed "NoSuchVersion", slots)
  | .deleteObject bucket key (some v), slots => ((), deletes slots bucket key v)
  | .deleteObject _ _ none, slots => ((), slots)

theorem versionId_place (place : Nat) : (versionId place).toList.length - 1 = place := by
  rw [versionId, String.toList_ofList, List.length_replicate, Nat.add_sub_cancel]

theorem versionId_stripped (place : Nat) : PyText.strip (versionId place) = versionId place := by
  refine PyText.strip_of_stripped ?_
  rw [PyText.Stripped, versionId, String.toList_ofList]
  constructor
  · intro c first
    rw [List.eq_of_mem_replicate (List.mem_of_mem_head? first)]
    decide
  · intro c last
    rw [List.eq_of_mem_replicate (List.mem_of_mem_getLast? last)]
    decide

theorem versions_some {slots : List Slot} {bucket key v : String} {version : StoredVersion}
    (held : versions slots bucket key v = some version) :
    ∃ place slot, slots[place]? = some slot ∧ v = versionId place ∧
      version = ⟨reportedHeaders place slot.object, slot.object.body⟩ := by
  rw [versions, Option.bind_eq_some_iff] at held
  obtain ⟨slot, stands, held⟩ := held
  split_ifs at held with found
  exact ⟨_, slot, stands, found.2.2.2, (Option.some.inj held).symm⟩

theorem versions_deletes (slots : List Slot) (bucket key v otherBucket otherKey other : String) :
    versions (deletes slots bucket key v) otherBucket otherKey other = versions slots otherBucket otherKey other ∨
      versions (deletes slots bucket key v) otherBucket otherKey other = none := by
  unfold versions deletes
  rw [List.getElem?_mapIdx]
  cases slots[other.toList.length - 1]? with
  | none => exact Or.inl rfl
  | some slot =>
    rw [Option.map_some, Option.bind_some, Option.bind_some]
    by_cases hit : slot.object.bucket = bucket ∧ slot.object.key = key ∧ v = versionId (other.toList.length - 1)
    · rw [if_pos hit, if_neg (by simp)]
      exact Or.inr rfl
    · rw [if_neg hit]
      exact Or.inl rfl

theorem answer_keeps (input : Unit) (c : S3Call) (slots : List Slot) :
    slots.length ≤ (answer input c slots).2.length ∧
      ∀ bucket key v, used slots bucket key v →
        versions (answer input c slots).2 bucket key v = versions slots bucket key v ∨
          versions (answer input c slots).2 bucket key v = none := by
  cases c with
  | putObject object =>
    dsimp only [answer]
    split_ifs with summed
    · refine ⟨by simp, fun bucket key v was => Or.inl ?_⟩
      unfold versions
      rw [List.getElem?_append_left was]
    · exact ⟨le_rfl, fun bucket key v _ => Or.inl rfl⟩
  | headObject bucket key asked => cases asked <;> exact ⟨le_rfl, fun bucket key v _ => Or.inl rfl⟩
  | getObject bucket key v => exact ⟨le_rfl, fun bucket key v _ => Or.inl rfl⟩
  | deleteObject bucket key asked =>
    cases asked with
    | none => exact ⟨le_rfl, fun bucket key v _ => Or.inl rfl⟩
    | some v =>
      refine ⟨?_, fun otherBucket otherKey other _ => versions_deletes slots bucket key v otherBucket otherKey other⟩
      simp [answer, deletes]

theorem versioned : Versioned answer (readUpTo 2) versions used where
  held := by
    rintro slots bucket key v version held
    obtain ⟨place, slot, stands, rfl, _⟩ := versions_some held
    unfold used
    rw [versionId_place]
    exact (List.getElem?_eq_some_iff.mp stands).1
  ever := fun input c was => lt_of_lt_of_le was (answer_keeps input c _).1
  immutable := fun input c was => (answer_keeps input c _).2 _ _ _ was
  named := by
    rintro slots bucket key v version held
    obtain ⟨place, slot, _, rfl, rfl⟩ := versions_some held
    exact ⟨rfl, versionId_stripped place⟩
  put := by
    rintro slots input object response answered v given
    dsimp only [answer] at answered ⊢
    split_ifs at answered ⊢ with summed
    obtain rfl := Except.ok.inj answered
    obtain rfl := Option.some.inj given
    refine ⟨⟨reportedHeaders slots.length object, object.body⟩, ?_, rfl⟩
    unfold versions
    rw [versionId_place, List.getElem?_concat_length, Option.bind_some, if_pos ⟨rfl, rfl, rfl, rfl⟩]
  head := by
    rintro slots input bucket key v stored answered
    dsimp only [answer] at answered
    split at answered
    · rename_i version held
      exact ⟨version, held, (Except.ok.inj answered).symm⟩
    · cases answered
  latest := by
    rintro slots input bucket key stored answered
    dsimp only [answer] at answered
    split at answered
    · rename_i v version newest
      obtain ⟨place, _, found⟩ := List.exists_of_findSome?_eq_some newest
      obtain ⟨_, held, same⟩ := Option.map_eq_some_iff.mp found
      cases same
      exact ⟨_, version, held, (Except.ok.inj answered).symm⟩
    · cases answered
  absent := by
    rintro slots input bucket key v errorCode answered _
    dsimp only [answer] at answered
    split at answered
    · cases answered
    · assumption
  valid := by
    rintro slots input bucket key v answered
    dsimp only [answer] at answered
    split at answered <;> cases answered
  get := by
    rintro slots input bucket key v stored body answered
    dsimp only [answer] at answered
    split at answered
    · rename_i version held
      cases answered
      exact ⟨version, version.bytes, held, rfl, rfl, (readUpTo_serves (by decide) version.bytes).delivers True⟩
    · cases answered

theorem checksummed : Checksummed sha256 versions where
  length := by
    rintro slots bucket key v version held
    obtain ⟨place, slot, _, rfl, rfl⟩ := versions_some held
    rfl
  checksum := by
    rintro slots bucket key v version held checksum reported
    obtain ⟨place, slot, _, rfl, rfl⟩ := versions_some held
    exact (Option.some.inj reported).symm

theorem stripped_of_strip {s : String} (same : PyText.strip s = s) : PyText.Stripped s := by
  rw [← same]
  exact PyText.strip_stripped s

def storage : OriginalFileStorage where
  bucketName := "bucket"
  kmsKeyArn := "arn:aws:kms:eu-west-1:123456789012:key/one"
  named := ⟨stripped_of_strip (by decide +kernel), by decide⟩
  concrete := ⟨stripped_of_strip (by decide +kernel), by decide +kernel⟩

def upload : Upload where
  objectKey := request.objectKey
  sizeBytes := 3
  sha256 := request.sha256
  contentType := "text/csv"
  importId := "3"
  dataContract := "sales_v1"
  rowContract := "sales_rows_v1"

/-- Another puts the same object, before and after, and deletes what was put before. -/
def rival : S3Call := .putObject (upload.object storage "ungWv48Bz+pBQUDeXa4iI7ADYaOWF3qctBD/YfIAFa0=" abc)

def storeMoves : List (List (S3Call × Unit) × Unit) := [([(rival, ())], ()), ([(rival, ())], ())]

def openMoves : List (List (S3Call × Unit) × Unit) :=
  [([(.deleteObject "bucket" request.objectKey (some "v"), ())], ())]

def reports : Option (Nat → Option Unit) := some (fun _ => none)

end Sample

theorem stored_opens_sample : ∃ middle storeTrace openTrace outcome final,
    Session Sample.answer (fun _ => True) (fun _ => True) (store Sample.storage Sample.upload ⟨Sample.abc, 2⟩) []
      storeTrace (.ok "vv", ⟨Sample.abc, 0⟩) middle ∧
    Session Sample.answer (fun _ => True) (fun _ => True) (openRecorded (readUpTo 2) Sample.reports Sample.hexdigest
      (Sample.upload.request Sample.storage "vv")) middle openTrace outcome final ∧
    outcome.1 = .ok ⟨Sample.abc, 0⟩ ∧
    Opened Sample.answer (readUpTo 2) Sample.versions Sample.reports (Sample.upload.request Sample.storage "vv")
      Sample.abc openTrace outcome := by
  have begins : ((store Sample.storage Sample.upload ⟨Sample.abc, 2⟩).play Sample.answer [] Sample.storeMoves).map
      (fun played => (played.2.1, ((openRecorded (readUpTo 2) Sample.reports Sample.hexdigest
        (Sample.upload.request Sample.storage "vv")).play Sample.answer played.2.2 Sample.openMoves).map
          (fun opened => opened.2.1.1))) =
        some ((.ok "vv", ⟨Sample.abc, 0⟩), some (.ok ⟨Sample.abc, 0⟩)) := by decide +kernel
  obtain ⟨⟨storeTrace, stored, middle⟩, put, same⟩ := Option.map_eq_some_iff.mp begins
  obtain ⟨rfl, opens⟩ := Prod.mk.inj same
  obtain ⟨⟨openTrace, outcome, final⟩, got, whole⟩ := Option.map_eq_some_iff.mp opens
  have storing : Session Sample.answer (fun _ => True) (fun _ => True) _ _ storeTrace _ middle :=
    session_of_play (by simp) (by simp) put
  have opening : Session Sample.answer (fun _ => True) (fun _ => True) _ middle openTrace outcome final :=
    session_of_play (by simp) (by simp) got
  exact ⟨middle, storeTrace, openTrace, outcome, final, storing, opening, whole,
    (stored_opens Sample.versioned Sample.hexdigest Sample.storage Sample.upload ⟨Sample.abc, 2⟩ ⟨Sample.abc, 0⟩
      (by decide +kernel) rfl (by decide +kernel) [] middle final "vv" storeTrace openTrace Sample.reports outcome
      storing opening).2⟩

/-- A record without a version or a key; `discover_kms_provenance` finds both. -/
theorem verified_opens_sample : ∃ middle final checkTrace openTrace outcome bytes,
    Session Sample.answer (fun _ => True) (fun _ => True)
      (discoverKmsProvenance { Sample.request with versionId := "", expectedKmsKeyArn := none })
      (run (afterCall Sample.answer) [] [(Sample.rival, ()), (Sample.rival, ())]) checkTrace
      (.ok ⟨Sample.storage.kmsKeyArn, "vv"⟩) middle ∧
    Session Sample.answer (fun _ => True) (fun _ => True) (openRecorded (readUpTo 2) Sample.reports
      (fun bytes => toHex (Sample.sha256 bytes)) { Sample.request with versionId := "vv" }) middle openTrace outcome
      final ∧
    outcome.1 = .ok ⟨Sample.abc, 0⟩ ∧ bytes.length = 3 ∧ toHex (Sample.sha256 bytes) = Sample.request.sha256 ∧
    Opened Sample.answer (readUpTo 2) Sample.versions Sample.reports { Sample.request with versionId := "vv" } bytes
      openTrace outcome := by
  have begins : ((discoverKmsProvenance { Sample.request with versionId := "", expectedKmsKeyArn := none }).play
      Sample.answer (run (afterCall Sample.answer) [] [(Sample.rival, ()), (Sample.rival, ())]) [([], ())]).map
      (fun played => (played.2.1, ((openRecorded (readUpTo 2) Sample.reports (fun bytes => toHex (Sample.sha256 bytes))
        { Sample.request with versionId := "vv" }).play Sample.answer played.2.2 Sample.openMoves).map
          (fun opened => opened.2.1.1))) =
        some (.ok ⟨Sample.storage.kmsKeyArn, "vv"⟩, some (.ok ⟨Sample.abc, 0⟩)) := by decide +kernel
  obtain ⟨⟨checkTrace, found, middle⟩, checked, same⟩ := Option.map_eq_some_iff.mp begins
  obtain ⟨rfl, opens⟩ := Prod.mk.inj same
  obtain ⟨⟨openTrace, outcome, final⟩, got, whole⟩ := Option.map_eq_some_iff.mp opens
  have discovering : Session Sample.answer (fun _ => True) (fun _ => True) _ _ checkTrace _ middle :=
    session_of_play (by simp) (by simp) checked
  have opening : Session Sample.answer (fun _ => True) (fun _ => True) _ middle openTrace outcome final :=
    session_of_play (by simp) (by simp) got
  obtain ⟨bytes, length, digest, opened⟩ := verified_opens Sample.versioned Sample.sha256 Sample.checksummed
    { Sample.request with versionId := "", expectedKmsKeyArn := none } (by decide +kernel) (Sample.sha256 Sample.abc)
    (by decide +kernel) _ middle final checkTrace openTrace Sample.reports outcome _
    (Or.inr ⟨⟨Sample.storage.kmsKeyArn, "vv"⟩, rfl, discovering⟩) opening
  exact ⟨middle, final, checkTrace, openTrace, outcome, bytes, discovering, opening, whole, length, digest, opened⟩

end PharmaIntel.Storage
