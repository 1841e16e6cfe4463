import Mathlib
import PharmaIntel.Base.Dict
import PharmaIntel.Base.Run
import PharmaIntel.Base.Reader
import PharmaIntel.Programs

/-! The verified download of one stored object version. The response, its body and
SHA-256 are parameters; the reads, the bytes they gave and the progress reports are kept. -/

namespace PharmaIntel.Storage
open PharmaIntel.Base PharmaIntel.System

deriving instance DecidableEq for DownloadFailure

/-! ## The response -/

/-- What `get_object` and `head_object` report. `contentLength` is absent, a value that
`int` refuses, or the integer it gives; `versionId` is the text of what was reported. -/
structure StoredObject where
  contentLength : Option (Option Int)
  checksumSha256 : Option String
  metadata : Option (Dict String String)
  serverSideEncryption : Option String
  sseKmsKeyId : Option String
  versionId : Option String
  deriving DecidableEq, Repr

/-- The arguments of `open_version` that name and describe the version. -/
structure VersionRequest where
  bucketName : String
  objectKey : String
  versionId : String
  sizeBytes : Nat
  sha256 : String
  importId : String
  dataContract : String
  rowContract : String
  expectedKmsKeyArn : Option String
  deriving DecidableEq, Repr

def hexDigit (c : Char) : Option Nat :=
  if '0' ≤ c ∧ c ≤ '9' then some (c.toNat - '0'.toNat)
  else if 'a' ≤ c ∧ c ≤ 'f' then some (c.toNat - 'a'.toNat + 10)
  else if 'A' ≤ c ∧ c ≤ 'F' then some (c.toNat - 'A'.toNat + 10)
  else none

/-- `bytes.fromhex`; it skips ASCII whitespace between the bytes. -/
def fromHex : List Char → Option (List UInt8)
  | [] => some []
  | [c] => if c ∈ [' ', '\t', '\n', '\r', '\x0b', '\x0c'] then some [] else none
  | c :: d :: rest =>
      if c ∈ [' ', '\t', '\n', '\r', '\x0b', '\x0c'] then fromHex (d :: rest)
      else
        match hexDigit c, hexDigit d with
        | some high, some low => (fromHex rest).map (fun bytes => UInt8.ofNat (16 * high + low) :: bytes)
        | _, _ => none

def base64Digit (value : Nat) : Char :=
  "ABCDEFGHIJKLMNOPQRSTUVWXYZabcdefghijklmnopqrstuvwxyz0123456789+/".toList.getD value '='

/-- `base64.b64encode`. -/
def base64Encode : List UInt8 → List Char
  | [] => []
  | [a] => [base64Digit (a.toNat / 4), base64Digit (a.toNat % 4 * 16), '=', '=']
  | [a, b] =>
      [base64Digit (a.toNat / 4), base64Digit (a.toNat % 4 * 16 + b.toNat / 16),
        base64Digit (b.toNat % 16 * 4), '=']
  | a :: b :: c :: rest =>
      base64Digit (a.toNat / 4) :: base64Digit (a.toNat % 4 * 16 + b.toNat / 16) ::
        base64Digit (b.toNat % 16 * 4 + c.toNat / 64) :: base64Digit (c.toNat % 64) :: base64Encode rest

/-- `_required_expected_kms_key_arn`. -/
def requiredExpectedKmsKeyArn (value : Option String) : Except DownloadFailure String :=
  let expectedKey := PyText.strip (value.getD "")
  if expectedKey = "" then
    .error (.kmsProvenanceError ("The import does not record the KMS key used for this object. " ++
      "Backfill its exact-version KMS provenance before processing it."))
  else if Intake.isKmsKeyArn expectedKey = false then
    .error (.kmsProvenanceError "The import records an invalid KMS key ARN.")
  else .ok expectedKey

/-- `_validate_stored_object`; it gives the version that storage reports. -/
def validateStoredObject (stored : StoredObject) (request : VersionRequest) : Except DownloadFailure String :=
  match stored.contentLength.getD (some (-1)) with
  | none => .error (.verificationError "S3 did not report a valid object size.")
  | some storedSize =>
      if storedSize ≠ request.sizeBytes then
        .error (.verificationError "S3 reported an unexpected object size.")
      else
        match fromHex request.sha256.toList with
        | none => .error (.verificationError "The recorded object checksum is invalid.")
        | some digest =>
            let metadata := stored.metadata.getD Dict.empty
            if stored.checksumSha256 ≠ some (String.ofList (base64Encode digest)) then
              .error (.verificationError "S3 reported an unexpected object checksum.")
            else if metadata.get "sha256" ≠ some request.sha256 then
              .error (.verificationError "S3 did not retain the file checksum.")
            else if metadata.get "sales-import-id" ≠ some request.importId then
              .error (.verificationError "S3 did not retain the sales-import reference.")
            else if metadata.get "data-contract" ≠ some request.dataContract then
              .error (.verificationError "S3 did not retain the intake contract.")
            else if metadata.get "row-contract" ≠ some request.rowContract then
              .error (.verificationError "S3 did not retain the sales row contract.")
            else if stored.serverSideEncryption ≠ some "aws:kms" then
              .error (.verificationError "S3 did not apply KMS encryption.")
            else
              match requiredExpectedKmsKeyArn request.expectedKmsKeyArn with
              | .error failure => .error failure
              | .ok expectedKey =>
                  let storedVersionId := PyText.strip (stored.versionId.getD "")
                  if stored.sseKmsKeyId ≠ some expectedKey then
                    .error (.verificationError "S3 used an unexpected KMS key.")
                  else if storedVersionId = "" then
                    .error (.verificationError "S3 did not report the stored object version.")
                  else if request.versionId ≠ "" ∧ storedVersionId ≠ request.versionId then
                    .error (.verificationError "S3 reported an unexpected object version.")
                  else .ok storedVersionId

/-! ## The file -/

/-- `SpooledTemporaryFile`. -/
structure SpooledFile where
  content : List UInt8 := []
  position : Nat := 0
  deriving DecidableEq, Repr

/-- A write replaces what stands at the position, and moves behind it. -/
def SpooledFile.write (file : SpooledFile) (chunk : List UInt8) : SpooledFile where
  content := file.content.take file.position ++ chunk ++ file.content.drop (file.position + chunk.length)
  position := file.position + chunk.length

def SpooledFile.seek (file : SpooledFile) (position : Nat) : SpooledFile := { file with position := position }

/-! ## The loop -/

def downloadChunkSize : Int := 64 * 1024

/-- One byte more than the recorded size is asked for, to see a longer object. -/
def readSize (sizeBytes downloadedSize : Nat) : Int :=
  min downloadChunkSize (max ((sizeBytes : Int) - downloadedSize + 1) 1)

/-- The read requests, the bytes taken from the body and the progress reports. -/
structure Observed where
  requests : List Int := []
  taken : Nat := 0
  reported : List Nat := []
  deriving DecidableEq, Repr

/-- The loop's variables; `hashed` is what the digest was updated with. -/
structure Transfer (σ : Type) where
  body : σ
  downloadedSize : Nat := 0
  hashed : List UInt8 := []
  file : SpooledFile := {}
  observed : Observed := {}

/-- An exception of storage, or one that the progress callback raises. -/
inductive Raised (ε : Type) where
  | storage (failure : DownloadFailure)
  | callback (error : ε)
  deriving DecidableEq

section Downloads
variable {σ ε : Type}

/-- The body after a read of `size` bytes, with a chunk of this length. -/
def Transfer.asked (transfer : Transfer σ) (size : Int) (length : Nat) (body : σ) : Transfer σ :=
  { transfer with
    body := body
    observed := { transfer.observed with
      requests := transfer.observed.requests ++ [size]
      taken := transfer.observed.taken + length } }

def Transfer.accepted (transfer : Transfer σ) (chunk : List UInt8) : Transfer σ :=
  { transfer with
    downloadedSize := transfer.downloadedSize + chunk.length
    hashed := transfer.hashed ++ chunk
    file := transfer.file.write chunk }

def Transfer.told (transfer : Transfer σ) (progress : Option (Nat → Option ε)) : Transfer σ :=
  { transfer with
    observed := { transfer.observed with
      reported := transfer.observed.reported ++ progress.toList.map (fun _ => transfer.downloadedSize) } }

variable (reading : σ → Int → Reply UInt8 × σ) (sizeBytes : Nat) (progress : Option (Nat → Option ε))

/-- What the loop does with a chunk, once the body has given it. -/
def receive (asked : Transfer σ) (chunk : List UInt8) : Turn (Transfer σ) (Except (Raised ε) Unit × Transfer σ) :=
  if sizeBytes < asked.downloadedSize + chunk.length then
    .ended (.error (.storage (.verificationError "The downloaded object is larger than the recorded size.")), asked)
  else
    match progress.bind (fun callback => callback (asked.downloadedSize + chunk.length)) with
    | some error => .ended (.error (.callback error), (asked.accepted chunk).told progress)
    | none => .again ((asked.accepted chunk).told progress)

/-- One pass of the `while` loop. -/
def turn (transfer : Transfer σ) : Turn (Transfer σ) (Except (Raised ε) Unit × Transfer σ) :=
  match reading transfer.body (readSize sizeBytes transfer.downloadedSize) with
  | (.raised, body) =>
      .ended (.error (.storage (.downloadError "The stored object download was interrupted.")),
        transfer.asked (readSize sizeBytes transfer.downloadedSize) 0 body)
  | (.other truthy, body) =>
      if truthy then
        .ended (.error (.storage (.downloadError "S3 returned an invalid object data stream.")),
          transfer.asked (readSize sizeBytes transfer.downloadedSize) 0 body)
      else .ended (.ok (), transfer.asked (readSize sizeBytes transfer.downloadedSize) 0 body)
  | (.chunk chunk, body) =>
      if chunk = [] then .ended (.ok (), transfer.asked (readSize sizeBytes transfer.downloadedSize) 0 body)
      else
        receive sizeBytes progress
          (transfer.asked (readSize sizeBytes transfer.downloadedSize) chunk.length body) chunk

/-- A further pass has accepted a chunk. -/
theorem turn_again {transfer next : Transfer σ} (taken : turn reading sizeBytes progress transfer = .again next) :
    ∃ chunk body, reading transfer.body (readSize sizeBytes transfer.downloadedSize) = (.chunk chunk, body) ∧
      chunk ≠ [] ∧ transfer.downloadedSize + chunk.length ≤ sizeBytes ∧
      next = ((transfer.asked (readSize sizeBytes transfer.downloadedSize) chunk.length body).accepted
        chunk).told progress := by
  unfold turn at taken
  cases replied : reading transfer.body (readSize sizeBytes transfer.downloadedSize) with
  | mk reply body =>
    cases reply with
    | raised => simp [replied] at taken
    | other truthy => cases truthy <;> simp [replied] at taken
    | chunk chunk =>
      rw [replied] at taken
      simp only [receive] at taken
      split_ifs at taken with empty larger
      refine ⟨chunk, body, rfl, empty, Nat.le_of_not_lt larger, ?_⟩
      split at taken
      · cases taken
      · exact (Turn.again.inj taken).symm

def interrupted : DownloadFailure := .downloadError "The stored object download was interrupted."

def downloadLoop : Loop (Transfer σ) (Except (Raised ε) Unit × Transfer σ) where
  turn := turn reading sizeBytes progress
  measure := fun transfer => sizeBytes - transfer.downloadedSize
  decreases := by
    intro transfer next taken
    obtain ⟨chunk, body, _, nonempty, within, rfl⟩ := turn_again reading sizeBytes progress taken
    have some := List.length_pos_of_ne_nil nonempty
    change sizeBytes - (transfer.downloadedSize + chunk.length) < _
    omega

/-- How the loop ends, by what the last read gave. -/
inductive Exit (transfer : Transfer σ) : Except (Raised ε) Unit × Transfer σ → Prop where
  | finished {reply : Reply UInt8} {body : σ}
      (replied : reading transfer.body (readSize sizeBytes transfer.downloadedSize) = (reply, body))
      (falsy : reply = .chunk [] ∨ reply = .other false) :
      Exit transfer (.ok (), transfer.asked (readSize sizeBytes transfer.downloadedSize) 0 body)
  | broken {reply : Reply UInt8} {body : σ} (message : String)
      (replied : reading transfer.body (readSize sizeBytes transfer.downloadedSize) = (reply, body))
      (noChunk : reply = .raised ∧ .downloadError message = interrupted ∨ reply = .other true) :
      Exit transfer (.error (.storage (.downloadError message)),
        transfer.asked (readSize sizeBytes transfer.downloadedSize) 0 body)
  | larger {chunk : List UInt8} {body : σ}
      (replied : reading transfer.body (readSize sizeBytes transfer.downloadedSize) = (.chunk chunk, body))
      (beyond : sizeBytes < transfer.downloadedSize + chunk.length) :
      Exit transfer (.error (.storage (.verificationError "The downloaded object is larger than the recorded size.")),
        transfer.asked (readSize sizeBytes transfer.downloadedSize) chunk.length body)
  | escaped {chunk : List UInt8} {body : σ} {callback : Nat → Option ε} {error : ε}
      (replied : reading transfer.body (readSize sizeBytes transfer.downloadedSize) = (.chunk chunk, body))
      (nonempty : chunk ≠ []) (within : transfer.downloadedSize + chunk.length ≤ sizeBytes)
      (given : progress = some callback) (raises : callback (transfer.downloadedSize + chunk.length) = some error) :
      Exit transfer (.error (.callback error),
        ((transfer.asked (readSize sizeBytes transfer.downloadedSize) chunk.length body).accepted chunk).told progress)

theorem turn_ended {transfer : Transfer σ} {result : Except (Raised ε) Unit × Transfer σ}
    (taken : turn reading sizeBytes progress transfer = .ended result) :
    Exit reading sizeBytes progress transfer result := by
  unfold turn at taken
  cases replied : reading transfer.body (readSize sizeBytes transfer.downloadedSize) with
  | mk reply body =>
    rw [replied] at taken
    cases reply with
    | raised =>
      obtain rfl := Turn.ended.inj taken
      exact .broken _ replied (Or.inl ⟨rfl, rfl⟩)
    | other truthy =>
      cases truthy with
      | true =>
        obtain rfl := Turn.ended.inj taken
        exact .broken _ replied (Or.inr rfl)
      | false =>
        obtain rfl := Turn.ended.inj taken
        exact .finished replied (Or.inr rfl)
    | chunk chunk =>
      simp only [receive] at taken
      split_ifs at taken with empty larger
      · obtain rfl := Turn.ended.inj taken
        exact .finished replied (Or.inl (congrArg _ empty))
      · obtain rfl := Turn.ended.inj taken
        exact .larger replied larger
      · split at taken
        · rename_i error raised
          obtain ⟨callback, given, raises⟩ := Option.bind_eq_some_iff.mp raised
          obtain rfl := Turn.ended.inj taken
          exact .escaped replied empty (Nat.le_of_not_lt larger) given raises
        · cases taken

/-- What `get_object` answers: an exception with its error code, a value that is no
response, or a response with its body. -/
inductive GetObject (σ : Type) where
  | failed (errorCode : String)
  | invalid
  | object (stored : StoredObject) (body : Option σ)

/-- What `open_version` asks of its arguments before it calls S3. -/
def checkRequest (request : VersionRequest) : Except DownloadFailure String :=
  match requiredExpectedKmsKeyArn request.expectedKmsKeyArn with
  | .error failure => .error failure
  | .ok expectedKey =>
      if PyText.strip request.bucketName = "" then
        .error (.verificationError "The recorded S3 bucket is missing.")
      else if PyText.strip request.objectKey = "" then
        .error (.verificationError "The recorded S3 object key is missing.")
      else if PyText.strip request.versionId = "" then
        .error (.verificationError "The recorded S3 object version is missing.")
      else .ok expectedKey

/-- The tests behind the loop. -/
def verify (hexdigest : List UInt8 → String) (request : VersionRequest) (transfer : Transfer σ) :
    Except DownloadFailure SpooledFile :=
  if transfer.downloadedSize ≠ request.sizeBytes then
    .error (.verificationError "The downloaded object size does not match the recorded size.")
  else if hexdigest transfer.hashed ≠ request.sha256 then
    .error (.verificationError "The downloaded object checksum does not match the recorded checksum.")
  else .ok (transfer.file.seek 0)

/-- `open_version`; `hexdigest` is that of SHA-256. -/
def openVersion (hexdigest : List UInt8 → String) (request : VersionRequest) (response : GetObject σ) :
    Except (Raised ε) SpooledFile × Observed :=
  match checkRequest request with
  | .error failure => (.error (.storage failure), {})
  | .ok expectedKey =>
      match response with
      | .failed errorCode =>
          if errorCode ∈ ["404", "NoSuchKey", "NoSuchVersion", "NotFound"] then
            (.error (.storage (.notFoundError "The recorded S3 object version was not found.")), {})
          else (.error (.storage (.downloadError "The stored object could not be downloaded from S3.")), {})
      | .invalid => (.error (.storage (.verificationError "S3 returned an invalid object response.")), {})
      | .object _ none =>
          (.error (.storage (.verificationError "S3 did not return the stored object body.")), {})
      | .object stored (some body) =>
          match validateStoredObject stored { request with expectedKmsKeyArn := some expectedKey } with
          | .error failure => (.error (.storage failure), {})
          | .ok _ =>
              match (downloadLoop reading request.sizeBytes progress).run { body := body } with
              | (.error raised, transfer) => (.error raised, transfer.observed)
              | (.ok (), transfer) => ((verify hexdigest request transfer).mapError .storage, transfer.observed)

/-! ## What every pass keeps -/

/-- Between two passes: each has accepted a chunk, and written, hashed and reported it. -/
structure Accepting (transfer : Transfer σ) : Prop where
  counted : transfer.downloadedSize ≤ sizeBytes
  taken : transfer.observed.taken = transfer.downloadedSize
  reads : transfer.observed.requests.length ≤ transfer.downloadedSize
  requests : ∀ size ∈ transfer.observed.requests, 1 ≤ size ∧ size ≤ 65536
  content : transfer.file.content = transfer.hashed
  position : transfer.file.position = transfer.hashed.length
  length : transfer.hashed.length = transfer.downloadedSize
  increasing : transfer.observed.reported.Pairwise (· < ·)
  reported : ∀ count ∈ transfer.observed.reported, count ≤ transfer.downloadedSize
  last : progress.isSome → 0 < transfer.downloadedSize →
    transfer.observed.reported.getLast? = some transfer.downloadedSize

/-- When the loop has ended. -/
structure Limits (observed : Observed) : Prop where
  reads : observed.requests.length ≤ sizeBytes + 1
  requests : ∀ size ∈ observed.requests, 1 ≤ size ∧ size ≤ 65536
  increasing : observed.reported.Pairwise (· < ·)
  reported : ∀ count ∈ observed.reported, count ≤ sizeBytes

variable {reading sizeBytes progress}

theorem readSize_bounds (sizeBytes downloadedSize : Nat) :
    1 ≤ readSize sizeBytes downloadedSize ∧ readSize sizeBytes downloadedSize ≤ 65536 := by
  unfold readSize downloadChunkSize
  omega

theorem readSize_sentinel {downloadedSize : Nat} (counted : downloadedSize ≤ sizeBytes) :
    downloadedSize + readSize sizeBytes downloadedSize ≤ sizeBytes + 1 := by
  unfold readSize
  omega

theorem accepting_start (body : σ) : Accepting sizeBytes progress ({ body := body } : Transfer σ) where
  counted := Nat.zero_le _
  taken := rfl
  reads := Nat.le_refl _
  requests := by simp
  content := rfl
  position := rfl
  length := rfl
  increasing := .nil
  reported := by simp
  last := fun _ more => absurd more (Nat.lt_irrefl 0)

theorem requests_asked {transfer : Transfer σ} (accepting : Accepting sizeBytes progress transfer) (length : Nat)
    (body : σ) :
    ∀ size ∈ (transfer.asked (readSize sizeBytes transfer.downloadedSize) length body).observed.requests,
      1 ≤ size ∧ size ≤ 65536 := by
  intro size member
  rcases List.mem_append.mp member with before | here
  · exact accepting.requests size before
  · rw [List.mem_singleton.mp here]
    exact readSize_bounds sizeBytes transfer.downloadedSize

/-- At the end of the file a write appends. -/
theorem write_end {file : SpooledFile} (position : file.position = file.content.length) (chunk : List UInt8) :
    file.write chunk = ⟨file.content ++ chunk, file.position + chunk.length⟩ := by
  have behind : file.content.drop (file.position + chunk.length) = [] :=
    List.drop_eq_nil_of_le (position ▸ Nat.le_add_right _ _)
  rw [SpooledFile.write, behind, position, List.take_length, List.append_nil]

theorem accepting_accepted {transfer : Transfer σ} {chunk : List UInt8} (body : σ)
    (accepting : Accepting sizeBytes progress transfer) (nonempty : chunk ≠ [])
    (within : transfer.downloadedSize + chunk.length ≤ sizeBytes) :
    Accepting sizeBytes progress (((transfer.asked (readSize sizeBytes transfer.downloadedSize) chunk.length
      body).accepted chunk).told progress) := by
  have more := List.length_pos_of_ne_nil nonempty
  have written := write_end (accepting.position.trans (congrArg List.length accepting.content.symm)) chunk
  have reads := accepting.reads
  refine ⟨within, congrArg (· + chunk.length) accepting.taken, ?_, requests_asked accepting chunk.length body, ?_, ?_, ?_,
    ?_, ?_, ?_⟩
  · simp only [Transfer.told, Transfer.accepted, Transfer.asked, List.length_append, List.length_singleton]
    omega
  · change (transfer.file.write chunk).content = transfer.hashed ++ chunk
    rw [written, accepting.content]
  · change (transfer.file.write chunk).position = (transfer.hashed ++ chunk).length
    rw [written, accepting.position, List.length_append]
  · change (transfer.hashed ++ chunk).length = transfer.downloadedSize + chunk.length
    rw [List.length_append, accepting.length]
  · refine List.pairwise_append.mpr ⟨accepting.increasing, ?_, ?_⟩
    · cases progress <;> simp
    · intro earlier member later new
      have known := accepting.reported earlier member
      obtain ⟨_, _, rfl⟩ := List.mem_map.mp new
      change earlier < transfer.downloadedSize + chunk.length
      omega
  · intro count member
    change count ≤ transfer.downloadedSize + chunk.length
    rcases List.mem_append.mp member with before | here
    · exact Nat.le_add_right_of_le (accepting.reported count before)
    · obtain ⟨_, _, rfl⟩ := List.mem_map.mp here
      exact Nat.le_refl _
  · intro given _
    obtain ⟨callback, rfl⟩ := Option.isSome_iff_exists.mp given
    exact List.getLast?_concat

theorem accepting_again {transfer next : Transfer σ} (accepting : Accepting sizeBytes progress transfer)
    (taken : turn reading sizeBytes progress transfer = .again next) : Accepting sizeBytes progress next := by
  obtain ⟨chunk, body, _, nonempty, within, rfl⟩ := turn_again reading sizeBytes progress taken
  exact accepting_accepted body accepting nonempty within

theorem limits_asked {transfer : Transfer σ} (accepting : Accepting sizeBytes progress transfer) (length : Nat)
    (body : σ) :
    Limits sizeBytes (transfer.asked (readSize sizeBytes transfer.downloadedSize) length body).observed := by
  refine ⟨?_, requests_asked accepting length body, accepting.increasing,
    fun count member => Nat.le_trans (accepting.reported count member) accepting.counted⟩
  have reads := accepting.reads
  have counted := accepting.counted
  simp only [Transfer.asked, List.length_append, List.length_singleton]
  omega

theorem Accepting.limits {transfer : Transfer σ} (accepting : Accepting sizeBytes progress transfer) :
    Limits sizeBytes transfer.observed where
  reads := Nat.le_succ_of_le (Nat.le_trans accepting.reads accepting.counted)
  requests := accepting.requests
  increasing := accepting.increasing
  reported := fun count member => Nat.le_trans (accepting.reported count member) accepting.counted

theorem limits_ended {transfer : Transfer σ} {result : Except (Raised ε) Unit × Transfer σ}
    (accepting : Accepting sizeBytes progress transfer) (exit : Exit reading sizeBytes progress transfer result) :
    Limits sizeBytes result.2.observed := by
  cases exit with
  | finished | broken | larger => exact limits_asked accepting _ _
  | escaped replied nonempty within given raises => exact (accepting_accepted _ accepting nonempty within).limits

/-- Whatever the body does. -/
theorem loop_limits (body : σ) :
    Limits sizeBytes ((downloadLoop reading sizeBytes progress).run { body := body }).2.observed :=
  (downloadLoop reading sizeBytes progress).run_meets (Accepting sizeBytes progress)
    (fun result => Limits sizeBytes result.2.observed) (fun _ _ => accepting_again)
    (fun _ _ accepting ended => limits_ended accepting (turn_ended reading sizeBytes progress ended)) _
    (accepting_start body)

theorem bounded_again {transfer next : Transfer σ} (bounded : Bounded reading transfer.body)
    (taken : turn reading sizeBytes progress transfer = .again next) : Bounded reading next.body := by
  obtain ⟨chunk, body, replied, nonempty, _, rfl⟩ := turn_again reading sizeBytes progress taken
  exact (bounded.reads (readSize_bounds sizeBytes transfer.downloadedSize).1 replied).2 nonempty

theorem taken_ended {transfer : Transfer σ} {result : Except (Raised ε) Unit × Transfer σ}
    (accepting : Accepting sizeBytes progress transfer) (bounded : Bounded reading transfer.body)
    (exit : Exit reading sizeBytes progress transfer result) : result.2.observed.taken ≤ sizeBytes + 1 := by
  have taken := accepting.taken
  have counted := accepting.counted
  cases exit with
  | finished | broken =>
    change transfer.observed.taken + 0 ≤ _
    omega
  | larger replied beyond =>
    have length := (bounded.reads (readSize_bounds sizeBytes transfer.downloadedSize).1 replied).1
    have sentinel := readSize_sentinel counted
    simp only [Transfer.asked]
    omega
  | escaped replied nonempty within given raises =>
    simp only [Transfer.asked, Transfer.accepted, Transfer.told]
    omega

/-- The sentinel byte is the only one beyond the recorded size. -/
theorem loop_taken {body : σ} (bounded : Bounded reading body) :
    ((downloadLoop reading sizeBytes progress).run { body := body }).2.observed.taken ≤ sizeBytes + 1 :=
  (downloadLoop reading sizeBytes progress).run_meets
    (fun transfer => Accepting sizeBytes progress transfer ∧ Bounded reading transfer.body)
    (fun result => result.2.observed.taken ≤ sizeBytes + 1)
    (fun _ _ both taken => ⟨accepting_again both.1 taken, bounded_again both.2 taken⟩)
    (fun _ _ both ended => taken_ended both.1 both.2 (turn_ended reading sizeBytes progress ended)) _
    ⟨accepting_start body, bounded⟩

/-! ## What a body serves -/

/-- The callback's own exception leaves the loop, on a count it has received. -/
def Escaped (progress : Option (Nat → Option ε)) (observed : Observed) (raised : Raised ε) : Prop :=
  ∃ callback count error, progress = some callback ∧ count ∈ observed.reported ∧ callback count = some error ∧
    raised = .callback error

def tooLarge : DownloadFailure := .verificationError "The downloaded object is larger than the recorded size."

theorem escaped_told {transfer : Transfer σ} {callback : Nat → Option ε} {count : Nat} {error : ε}
    (given : progress = some callback) (counted : transfer.downloadedSize = count)
    (raises : callback count = some error) :
    Escaped progress (transfer.told progress).observed (.callback error) := by
  subst given counted
  exact ⟨callback, transfer.downloadedSize, error, rfl, List.mem_append_right _ (List.mem_singleton.mpr rfl),
    raises, rfl⟩

variable (sizeBytes progress) in
theorem loop_endless {body : σ} (endless : Endless reading body) :
    ∃ raised, ((downloadLoop reading sizeBytes progress).run { body := body }).1 = .error raised ∧
      (raised = .storage tooLarge ∨
        Escaped progress ((downloadLoop reading sizeBytes progress).run { body := body }).2.observed raised) := by
  refine (downloadLoop reading sizeBytes progress).run_meets
    (fun transfer : Transfer σ => Endless reading transfer.body)
    (fun result => ∃ raised, result.1 = .error raised ∧
      (raised = .storage tooLarge ∨ Escaped progress result.2.observed raised)) ?_ ?_ _ endless
  · intro transfer next endless taken
    obtain ⟨chunk, body, replied, _, _, rfl⟩ := turn_again reading sizeBytes progress taken
    obtain ⟨served, after, reads, _, _, later⟩ :=
      endless.reads (readSize_bounds sizeBytes transfer.downloadedSize).1
    obtain ⟨_, rfl⟩ := Prod.mk.inj (reads.symm.trans replied)
    exact later
  · intro transfer result endless ended
    obtain ⟨served, after, reads, nonempty, _, _⟩ :=
      endless.reads (readSize_bounds sizeBytes transfer.downloadedSize).1
    cases turn_ended reading sizeBytes progress ended with
    | finished replied falsy =>
      obtain ⟨same, _⟩ := Prod.mk.inj (reads.symm.trans replied)
      rcases falsy with rfl | rfl
      · exact absurd (Reply.chunk.inj same) nonempty
      · cases same
    | broken message replied noChunk =>
      obtain ⟨same, _⟩ := Prod.mk.inj (reads.symm.trans replied)
      rcases noChunk with ⟨rfl, _⟩ | rfl <;> cases same
    | larger => exact ⟨_, rfl, Or.inl rfl⟩
    | escaped replied some within given raises => exact ⟨_, rfl, Or.inr (escaped_told given rfl raises)⟩

/-- The last of the reads has raised. -/
def Interrupted (reading : σ → Int → Reply UInt8 × σ) (start : σ) (observed : Observed) : Prop :=
  ∃ asked size, observed.requests = asked ++ [size] ∧ (reading (readAll reading start asked) size).1 = .raised

/-- The body has delivered what was hashed, and still delivers the rest. -/
structure Serving (reading : σ → Int → Reply UInt8 × σ) (mayFail : Prop) (start : σ) (sizeBytes : Nat)
    (progress : Option (Nat → Option ε)) (bytes : List UInt8) (transfer : Transfer σ) : Prop
    extends Accepting sizeBytes progress transfer where
  reached : readAll reading start transfer.observed.requests = transfer.body
  rest : ∃ rest, bytes = transfer.hashed ++ rest ∧ Delivers reading mayFail transfer.body rest

variable {mayFail : Prop} {start : σ}

theorem serving_again {bytes : List UInt8} {transfer next : Transfer σ}
    (serving : Serving reading mayFail start sizeBytes progress bytes transfer)
    (taken : turn reading sizeBytes progress transfer = .again next) :
    Serving reading mayFail start sizeBytes progress bytes next := by
  have accepting := accepting_again serving.toAccepting taken
  obtain ⟨chunk, body, replied, nonempty, _, rfl⟩ := turn_again reading sizeBytes progress taken
  refine ⟨accepting, ?_, ?_⟩
  · change readAll reading start (transfer.observed.requests ++ [_]) = body
    rw [readAll_snoc, serving.reached, replied]
  · obtain ⟨items, whole, delivers⟩ := serving.rest
    rcases delivers.reads (readSize_bounds sizeBytes transfer.downloadedSize).1 with ⟨_, after, raises⟩ |
      ⟨served, rest, after, reads, same, _, _, later⟩
    · cases raises.symm.trans replied
    · obtain ⟨equal, rfl⟩ := Prod.mk.inj (reads.symm.trans replied)
      obtain rfl := Reply.chunk.inj equal
      refine ⟨rest, ?_, later nonempty⟩
      rw [whole, same]
      exact (List.append_assoc transfer.hashed served rest).symm

/-- A whole download, one that is too large, the callback's exception, or a body that fails. -/
def Settled (reading : σ → Int → Reply UInt8 × σ) (mayFail : Prop) (start : σ) (sizeBytes : Nat)
    (progress : Option (Nat → Option ε)) (bytes : List UInt8) (result : Except (Raised ε) Unit × Transfer σ) : Prop :=
  result.1 = .ok () ∧ result.2.hashed = bytes ∧ result.2.file.content = bytes ∧
      result.2.downloadedSize = bytes.length ∧ bytes.length ≤ sizeBytes ∧
      (progress.isSome → 0 < bytes.length → result.2.observed.reported.getLast? = some bytes.length) ∨
    result.1 = .error (.storage tooLarge) ∧ sizeBytes < bytes.length ∨
    (∃ raised, result.1 = .error raised ∧ Escaped progress result.2.observed raised) ∨
    mayFail ∧ result.1 = .error (.storage interrupted) ∧ Interrupted reading start result.2.observed

theorem serving_ended {bytes : List UInt8} {transfer : Transfer σ} {result : Except (Raised ε) Unit × Transfer σ}
    (serving : Serving reading mayFail start sizeBytes progress bytes transfer)
    (exit : Exit reading sizeBytes progress transfer result) :
    Settled reading mayFail start sizeBytes progress bytes result := by
  obtain ⟨items, whole, delivers⟩ := serving.rest
  have total := serving.length
  rcases delivers.reads (readSize_bounds sizeBytes transfer.downloadedSize).1 with ⟨fails, after, raises⟩ |
    ⟨served, rest, after, reads, same, length, ends, later⟩
  · cases exit with
    | finished replied falsy =>
      obtain ⟨equal, _⟩ := Prod.mk.inj (raises.symm.trans replied)
      rcases falsy with rfl | rfl <;> cases equal
    | broken message replied noChunk =>
      obtain ⟨equal, _⟩ := Prod.mk.inj (raises.symm.trans replied)
      rcases noChunk with ⟨_, said⟩ | rfl
      · refine Or.inr (Or.inr (Or.inr ⟨fails, congrArg (fun failure => Except.error (Raised.storage failure)) said,
          transfer.observed.requests, _, rfl, ?_⟩))
        rw [serving.reached, raises]
      · cases equal
    | larger replied beyond => cases raises.symm.trans replied
    | escaped replied nonempty within given thrown => cases raises.symm.trans replied
  · cases exit with
    | finished replied falsy =>
      obtain ⟨equal, _⟩ := Prod.mk.inj (reads.symm.trans replied)
      have empty : served = [] := by
        rcases falsy with rfl | rfl
        · exact Reply.chunk.inj equal
        · cases equal
      have all : transfer.hashed = bytes := by simp [whole, same, empty, ends empty]
      subst all
      refine Or.inl ⟨rfl, rfl, serving.content, total.symm, total ▸ serving.counted, ?_⟩
      rw [total]
      exact serving.last
    | broken message replied noChunk =>
      obtain ⟨equal, _⟩ := Prod.mk.inj (reads.symm.trans replied)
      rcases noChunk with ⟨rfl, _⟩ | rfl <;> cases equal
    | larger replied beyond =>
      obtain ⟨equal, _⟩ := Prod.mk.inj (reads.symm.trans replied)
      obtain rfl := Reply.chunk.inj equal
      refine Or.inr (Or.inl ⟨rfl, ?_⟩)
      rw [whole, same, List.length_append, List.length_append, total]
      omega
    | escaped replied nonempty within given raises =>
      exact Or.inr (Or.inr (Or.inl ⟨_, rfl, escaped_told given rfl raises⟩))

theorem loop_settled {body : σ} {bytes : List UInt8} (delivers : Delivers reading mayFail body bytes) :
    Settled reading mayFail body sizeBytes progress bytes
      ((downloadLoop reading sizeBytes progress).run { body := body }) :=
  (downloadLoop reading sizeBytes progress).run_meets (Serving reading mayFail body sizeBytes progress bytes)
    (Settled reading mayFail body sizeBytes progress bytes) (fun _ _ => serving_again)
    (fun _ _ serving ended => serving_ended serving (turn_ended reading sizeBytes progress ended)) _
    ⟨accepting_start body, rfl, bytes, rfl, delivers⟩

/-! ## The download -/

/-- What the bytes themselves decide. -/
def verdict (hexdigest : List UInt8 → String) (request : VersionRequest) (bytes : List UInt8) :
    Except DownloadFailure SpooledFile :=
  if request.sizeBytes < bytes.length then .error tooLarge
  else if bytes.length ≠ request.sizeBytes then
    .error (.verificationError "The downloaded object size does not match the recorded size.")
  else if hexdigest bytes ≠ request.sha256 then
    .error (.verificationError "The downloaded object checksum does not match the recorded checksum.")
  else .ok ⟨bytes, 0⟩

theorem verdict_ok (hexdigest : List UInt8 → String) (request : VersionRequest) (bytes : List UInt8) :
    verdict hexdigest request bytes = .ok ⟨bytes, 0⟩ ↔
      bytes.length = request.sizeBytes ∧ hexdigest bytes = request.sha256 := by
  unfold verdict
  split_ifs with larger differs broken
  · exact iff_of_false (by simp) (fun both => by omega)
  · exact iff_of_false (by simp) (fun both => differs both.1)
  · exact iff_of_false (by simp) (fun both => broken both.2)
  · exact iff_of_true rfl ⟨not_not.mp differs, not_not.mp broken⟩

theorem verdict_refused {hexdigest : List UInt8 → String} {request : VersionRequest} {bytes : List UInt8}
    (other : verdict hexdigest request bytes ≠ .ok ⟨bytes, 0⟩) :
    ∃ message, verdict hexdigest request bytes = .error (.verificationError message) := by
  unfold verdict at other ⊢
  split_ifs at other ⊢
  · exact ⟨_, rfl⟩
  · exact ⟨_, rfl⟩
  · exact ⟨_, rfl⟩
  · exact absurd rfl other

section Versions
variable (hexdigest : List UInt8 → String) {request : VersionRequest} {stored : StoredObject}
  {expectedKey version : String}

/-- Once the arguments and the response have passed, the loop decides. -/
theorem openVersion_loop (checked : checkRequest request = .ok expectedKey)
    (passes : validateStoredObject stored { request with expectedKmsKeyArn := some expectedKey } = .ok version)
    (reading : σ → Int → Reply UInt8 × σ) (progress : Option (Nat → Option ε)) (body : σ) :
    openVersion reading progress hexdigest request (.object stored (some body)) =
      (match (downloadLoop reading request.sizeBytes progress).run { body := body } with
        | (.error raised, transfer) => (.error raised, transfer.observed)
        | (.ok (), transfer) => ((verify hexdigest request transfer).mapError .storage, transfer.observed)) := by
  unfold openVersion
  rw [checked]
  simp only [passes]

theorem openVersion_observed (checked : checkRequest request = .ok expectedKey)
    (passes : validateStoredObject stored { request with expectedKmsKeyArn := some expectedKey } = .ok version)
    (reading : σ → Int → Reply UInt8 × σ) (progress : Option (Nat → Option ε)) (body : σ) :
    (openVersion reading progress hexdigest request (.object stored (some body))).2 =
      ((downloadLoop reading request.sizeBytes progress).run { body := body }).2.observed := by
  rw [openVersion_loop hexdigest checked passes]
  rcases (downloadLoop reading request.sizeBytes progress).run { body := body } with ⟨_ | _, transfer⟩ <;> rfl

theorem openVersion_raised (checked : checkRequest request = .ok expectedKey)
    (passes : validateStoredObject stored { request with expectedKmsKeyArn := some expectedKey } = .ok version)
    (reading : σ → Int → Reply UInt8 × σ) (progress : Option (Nat → Option ε)) (body : σ) {raised : Raised ε}
    (ended : ((downloadLoop reading request.sizeBytes progress).run { body := body }).1 = .error raised) :
    (openVersion reading progress hexdigest request (.object stored (some body))).1 = .error raised := by
  rw [openVersion_loop hexdigest checked passes]
  cases result : (downloadLoop reading request.sizeBytes progress).run { body := body } with
  | mk outcome transfer =>
    rw [result] at ended
    obtain rfl : outcome = .error raised := ended
    rfl

/-- The bytes decide, unless the callback raises or the body fails. -/
theorem openVersion_delivered (checked : checkRequest request = .ok expectedKey)
    (passes : validateStoredObject stored { request with expectedKmsKeyArn := some expectedKey } = .ok version)
    {reading : σ → Int → Reply UInt8 × σ} (progress : Option (Nat → Option ε)) {body : σ} {bytes : List UInt8}
    {mayFail : Prop} (delivers : Delivers reading mayFail body bytes) :
    let opened := openVersion reading progress hexdigest request (.object stored (some body))
    (opened.1 = (verdict hexdigest request bytes).mapError .storage ∧
        (progress.isSome → 0 < bytes.length → bytes.length = request.sizeBytes →
          opened.2.reported.getLast? = some request.sizeBytes)) ∨
      (∃ raised, opened.1 = .error raised ∧ Escaped progress opened.2 raised) ∨
      mayFail ∧ opened.1 = .error (.storage interrupted) ∧ Interrupted reading body opened.2 := by
  have settled : Settled reading mayFail body request.sizeBytes progress bytes
    ((downloadLoop reading request.sizeBytes progress).run { body := body }) := loop_settled delivers
  rw [openVersion_loop hexdigest checked passes]
  cases ended : (downloadLoop reading request.sizeBytes progress).run { body := body } with
  | mk result transfer =>
    rw [ended] at settled
    rcases settled with ⟨rfl, rfl, content, size, within, last⟩ | ⟨rfl, larger⟩ | ⟨raised, rfl, escaped⟩ |
      ⟨fails, rfl, broken⟩
    · left
      refine ⟨?_, fun given some whole => whole ▸ last given some⟩
      refine congrArg (Except.mapError Raised.storage) ?_
      unfold verify verdict
      rw [if_neg (Nat.not_lt.mpr within), size, SpooledFile.seek, content]
    · left
      refine ⟨?_, fun _ _ whole => by omega⟩
      rw [verdict, if_pos larger]
      rfl
    · exact Or.inr (Or.inl ⟨raised, rfl, escaped⟩)
    · exact Or.inr (Or.inr ⟨fails, rfl, broken⟩)

/-- A body that serves its bytes does not fail. -/
theorem openVersion_settled (checked : checkRequest request = .ok expectedKey)
    (passes : validateStoredObject stored { request with expectedKmsKeyArn := some expectedKey } = .ok version)
    {reading : σ → Int → Reply UInt8 × σ} (progress : Option (Nat → Option ε)) {body : σ} {bytes : List UInt8}
    (serves : Serves reading body bytes) :
    let opened := openVersion reading progress hexdigest request (.object stored (some body))
    opened.1 = (verdict hexdigest request bytes).mapError .storage ∧
        (progress.isSome → 0 < bytes.length → bytes.length = request.sizeBytes →
          opened.2.reported.getLast? = some request.sizeBytes) ∨
      ∃ raised, opened.1 = .error raised ∧ Escaped progress opened.2 raised := by
  rcases openVersion_delivered hexdigest checked passes progress (serves.delivers False) with
    decided | escaped | ⟨fails, _⟩
  · exact Or.inl decided
  · exact Or.inr escaped
  · exact absurd fails id

end Versions

/-- What has been written is what has been hashed and counted. -/
theorem loop_written (body : σ) :
    let ended := (downloadLoop reading sizeBytes progress).run { body := body }
    ended.1 = .ok () → ended.2.file.content = ended.2.hashed ∧ ended.2.hashed.length = ended.2.downloadedSize := by
  refine (downloadLoop reading sizeBytes progress).run_meets (Accepting sizeBytes progress)
    (fun result => result.1 = .ok () → result.2.file.content = result.2.hashed ∧
      result.2.hashed.length = result.2.downloadedSize) (fun _ _ => accepting_again) ?_ _ (accepting_start body)
  intro transfer result accepting ended finished
  cases turn_ended reading sizeBytes progress ended with
  | finished => exact ⟨accepting.content, accepting.length⟩
  | broken | larger | escaped => cases finished

theorem verify_ok {hexdigest : List UInt8 → String} {request : VersionRequest} {transfer : Transfer σ}
    {file : SpooledFile} (verified : verify hexdigest request transfer = .ok file) :
    file = transfer.file.seek 0 ∧ transfer.downloadedSize = request.sizeBytes ∧
      hexdigest transfer.hashed = request.sha256 := by
  unfold verify at verified
  split_ifs at verified with differs broken
  exact ⟨(Except.ok.inj verified).symm, not_not.mp differs, not_not.mp broken⟩

/-- Whatever S3 answers, a file that is yielded has the recorded size and checksum. -/
theorem openVersion_verified {hexdigest : List UInt8 → String} {request : VersionRequest} {response : GetObject σ}
    {file : SpooledFile} (opened : (openVersion reading progress hexdigest request response).1 = .ok file) :
    file.position = 0 ∧ file.content.length = request.sizeBytes ∧ hexdigest file.content = request.sha256 := by
  cases checked : checkRequest request with
  | error failure =>
    rw [openVersion, checked] at opened
    cases opened
  | ok expectedKey =>
    cases response with
    | failed errorCode =>
      rw [openVersion, checked] at opened
      dsimp only at opened
      split_ifs at opened
    | invalid =>
      rw [openVersion, checked] at opened
      cases opened
    | object stored body =>
      rcases body with _ | body
      · rw [openVersion, checked] at opened
        cases opened
      · cases passes : validateStoredObject stored { request with expectedKmsKeyArn := some expectedKey } with
        | error failure =>
          rw [openVersion, checked] at opened
          simp only [passes] at opened
          cases opened
        | ok version =>
          have written := @loop_written _ _ reading request.sizeBytes progress body
          rw [openVersion_loop hexdigest checked passes] at opened
          cases ended : (downloadLoop reading request.sizeBytes progress).run { body := body } with
          | mk result transfer =>
            rw [ended] at opened written
            rcases result with raised | _
            · cases opened
            · obtain ⟨content, length⟩ := written rfl
              dsimp only at opened content length
              cases verified : verify hexdigest request transfer with
              | error failure =>
                rw [verified] at opened
                cases opened
              | ok found =>
                rw [verified] at opened
                obtain rfl : found = file := Except.ok.inj opened
                obtain ⟨rfl, size, checksum⟩ := verify_ok verified
                rw [← content] at length checksum
                exact ⟨rfl, length.trans size, checksum⟩

/-- `open_version` yields the bytes exactly if they are the recorded ones, however the body
splits them. Only an exception of the progress callback itself can come instead. -/
theorem openVersion_exact (hexdigest : List UInt8 → String) (request : VersionRequest) (stored : StoredObject)
    (expectedKey version : String) (positive : 1 ≤ request.sizeBytes)
    (checked : checkRequest request = .ok expectedKey)
    (passes : validateStoredObject stored { request with expectedKmsKeyArn := some expectedKey } = .ok version)
    (reading : σ → Int → Reply UInt8 × σ) (body : σ) (progress : Option (Nat → Option ε)) :
    let opened := openVersion reading progress hexdigest request (.object stored (some body))
    (∀ size ∈ opened.2.requests, 1 ≤ size ∧ size ≤ 65536) ∧
    opened.2.requests.length ≤ request.sizeBytes + 2 ∧
    (Bounded reading body → opened.2.taken ≤ request.sizeBytes + 1) ∧
    opened.2.reported.Pairwise (· < ·) ∧ (∀ count ∈ opened.2.reported, count ≤ request.sizeBytes) ∧
    (Endless reading body → ∃ raised, opened.1 = .error raised ∧
      ((∃ message, raised = .storage (.verificationError message)) ∨ Escaped progress opened.2 raised)) ∧
    ∀ bytes, Serves reading body bytes →
      (∃ raised, opened.1 = .error raised ∧ Escaped progress opened.2 raised) ∨
      (opened.1 = .ok ⟨bytes, 0⟩ ↔ bytes.length = request.sizeBytes ∧ hexdigest bytes = request.sha256) ∧
      (¬(bytes.length = request.sizeBytes ∧ hexdigest bytes = request.sha256) →
        ∃ message, opened.1 = .error (.storage (.verificationError message))) ∧
      (opened.1 = .ok ⟨bytes, 0⟩ → progress.isSome → opened.2.reported.getLast? = some request.sizeBytes) ∧
      ∀ (τ : Type) (otherReading : τ → Int → Reply UInt8 × τ) (other : τ) (otherProgress : Option (Nat → Option ε)),
        Serves otherReading other bytes →
        let again := openVersion otherReading otherProgress hexdigest request (.object stored (some other))
        again.1 = opened.1 ∨ ∃ raised, again.1 = .error raised ∧ Escaped otherProgress again.2 raised := by
  intro opened
  have observed : opened.2 = ((downloadLoop reading request.sizeBytes progress).run { body := body }).2.observed :=
    openVersion_observed hexdigest checked passes reading progress body
  have limits : Limits request.sizeBytes opened.2 := observed ▸ loop_limits body
  refine ⟨limits.requests, Nat.le_succ_of_le limits.reads, fun bounded => observed ▸ loop_taken bounded,
    limits.increasing, limits.reported, ?_, ?_⟩
  · intro endless
    obtain ⟨raised, ended, large | escaped⟩ := loop_endless request.sizeBytes progress endless
    · exact ⟨raised, openVersion_raised hexdigest checked passes reading progress body ended, Or.inl ⟨_, large⟩⟩
    · exact ⟨raised, openVersion_raised hexdigest checked passes reading progress body ended,
        Or.inr (observed ▸ escaped)⟩
  · intro bytes serves
    rcases openVersion_settled hexdigest checked passes progress serves with ⟨same, last⟩ | escaped
    · have decided : opened.1 = .ok ⟨bytes, 0⟩ ↔ verdict hexdigest request bytes = .ok ⟨bytes, 0⟩ := by
        change (openVersion reading progress hexdigest request (.object stored (some body))).1 = _ ↔ _
        rw [same]
        cases verdict hexdigest request bytes <;> simp [Except.mapError]
      refine Or.inr ⟨decided.trans (verdict_ok hexdigest request bytes), ?_, ?_, ?_⟩
      · intro differs
        obtain ⟨message, refused⟩ := verdict_refused (fun ok => differs ((verdict_ok hexdigest request bytes).mp ok))
        refine ⟨message, same.trans ?_⟩
        rw [refused]
        rfl
      · intro ok given
        have whole := ((verdict_ok hexdigest request bytes).mp (decided.mp ok)).1
        exact last given (by omega) whole
      · intro τ otherReading other otherProgress otherServes
        rcases openVersion_settled hexdigest checked passes otherProgress otherServes with ⟨equal, _⟩ | escaped
        · exact Or.inl (equal.trans same.symm)
        · exact Or.inr escaped
    · exact Or.inl escaped

end Downloads

namespace Sample

def abc : List UInt8 := [97, 98, 99]

/-- SHA-256, as far as it is asked for here. -/
def hexdigest (bytes : List UInt8) : String :=
  if bytes = abc then "ba7816bf8f01cfea414140de5dae2223b00361a396177a9cb410ff61f20015ad" else ""

def request : VersionRequest where
  bucketName := "bucket"
  objectKey := "sales-imports/original/2026/01/3.csv"
  versionId := "v1"
  sizeBytes := 3
  sha256 := "ba7816bf8f01cfea414140de5dae2223b00361a396177a9cb410ff61f20015ad"
  importId := "3"
  dataContract := "sales_v1"
  rowContract := "sales_rows_v1"
  expectedKmsKeyArn := some "arn:aws:kms:eu-west-1:123456789012:key/one"

def stored : StoredObject where
  contentLength := some (some 3)
  checksumSha256 := some "ungWv48Bz+pBQUDeXa4iI7ADYaOWF3qctBD/YfIAFa0="
  metadata := some ⟨[("sha256", request.sha256), ("sales-import-id", "3"),
    ("data-contract", "sales_v1"), ("row-contract", "sales_rows_v1")]⟩
  serverSideEncryption := some "aws:kms"
  sseKmsKeyId := request.expectedKmsKeyArn
  versionId := some "v1"

end Sample

/-- Served in chunks of at most two bytes, with a callback that never raises. -/
theorem openVersion_exact_sample :
    let opened := openVersion (readUpTo 2) (some (fun _ => (none : Option Unit))) Sample.hexdigest Sample.request
      (.object Sample.stored (some Sample.abc))
    opened.1 = .ok ⟨Sample.abc, 0⟩ ∧ opened.2.reported.getLast? = some 3 ∧ opened.2.taken ≤ 4 := by
  intro opened
  have serves := @readUpTo_serves _ 2 (by decide) Sample.abc
  obtain ⟨_, _, taken, _, _, _, exact⟩ := openVersion_exact Sample.hexdigest Sample.request Sample.stored
    "arn:aws:kms:eu-west-1:123456789012:key/one" "v1" (by decide) (by decide +kernel) (by decide +kernel)
    (readUpTo 2) Sample.abc (some (fun _ => (none : Option Unit)))
  rcases exact Sample.abc serves with ⟨raised, _, callback, count, error, given, _, raises, _⟩ | ⟨whole, _, last, _⟩
  · obtain rfl := Option.some.inj given
    cases raises
  · have ok := whole.mpr ⟨rfl, rfl⟩
    exact ⟨ok, last ok rfl, taken serves.bounded⟩

end PharmaIntel.Storage
