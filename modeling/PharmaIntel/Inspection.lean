import Mathlib
import PharmaIntel.ByteOrderMark
import PharmaIntel.Codecs
import PharmaIntel.Staging
import PharmaIntel.Storage

/-! The inspection of an uploaded file, and the decoding of its stored copy. Case folding,
SHA-256 and the test of a workbook are parameters. -/

namespace PharmaIntel.Inspection
open PharmaIntel.Base PharmaIntel.Base.Utf8 PharmaIntel.Codecs PharmaIntel.Models PharmaIntel.PyText

/-- The pieces in which some content is read. -/
structure Chunks (content : List UInt8) where
  pieces : List (List UInt8)
  whole : pieces.flatten = content

/-! ## CSV -/

/-- The variables of the loop in `_validate_csv`. -/
structure CsvScan where
  decoder : IncrementalDecoder := utf8Sig
  decodedNonWhitespace : Bool := false
  bytesRead : Nat := 0
  deriving DecidableEq, Repr

/-- `any(not character.isspace() for character in text)`. -/
def anyNonWhitespace (text : List Char) : Bool := text.any (fun character => !isspace character)

def exceedsLimit : PyError := .validationError "The file exceeds the configured upload limit."

def notUtf8 : PyError := .validationError "CSV files must use UTF-8 text encoding."

/-- One chunk in the loop of `_validate_csv`. -/
def CsvScan.take (maxBytes : Nat) (scan : CsvScan) (chunk : List UInt8) : Except PyError CsvScan :=
  if maxBytes < scan.bytesRead + chunk.length then .error exceedsLimit
  else if 0 ∈ chunk then .error (.validationError "CSV files cannot contain null bytes.")
  else
    match scan.decoder.decode chunk false with
    | none => .error notUtf8
    | some (text, decoder) =>
        .ok ⟨decoder, scan.decodedNonWhitespace || anyNonWhitespace text, scan.bytesRead + chunk.length⟩

/-- What `_validate_csv` does behind the loop. -/
def CsvScan.finish (scan : CsvScan) : Except PyError Unit :=
  match scan.decoder.decode [] true with
  | none => .error notUtf8
  | some (tail, _) =>
      if scan.decodedNonWhitespace || anyNonWhitespace tail then .ok ()
      else .error (.validationError "The CSV file contains no data.")

/-- `_validate_csv`. -/
def validateCsv (maxBytes : Nat) (chunks : List (List UInt8)) : Except PyError Unit :=
  (chunks.foldlM (CsvScan.take maxBytes) {}).bind CsvScan.finish

/-! ## The upload -/

/-- The content is read once for the digest and once for the test of a CSV. -/
structure UploadedFile where
  name : String
  size : Option Nat
  content : List UInt8
  digestChunks : Chunks content
  csvChunks : Chunks content

structure InspectedSalesFile where
  fileFormat : SalesImport.FileFormat
  sizeBytes : Nat
  sha256 : String
  deriving DecidableEq, Repr

def normalizedFilename (name : String) : Except PyError String :=
  let filename := strip (String.ofList
    ((name.toList.map (fun c => if c = '\\' then '/' else c)).rtakeWhile (fun c => c ≠ '/')))
  if filename = "" ∨ 255 < filename.length then
    .error (.validationError "The filename must contain between 1 and 255 characters.")
  else .ok filename

/-- `PurePosixPath(filename).suffix`: from the last dot on, unless only dots come before it. -/
def suffix (filename : String) : String :=
  if (filename.toList.rdropWhile (fun c => c ≠ '.')).all (fun c => c = '.') then ""
  else String.ofList ('.' :: filename.toList.rtakeWhile (fun c => c ≠ '.'))

def formatBySuffix (suffix : String) : Option SalesImport.FileFormat :=
  if suffix = ".csv" then some .csv else if suffix = ".xlsx" then some .xlsx else none

/-- One chunk in the loop that counts and digests: the size, and what was digested. -/
def digestChunk (maxBytes : Nat) (state : Nat × List UInt8) (chunk : List UInt8) :
    Except PyError (Nat × List UInt8) :=
  if maxBytes < state.1 + chunk.length then .error exceedsLimit
  else .ok (state.1 + chunk.length, state.2 ++ chunk)

section Inspecting
variable (casefold : String → String) (hexdigest : List UInt8 → String)
  (validateXlsx : Nat → List UInt8 → Except PyError Unit) (maxBytes : Nat) (file : UploadedFile)

/-- The part of `inspect_sales_file` that reads the content. -/
def inspectContent (fileFormat : SalesImport.FileFormat) : Except PyError InspectedSalesFile := do
  let (sizeBytes, digested) ← file.digestChunks.pieces.foldlM (digestChunk maxBytes) (0, [])
  if sizeBytes = 0 then .error (.validationError "The uploaded file is empty.")
  else
    match fileFormat with
    | .csv => validateCsv maxBytes file.csvChunks.pieces
    | .xlsx => validateXlsx maxBytes file.content
    .ok ⟨fileFormat, sizeBytes, hexdigest digested⟩

/-- `inspect_sales_file`. -/
def inspectSalesFile : Except PyError InspectedSalesFile := do
  let filename ← normalizedFilename file.name
  match formatBySuffix (casefold (suffix filename)) with
  | none => .error (.validationError "Upload a .csv or .xlsx file.")
  | some fileFormat =>
      if file.size.any (fun declaredSize => decide (maxBytes < declaredSize)) then .error exceedsLimit
      else inspectContent hexdigest validateXlsx maxBytes file fileFormat

end Inspecting

/-! ## The loop of `_validate_csv` -/

/-- What the loop knows once it has read the bytes. -/
structure Scanned (maxBytes : Nat) (seen : List UInt8) (scan : CsvScan) : Prop where
  counted : scan.bytesRead = seen.length
  within : seen.length ≤ maxBytes
  noNull : 0 ∉ seen
  decoded : ∃ text, utf8Sig.decode seen false = some (text, scan.decoder) ∧
    scan.decodedNonWhitespace = anyNonWhitespace text

theorem scanned_start (maxBytes : Nat) : Scanned maxBytes [] {} where
  counted := rfl
  within := Nat.zero_le _
  noNull := List.not_mem_nil
  decoded := ⟨[], rfl, rfl⟩

theorem anyNonWhitespace_append (first second : List Char) :
    anyNonWhitespace (first ++ second) = (anyNonWhitespace first || anyNonWhitespace second) :=
  List.any_append

/-- One chunk is accepted exactly if the bytes so far stay acceptable. -/
theorem take_scanned {maxBytes : Nat} {seen : List UInt8} {scan : CsvScan} (scanned : Scanned maxBytes seen scan)
    (chunk : List UInt8) (next : CsvScan) :
    scan.take maxBytes chunk = .ok next ↔ Scanned maxBytes (seen ++ chunk) next := by
  obtain ⟨text, decoded, visible⟩ := scanned.decoded
  have whole : utf8Sig.decode (seen ++ chunk) false =
      (scan.decoder.decode chunk false).map (fun later => (text ++ later.1, later.2)) := by
    rw [decode_append, decoded]
    rfl
  constructor
  · intro taken
    unfold CsvScan.take at taken
    split_ifs at taken with larger null
    cases read : scan.decoder.decode chunk false with
    | none =>
      rw [read] at taken
      cases taken
    | some later =>
      rw [read] at taken
      obtain rfl := Except.ok.inj taken
      refine ⟨?_, ?_, ?_, text ++ later.1, ?_, ?_⟩
      · rw [List.length_append, ← scanned.counted]
      · rw [List.length_append, ← scanned.counted]
        omega
      · rw [List.mem_append]
        exact not_or.mpr ⟨scanned.noNull, null⟩
      · rw [whole, read]
        rfl
      · rw [anyNonWhitespace_append, ← visible]
  · obtain ⟨decoder, decodedNonWhitespace, bytesRead⟩ := next
    rintro ⟨counted, within, noNull, all, read, shown⟩
    rw [List.length_append] at counted within
    rw [List.mem_append, not_or] at noNull
    rw [whole] at read
    obtain ⟨later, piece, same⟩ := Option.map_eq_some_iff.mp read
    obtain ⟨rfl, rfl⟩ := Prod.mk.inj same
    have small : ¬maxBytes < scan.bytesRead + chunk.length := by
      rw [scanned.counted]
      omega
    dsimp only at counted shown
    subst counted shown
    rw [CsvScan.take, if_neg small, if_neg noNull.2, piece, anyNonWhitespace_append, ← visible, ← scanned.counted]

theorem Scanned.front {maxBytes : Nat} {seen more : List UInt8} {final : CsvScan}
    (scanned : Scanned maxBytes (seen ++ more) final) : ∃ scan, Scanned maxBytes seen scan := by
  obtain ⟨_, within, noNull, all, read, _⟩ := scanned
  rw [decode_append] at read
  obtain ⟨⟨text, decoder⟩, decoded, _⟩ := Option.bind_eq_some_iff.mp read
  rw [List.length_append] at within
  rw [List.mem_append, not_or] at noNull
  exact ⟨⟨decoder, anyNonWhitespace text, seen.length⟩, rfl, by omega, noNull.1, text, decoded, rfl⟩

/-- However the bytes are divided, the loop ends as if they came at once. -/
theorem scan_chunks {maxBytes : Nat} (chunks : List (List UInt8)) {seen : List UInt8} {scan : CsvScan}
    (scanned : Scanned maxBytes seen scan) (final : CsvScan) :
    chunks.foldlM (CsvScan.take maxBytes) scan = .ok final ↔ Scanned maxBytes (seen ++ chunks.flatten) final := by
  induction chunks generalizing seen scan with
  | nil =>
    rw [List.flatten_nil, List.append_nil]
    constructor
    · intro ended
      obtain rfl := Except.ok.inj ended
      exact scanned
    · intro known
      have again := (take_scanned scanned [] final).mpr (by rwa [List.append_nil])
      have same := (take_scanned scanned [] scan).mpr (by rwa [List.append_nil])
      rw [same] at again
      exact again
  | cons chunk rest ih =>
    rw [List.foldlM_cons, List.flatten_cons, ← List.append_assoc]
    constructor
    · intro ended
      cases taken : scan.take maxBytes chunk with
      | error refusal =>
        rw [taken] at ended
        cases ended
      | ok middle =>
        rw [taken] at ended
        exact (ih ((take_scanned scanned chunk middle).mp taken)).mp ended
    · intro whole
      obtain ⟨middle, front⟩ := whole.front
      rw [(take_scanned scanned chunk middle).mpr front]
      exact (ih front).mpr whole

theorem finish_ok (scan : CsvScan) : scan.finish = .ok () ↔ ∃ tail next,
    scan.decoder.decode [] true = some (tail, next) ∧
      (scan.decodedNonWhitespace || anyNonWhitespace tail) = true := by
  unfold CsvScan.finish
  constructor
  · intro accepted
    split at accepted
    · cases accepted
    · rename_i tail next read
      split_ifs at accepted with visible
      exact ⟨tail, next, read, visible⟩
  · rintro ⟨tail, next, read, visible⟩
    rw [read]
    exact if_pos visible

/-- `_validate_csv` judges the bytes as one string. -/
theorem validateCsv_ok (maxBytes : Nat) (chunks : List (List UInt8)) :
    validateCsv maxBytes chunks = .ok () ↔ chunks.flatten.length ≤ maxBytes ∧ 0 ∉ chunks.flatten ∧
      ∃ text, encode text = withoutMark chunks.flatten ∧ ∃ character ∈ text, isspace character = false := by
  have scanned := scan_chunks chunks (scanned_start maxBytes)
  rw [List.nil_append] at scanned
  have shown : ∀ text, anyNonWhitespace text = true ↔ ∃ character ∈ text, isspace character = false := by
    intro text
    simp [anyNonWhitespace]
  unfold validateCsv
  constructor
  · intro accepted
    cases ended : chunks.foldlM (CsvScan.take maxBytes) {} with
    | error refusal =>
      rw [ended] at accepted
      cases accepted
    | ok scan =>
      rw [ended] at accepted
      obtain ⟨_, within, noNull, text, decoded, visible⟩ := (scanned scan).mp ended
      obtain ⟨tail, next, flushed, some⟩ := (finish_ok scan).mp accepted
      rw [visible, ← anyNonWhitespace_append] at some
      have whole : utf8Sig.decode chunks.flatten true = .some (text ++ tail, next) := by
        have parts := decode_append utf8Sig chunks.flatten [] true
        rw [List.append_nil, decoded, Option.bind_some, flushed] at parts
        exact parts
      have nonempty : text ++ tail ≠ [] := by
        intro empty
        rw [empty] at some
        cases some
      exact ⟨within, noNull, text ++ tail, (utf8Sig_decode_final nonempty).mp ⟨next, whole⟩, (shown _).mp some⟩
  · rintro ⟨within, noNull, text, encoded, some⟩
    have nonempty : text ≠ [] := by
      rintro rfl
      obtain ⟨_, member, _⟩ := some
      cases member
    obtain ⟨next, whole⟩ := (utf8Sig_decode_final nonempty).mpr encoded
    have parts := decode_append utf8Sig chunks.flatten [] true
    rw [List.append_nil, whole] at parts
    obtain ⟨⟨front, decoder⟩, decoded, rest⟩ := Option.bind_eq_some_iff.mp parts.symm
    obtain ⟨⟨tail, last⟩, flushed, same⟩ := Option.map_eq_some_iff.mp rest
    obtain ⟨rfl, rfl⟩ := Prod.mk.inj same
    have ended := (scanned ⟨decoder, anyNonWhitespace front, chunks.flatten.length⟩).mpr
      ⟨rfl, within, noNull, front, decoded, rfl⟩
    rw [ended]
    refine (finish_ok _).mpr ⟨tail, last, flushed, ?_⟩
    rw [← anyNonWhitespace_append]
    exact (shown _).mpr some

/-- A letter of two bytes, whole across two chunks and cut off at the end. -/
example : validateCsv 9 [[0xEF, 0xBB], [0xBF, 0xC3], [0xA9]] = .ok () ∧ validateCsv 9 [[0xC3]] = .error notUtf8 := by
  decide +kernel

/-! ## The accepted upload -/

theorem digest_chunks {maxBytes : Nat} (chunks : List (List UInt8)) {state final : Nat × List UInt8}
    (counted : chunks.foldlM (digestChunk maxBytes) state = .ok final) :
    final = (state.1 + chunks.flatten.length, state.2 ++ chunks.flatten) := by
  induction chunks generalizing state with
  | nil =>
    obtain rfl := Except.ok.inj counted
    simp
  | cons chunk rest ih =>
    rw [List.foldlM_cons, digestChunk] at counted
    split_ifs at counted with larger
    · cases counted
    · rw [ih counted, List.flatten_cons, List.length_append, List.append_assoc, Nat.add_assoc]

section Accepted
variable {casefold : String → String} {hexdigest : List UInt8 → String}
  {validateXlsx : Nat → List UInt8 → Except PyError Unit} {maxBytes : Nat} {file : UploadedFile}
  {inspected : InspectedSalesFile}

theorem inspectContent_ok {fileFormat : SalesImport.FileFormat}
    (accepted : inspectContent hexdigest validateXlsx maxBytes file fileFormat = .ok inspected) :
    inspected = ⟨fileFormat, file.content.length, hexdigest file.content⟩ ∧
      (fileFormat = .csv → validateCsv maxBytes file.csvChunks.pieces = .ok ()) := by
  unfold inspectContent at accepted
  cases counted : file.digestChunks.pieces.foldlM (digestChunk maxBytes) (0, []) with
  | error refusal =>
    rw [counted] at accepted
    cases accepted
  | ok final =>
    obtain rfl := digest_chunks file.digestChunks.pieces counted
    rw [counted] at accepted
    rw [file.digestChunks.whole, Nat.zero_add, List.nil_append] at accepted
    change (if file.content.length = 0 then _ else _) = _ at accepted
    split_ifs at accepted with empty
    cases fileFormat with
    | csv =>
      cases valid : validateCsv maxBytes file.csvChunks.pieces with
      | error refusal =>
        rw [valid] at accepted
        cases accepted
      | ok =>
        rw [valid] at accepted
        exact ⟨(Except.ok.inj accepted).symm, fun _ => rfl⟩
    | xlsx =>
      cases valid : validateXlsx maxBytes file.content with
      | error refusal =>
        rw [valid] at accepted
        cases accepted
      | ok =>
        rw [valid] at accepted
        exact ⟨(Except.ok.inj accepted).symm, fun same => by cases same⟩

theorem inspectSalesFile_ok
    (accepted : inspectSalesFile casefold hexdigest validateXlsx maxBytes file = .ok inspected) :
    inspectContent hexdigest validateXlsx maxBytes file inspected.fileFormat = .ok inspected := by
  unfold inspectSalesFile at accepted
  cases named : normalizedFilename file.name with
  | error refusal =>
    rw [named] at accepted
    cases accepted
  | ok filename =>
    rw [named] at accepted
    change (match formatBySuffix (casefold (suffix filename)) with | none => _ | some fileFormat => _) = _ at accepted
    split at accepted
    · cases accepted
    · split_ifs at accepted
      have content := (inspectContent_ok accepted).1
      rw [content]
      rw [content] at accepted
      exact accepted

/-- The accepted bytes are a text for `utf-8` too; there a mark is its first character. -/
theorem accepted_text (inspection : inspectSalesFile casefold hexdigest validateXlsx maxBytes file = .ok inspected)
    (csv : inspected.fileFormat = .csv) : ∃ text, encode text = file.content := by
  have valid := (inspectContent_ok (inspectSalesFile_ok inspection)).2 csv
  obtain ⟨_, _, text, encoded, _⟩ := (validateCsv_ok maxBytes file.csvChunks.pieces).mp valid
  rw [file.csvChunks.whole] at encoded
  unfold withoutMark at encoded
  split_ifs at encoded with marked
  · obtain ⟨rest, whole⟩ := marked
    rw [← whole] at encoded ⊢
    have tail : encode text = rest := encoded
    refine ⟨Csv.mark :: text, ?_⟩
    rw [encode_cons, tail]
    rfl
  · exact ⟨text, encoded⟩

end Accepted

theorem yieldRows_decodable (ucd : UnicodeDatabase) (headers : List String) {ending : Csv.Ending}
    (decodable : ending ≠ .undecodable) (v : Contracts.SalesRowsV1Validator) (records : List Csv.Record) :
    (Contracts.yieldRows ucd headers ending v records).2 ≠ .unicodeDecodeError := by
  induction records generalizing v with
  | nil =>
    rw [Contracts.yieldRows]
    cases ending with
    | endOfFile =>
      simp only [Contracts.rowsEnd]
      split_ifs <;> simp
    | malformed lineNum => simp [Contracts.rowsEnd, Contracts.malformed]
    | undecodable => exact absurd rfl decodable
  | cons record rest ih =>
    rw [Contracts.yieldRows]
    split_ifs
    · exact ih v
    · cases Contracts.recordResult ucd headers v record with
      | error refusal => simp
      | ok pair => exact ih pair.2

/-- Over decodable lines no row ever meets a decoding error. -/
theorem iterSalesRowsV1Csv_decodable (ucd : UnicodeDatabase) (lines : List String) (maxRows : Nat) :
    (Contracts.iterSalesRowsV1Csv ucd { lines := lines } maxRows).2 ≠ .unicodeDecodeError := by
  have decodable : (Csv.records { lines := lines }).2 ≠ .undecodable := Csv.recordsFrom_decodable lines .reset 1 0
  unfold Contracts.iterSalesRowsV1Csv
  split
  · simp
  · simp [Contracts.malformed]
  · rename_i read
    rw [read] at decodable
    exact absurd rfl decodable
  · rename_i header rest ending read
    rw [read] at decodable
    cases Contracts.validateSalesHeaders header.cells with
    | error refusal => simp
    | ok headers =>
      dsimp only
      split_ifs
      · simp
      · exact yieldRows_decodable ucd headers decodable _ rest

/-- The upload is judged by its bytes alone, and what is accepted and downloaded again is decoded
in full. SHA-256 is taken to tell the download from the upload if they differ. -/
theorem inspection_agrees (maxBytes : Nat) :
    (∀ chunks : List (List UInt8), validateCsv maxBytes chunks = .ok () ↔
      chunks.flatten.length ≤ maxBytes ∧ 0 ∉ chunks.flatten ∧
        ∃ text, encode text = withoutMark chunks.flatten ∧ ∃ character ∈ text, isspace character = false) ∧
    ∀ (casefold : String → String) (hexdigest : List UInt8 → String)
      (validateXlsx : Nat → List UInt8 → Except PyError Unit) (file : UploadedFile) (inspected : InspectedSalesFile),
      inspectSalesFile casefold hexdigest validateXlsx maxBytes file = .ok inspected → inspected.fileFormat = .csv →
      ∀ (σ ε : Type) (reading : σ → Int → Reply UInt8 × σ) (progress : Option (Nat → Option ε))
        (request : Storage.VersionRequest) (response : Storage.GetObject σ) (stored : Storage.SpooledFile),
        request.sizeBytes = inspected.sizeBytes → request.sha256 = inspected.sha256 →
        (Storage.openVersion reading progress hexdigest request response).1 = .ok stored →
        (hexdigest stored.content = hexdigest file.content → stored.content = file.content) →
        ∀ binaryFile : Chunks (stored.content.drop stored.position), ∃ text, encode text = file.content ∧
          textIOWrapper binaryFile.pieces = { lines := Csv.splitLinesFrom [] text } ∧
          ∀ settings ucd, Staging.ending settings ucd (textIOWrapper binaryFile.pieces) ≠ .unicodeDecodeError := by
  refine ⟨validateCsv_ok maxBytes, ?_⟩
  intro casefold hexdigest validateXlsx file inspected accepted csv σ ε reading progress request response stored size
    checksum opened distinguishes binaryFile
  obtain ⟨position, _, digest⟩ := Storage.openVersion_verified opened
  have facts := (inspectContent_ok (inspectSalesFile_ok accepted)).1
  have recorded : inspected.sha256 = hexdigest file.content := by rw [facts]
  have same : stored.content = file.content := distinguishes (digest.trans (checksum.trans recorded))
  obtain ⟨text, encoded⟩ := accepted_text accepted csv
  have pieces : encode text = binaryFile.pieces.flatten := by
    rw [binaryFile.whole, position, List.drop_zero, same, encoded]
  have stream := textIOWrapper_encode pieces
  refine ⟨text, encoded, stream, fun settings ucd => ?_⟩
  rw [stream]
  exact iterSalesRowsV1Csv_decodable ucd _ settings.maxRows

namespace Sample
open Storage.Sample

def upload : UploadedFile where
  name := "a.csv"
  size := some 3
  content := abc
  digestChunks := ⟨[abc], rfl⟩
  csvChunks := ⟨[[97], [98, 99]], rfl⟩

end Sample

/-- Stored and read again, one byte at a time. -/
theorem inspection_agrees_sample :
    ∃ text, encode text = Storage.Sample.abc ∧
      textIOWrapper [[97], [98], [99]] = { lines := Csv.splitLinesFrom [] text } := by
  have serves := @readUpTo_serves _ 2 (by decide) Storage.Sample.abc
  have checked : Storage.checkRequest Storage.Sample.request = .ok "arn:aws:kms:eu-west-1:123456789012:key/one" := by
    decide +kernel
  have passes : Storage.validateStoredObject Storage.Sample.stored { Storage.Sample.request with
      expectedKmsKeyArn := some "arn:aws:kms:eu-west-1:123456789012:key/one" } = .ok "v1" := by
    decide +kernel
  have opened := Storage.openVersion_settled Storage.Sample.hexdigest checked passes
    (none : Option (Nat → Option Unit)) serves
  rcases opened with ⟨whole, _⟩ | ⟨raised, _, callback, _, _, given, _⟩
  · have decoded := (inspection_agrees 10).2 id Storage.Sample.hexdigest (fun _ _ => .ok ()) Sample.upload
      ⟨.csv, 3, Storage.Sample.request.sha256⟩ (by decide +kernel) rfl _ Unit (readUpTo 2) none Storage.Sample.request
      (.object Storage.Sample.stored (some Storage.Sample.abc)) ⟨Storage.Sample.abc, 0⟩ rfl rfl
      (whole.trans (by decide +kernel)) (fun _ => rfl) ⟨[[97], [98], [99]], rfl⟩
    obtain ⟨text, encoded, stream, _⟩ := decoded
    exact ⟨text, encoded, stream⟩
  · cases given

end PharmaIntel.Inspection
