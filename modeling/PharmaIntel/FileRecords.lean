import Mathlib
import PharmaIntel.StoredVersions
import PharmaIntel.Transitions

/-! What an intake records about its stored file, and which transactions may change that record. -/

namespace PharmaIntel.System
open PharmaIntel.Base PharmaIntel.Models PharmaIntel.Queue PharmaIntel.Intake PharmaIntel.Publication PharmaIntel.Storage

def dataContractValue : SalesImport.DataContract → String
  | .salesV1 => "sales_v1"

def rowContractValue : SalesImport.RowContract → String
  | .salesRowsV1 => "sales_rows_v1"

/-- The arguments with which `verify` and `open_version` are called for an intake. -/
def recordedFile (intake : SalesImport) : VersionRequest where
  bucketName := intake.storageBucket
  objectKey := intake.storageKey
  versionId := intake.storageVersionId
  sizeBytes := intake.sizeBytes
  sha256 := intake.sha256
  importId := toString intake.id
  dataContract := dataContractValue intake.dataContract
  rowContract := rowContractValue intake.rowContract
  expectedKmsKeyArn := intake.storageKmsKeyArn

/-- The calls that leave every record of a file as it is. -/
def Call.KeepsFiles : Call → Prop
  | .createImport _ | .completeReceiving _ _ | .recordProvenance _ _ _ => False
  | _ => True

/-- Every intake is still there, under the same record of its file. -/
def SameFiles (store next : Store) : Prop :=
  ∀ pk, (findImport next pk).map recordedFile = (findImport store pk).map recordedFile

theorem sameFiles_refl (store : Store) : SameFiles store store := fun _ => rfl

theorem SameFiles.trans {first second third : Store} (earlier : SameFiles first second)
    (later : SameFiles second third) : SameFiles first third :=
  fun pk => (later pk).trans (earlier pk)

theorem sameFiles_saveJob (store : Store) (table : FactTable) (jobId : Uuid) (job : SalesImportJob) :
    SameFiles store (saveJob { store with factTable := table } jobId job) := by
  intro pk
  by_cases same : pk = jobId
  · rw [same, findImport_saveJob_same]
    change ((findImport store jobId).map (withJob job)).map recordedFile = _
    rw [Option.map_map]
    rfl
  · rw [findImport_saveJob_other _ _ same]
    rfl

theorem sameFiles_updateImport {store : Store} {pk : Uuid} {change : SalesImport → SalesImport}
    {stable : Stable change}
    (kept : ∀ intake, findImport store pk = some intake → recordedFile (change intake) = recordedFile intake) :
    SameFiles store (updateImport store pk change stable) := by
  intro other
  by_cases same : other = pk
  · rw [same, findImport_updateImport_same]
    cases found : findImport store pk with
    | none => rfl
    | some intake => exact congrArg some (kept intake found)
  · rw [findImport_updateImport_other _ _ _ same]

section Calls
variable {store next : Store} {jobId leaseToken : Uuid} {now : Instant}

theorem enqueueImport_sameFiles {pk : Uuid} {maxAttempts : Nat} {createdAt : Instant} {value : SalesImportJob}
    (done : enqueueImport pk maxAttempts now createdAt store = .ok (value, next)) : SameFiles store next := by
  obtain ⟨_, intake, _, rfl⟩ := enqueueImport_ok done
  exact sameFiles_saveJob store store.factTable pk _

theorem markExhaustedJobs_sameFiles {due : List (SalesImport × SalesImportJob)}
    (done : markExhaustedJobs now due store = .ok next) : SameFiles store next := by
  induction due generalizing store with
  | nil =>
    injection done with same
    exact same ▸ sameFiles_refl store
  | cons pair rest ih =>
    simp only [markExhaustedJobs] at done
    split at done
    · cases done
    · exact (sameFiles_saveJob store store.factTable _ _).trans (ih done)

theorem abandonReceiving_sameFiles {pk : Uuid} {failureCode : SalesImport.FailureCode} {createdAt : Instant}
    {value : SalesImportJob} (done : abandonReceiving pk failureCode now createdAt store = .ok (value, next)) :
    SameFiles store next := by
  unfold abandonReceiving markFailed at done
  split at done
  · cases done
  · rename_i middle marked
    split_ifs at marked with coded receiving
    injection marked with same
    subst same
    refine (sameFiles_updateImport ?_).trans (enqueueImport_sameFiles done)
    intro intake found
    unfold failedImport
    split_ifs with fails
    · -- An intake that still waits for its file has no version to lose.
      have consistent := store.importTable.consistent intake (ImportTable.find_some found).1
      have unversioned : intake.storageVersionId = "" := by
        simp only [SalesImport.MetadataConsistent, fails.1] at consistent
        simp at consistent
        exact consistent.2.2.1
      simp only [recordedFile, unversioned]
    · rfl

theorem completeJob_sameFiles {status : SalesImportJob.Status} {counts : Option SalesImportJobCounts}
    {errorCode errorMessage : String} {value : SalesImportJob}
    (done : completeJob jobId leaseToken status counts errorCode errorMessage now store = .ok (value, next)) :
    SameFiles store next := by
  obtain ⟨_, _, _, rfl, _⟩ := @completeJob_ok Scope.all _ _ _ _ _ _ _ _ _ _ done
  exact sameFiles_saveJob store store.factTable jobId value

theorem completeStoredObjectFailure_sameFiles {claim : SalesImportClaim} {failureCode : SalesImport.FailureCode}
    {errorCode errorMessage : String} {value : SalesImportJob}
    (done : completeStoredObjectFailure claim failureCode errorCode errorMessage now store = .ok (value, next)) :
    SameFiles store next := by
  unfold completeStoredObjectFailure markStoredObjectFailed at done
  split at done
  · cases done
  · split at done
    · cases done
    · rename_i marked
      split_ifs at marked with permanent received
      injection marked with same
      subst same
      split at done
      · cases done
      · refine (sameFiles_updateImport ?_).trans (completeJob_sameFiles done)
        intro intake _
        unfold objectFailedImport
        split_ifs <;> rfl

end Calls

theorem execute_sameFiles {settings : Settings} {ucd : PyText.UnicodeDatabase} {env : Environment} {c : Call}
    {store next : Store} {reply : c.Reply} (keeps : c.KeepsFiles)
    (done : execute settings ucd env c store = .ok (reply, next)) : SameFiles store next := by
  have still : next = store → SameFiles store next := fun same => same ▸ sameFiles_refl store
  cases c with
  | createImport | completeReceiving | recordProvenance => exact keeps.elim
  | findActiveImport | findUnfinishedImports => exact still (Prod.mk.inj (Except.ok.inj done)).2.symm
  | readImport pk =>
    change answered (findImport store pk) store = _ at done
    cases found : findImport store pk with
    | none =>
      rw [found] at done
      cases done
    | some intake =>
      rw [found] at done
      exact still (Prod.mk.inj (Except.ok.inj done)).2.symm
  | readCounts jobId =>
    change (currentCounts jobId store).map _ = _ at done
    cases found : currentCounts jobId store with
    | error e =>
      rw [found] at done
      cases done
    | ok counts =>
      rw [found] at done
      exact still (Prod.mk.inj (Except.ok.inj done)).2.symm
  | enqueueImport => exact enqueueImport_sameFiles done
  | abandonReceiving => exact abandonReceiving_sameFiles done
  | markExhaustedBatch =>
    change markExhaustedBatch env.now env.locked store = _ at done
    simp only [markExhaustedBatch] at done
    split at done
    · cases done
    · rename_i final ran
      obtain rfl := (Prod.mk.inj (Except.ok.inj done)).2
      exact markExhaustedJobs_sameFiles ran
  | claimJob workerId leaseDuration =>
    rcases claimJob_ok done with ⟨_, same⟩ | ⟨_, _, ⟨ending⟩⟩
    · exact still same
    · rw [ending.saved]
      exact sameFiles_saveJob store store.factTable _ _
  | heartbeatJob jobId leaseToken leaseDuration =>
    obtain ⟨_, _, _, rfl⟩ := heartbeatJob_ok done
    exact sameFiles_saveJob store store.factTable _ _
  | advanceAttemptPhase jobId leaseToken phase =>
    obtain ⟨_, _, _, saved⟩ := fenced_ok done
    obtain rfl := (Prod.mk.inj (Except.ok.inj saved)).2
    exact sameFiles_saveJob store store.factTable _ _
  | recordParseBatch claim batch =>
    obtain ⟨_, _, _, saved⟩ := fenced_ok done
    split_ifs at saved
    obtain rfl := (Prod.mk.inj (Except.ok.inj saved)).2
    exact sameFiles_saveJob store store.factTable _ _
  | publishOnce claim =>
    obtain ⟨ending, _⟩ := publishOnce_ok done
    rw [ending.saved]
    exact sameFiles_saveJob store ending.table _ _
  | scheduleRetry jobId leaseToken errorCode errorMessage baseDelay maximumDelay =>
    obtain ⟨job, _, _, saved⟩ := fenced_ok done
    cases valid : validateFor job.counts .failed with
    | error e => simp [valid] at saved
    | ok passed =>
      cases left : delayIfLeft job baseDelay maximumDelay with
      | error e => simp [valid, left] at saved
      | ok delay =>
        simp only [valid, left, Except.ok.injEq, Prod.mk.injEq] at saved
        rw [← saved.2]
        exact sameFiles_saveJob store store.factTable _ _
  | completeJob => exact completeJob_sameFiles done
  | completeStoredObjectFailure => exact completeStoredObjectFailure_sameFiles done
  | requeueJob jobId additionalAttempts =>
    obtain ⟨_, _, _, _, _, _, _, rfl⟩ := requeueJob_ok done
    exact sameFiles_saveJob store store.factTable _ _

/-! ## Recording a file -/

/-- One intake now has this record of its file, and no other has changed its own. -/
structure RecordsFile (store next : Store) (pk : Uuid) (record : VersionRequest) : Prop where
  elsewhere : ∀ other, other ≠ pk →
    (findImport next other).map recordedFile = (findImport store other).map recordedFile
  here : (findImport next pk).map recordedFile = some record

theorem RecordsFile.then_same {store next last : Store} {pk : Uuid} {record : VersionRequest}
    (records : RecordsFile store next pk record) (same : SameFiles next last) : RecordsFile store last pk record :=
  ⟨fun other apart => (same other).trans (records.elsewhere other apart), (same pk).trans records.here⟩

theorem recordsFile_updateImport {store : Store} {pk : Uuid} {intake : SalesImport}
    (found : findImport store pk = some intake) (change : SalesImport → SalesImport) (stable : Stable change) :
    RecordsFile store (updateImport store pk change stable) pk (recordedFile (change intake)) where
  elsewhere := by
    intro other apart
    rw [findImport_updateImport_other _ _ _ apart]
  here := by
    rw [findImport_updateImport_same, found]
    rfl

section Recording
variable {store next : Store} {pk : Uuid} {now createdAt : Instant}

theorem createImport_records {ucd : PyText.UnicodeDatabase} {draft : IntakeDraft} {value : SalesImportJob}
    (done : createImport ucd draft now createdAt store = .ok (value, next)) :
    findImport store draft.id = none ∧
      RecordsFile store next draft.id (recordedFile (newImport ucd draft createdAt)) := by
  unfold createImport at done
  split_ifs at done
  cases inserted : store.importTable.insert (newImport ucd draft createdAt) with
  | error e =>
    rw [inserted] at done
    cases done
  | ok table =>
    rw [inserted] at done
    have fresh := (ImportTable.insert_ok inserted).1
    have absent : findImport store draft.id = none := by
      cases known : findImport store draft.id with
      | none => rfl
      | some other =>
        obtain ⟨member, same⟩ := ImportTable.find_some known
        exact absurd (List.mem_map.mpr ⟨other, member, same⟩) fresh
    have find : ∀ other, findImport { store with importTable := table } other =
        if draft.id = other then some (newImport ucd draft createdAt) else findImport store other :=
      ImportTable.find_insert inserted
    refine ⟨absent, RecordsFile.then_same ⟨?_, ?_⟩ (enqueueImport_sameFiles done)⟩
    · intro other apart
      rw [find, if_neg (Ne.symm apart)]
    · rw [find, if_pos rfl]
      rfl

theorem completeReceiving_records {versionId : String} {value : SalesImportJob}
    (done : completeReceiving pk versionId now createdAt store = .ok (value, next)) :
    ∃ intake, findImport store pk = some intake ∧ intake.status = .receiving ∧
      RecordsFile store next pk { recordedFile intake with versionId := PyText.strip versionId } := by
  unfold completeReceiving markReceived at done
  split at done
  · cases done
  · rename_i middle marked
    split_ifs at marked with blank receiving
    injection marked with same
    subst same
    obtain ⟨intake, found, status⟩ := Option.any_eq_true _ _ |>.mp receiving
    have waits : intake.status = .receiving := by simpa using status
    refine ⟨intake, found, waits, ?_⟩
    have records := recordsFile_updateImport found (receivedImport ⟨PyText.strip versionId, blank⟩ now)
      (receivedImport_stable _ now)
    rw [receivedImport, if_pos waits] at records
    exact records.then_same (enqueueImport_sameFiles done)

theorem recordProvenance_records {kmsKeyArn versionId : String} {value : Unit}
    (done : recordProvenance pk kmsKeyArn versionId now createdAt store = .ok (value, next)) :
    ∃ intake, findImport store pk = some intake ∧ lacksProvenance intake = true ∧
      RecordsFile store next pk { recordedFile intake with
        versionId := if intake.status = .receiving then PyText.strip versionId else intake.storageVersionId
        expectedKmsKeyArn := some (PyText.strip kmsKeyArn) } := by
  unfold recordProvenance at done
  cases found : findImport store pk with
  | none =>
    rw [found] at done
    cases done
  | some intake =>
    rw [found] at done
    dsimp only at done
    split at done
    · cases done
    · rename_i middle marked
      unfold recordLegacyKmsKeyArn at marked
      split_ifs at marked with _ lacking
      injection marked with same
      subst same
      rw [found, Option.any_some] at lacking
      have proven := recordsFile_updateImport found (provenImport (PyText.strip kmsKeyArn)) (provenImport_stable _)
      have after : findImport (updateImport store pk (provenImport (PyText.strip kmsKeyArn)) (provenImport_stable _))
          pk = some (provenImport (PyText.strip kmsKeyArn) intake) := by
        rw [findImport_updateImport_same, found]
        rfl
      rw [provenImport, if_pos lacking] at proven after
      refine ⟨intake, rfl, lacking, ?_⟩
      by_cases receiving : intake.status = .receiving
      · rw [if_pos receiving] at done ⊢
        generalize updateImport store pk (provenImport (PyText.strip kmsKeyArn)) _ = middle at done proven after
        cases ran : completeReceiving pk versionId now createdAt middle with
        | error e =>
          rw [ran] at done
          cases done
        | ok result =>
          rw [ran] at done
          obtain rfl := (Prod.mk.inj (Except.ok.inj done)).2
          obtain ⟨changed, located, _, records⟩ := completeReceiving_records ran
          obtain rfl := Option.some.inj (after.symm.trans located)
          exact ⟨fun other apart => (records.elsewhere other apart).trans (proven.elsewhere other apart), records.here⟩
      · rw [if_neg receiving] at done ⊢
        obtain rfl := (Prod.mk.inj (Except.ok.inj done)).2
        exact proven

end Recording

end PharmaIntel.System
