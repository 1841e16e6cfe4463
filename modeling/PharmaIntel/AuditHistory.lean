import Mathlib
import PharmaIntel.Attempts
import PharmaIntel.Idempotence

/-! The audit history is append-only. A closed attempt is frozen with its rows and issues;
an open one only gains rows and issues, and its rows change only as they are settled. -/

namespace PharmaIntel.System
open PharmaIntel.Base PharmaIntel.Models PharmaIntel.Queue PharmaIntel.Intake PharmaIntel.Publication

/-- A staged row later: what the file says stays, and a published or reused row is final. -/
structure RowKept (row later : SalesImportStagedRow) : Prop where
  fileValues : fileValues later = fileValues row
  final : row.outcome ≠ .staged → later = row

theorem rowKept_refl (row : SalesImportStagedRow) : RowKept row row := ⟨rfl, fun _ => rfl⟩

theorem RowKept.trans {first second third : SalesImportStagedRow} (earlier : RowKept first second)
    (later : RowKept second third) : RowKept first third := by
  refine ⟨later.fileValues.trans earlier.fileValues, ?_⟩
  intro settled
  have same := earlier.final settled
  exact (later.final (same ▸ settled)).trans same

/-- An attempt later. -/
structure AttemptKept (attempt later : SalesImportAttempt) : Prop where
  id : later.id = attempt.id
  frozen : attempt.outcome ≠ .running → later = attempt
  rows : Grows RowKept attempt.stagedRows later.stagedRows
  issues : attempt.issues <+: later.issues

theorem attemptKept_refl (attempt : SalesImportAttempt) : AttemptKept attempt attempt :=
  ⟨rfl, fun _ => rfl, grows_refl rowKept_refl _, List.prefix_rfl⟩

theorem AttemptKept.trans {first second third : SalesImportAttempt} (earlier : AttemptKept first second)
    (later : AttemptKept second third) : AttemptKept first third := by
  refine ⟨later.id.trans earlier.id, ?_, Grows.trans (R := RowKept) (fun _ _ _ => RowKept.trans) earlier.rows later.rows,
    earlier.issues.trans later.issues⟩
  intro closed
  have same := earlier.frozen closed
  exact (later.frozen (same ▸ closed)).trans same

/-! ## Steps of a job -/

/-- The rows of an attempt that still runs have not been settled. -/
def Unsettled (attempts : List SalesImportAttempt) : Prop :=
  ∀ attempt ∈ attempts, attempt.outcome = .running → ∀ row ∈ attempt.stagedRows, row.outcome = .staged

/-- The calls of a run whose batches hold freshly staged rows. -/
def stagedScope : Scope :=
  ⟨fun batch => ∀ row ∈ batch.stagedRows, row.outcome = .staged, fun _ => True, fun _ => True⟩

theorem batches_staged (settings : Settings) (ucd : PyText.UnicodeDatabase) (stream : Csv.TextStream)
    {batch : Staging.ParseBatch} (member : batch ∈ Staging.batches settings ucd stream) :
    ∀ row ∈ batch.stagedRows, row.outcome = .staged := by
  intro row inside
  have handed : row ∈ (Staging.batches settings ucd stream).flatMap Staging.ParseBatch.stagedRows :=
    List.mem_flatMap.mpr ⟨batch, member, inside⟩
  rw [Staging.batches_rows, Staging.acceptedRows] at handed
  obtain ⟨result, _, accepted⟩ := List.mem_filterMap.mp handed
  obtain ⟨source, _, rfl⟩ := Option.map_eq_some_iff.mp accepted
  rfl

section Steps
variable {scope : Scope} {intake : SalesImport} {job next : SalesImportJob}

theorem grows_released {now : Instant} {released : SalesImportJob}
    (release : releaseExpired job now = .ok released) (new : List SalesImportAttempt) :
    Grows AttemptKept job.attempts (released.attempts ++ new) := by
  unfold releaseExpired finishExpiredAttempt at release
  split_ifs at release
  · injection release with same
    rw [← same]
    apply grows_map
    intro attempt _
    split_ifs with matched
    · simp only [matchesLease, Bool.and_eq_true, decide_eq_true_eq] at matched
      exact ⟨rfl, fun closed => absurd matched.2 closed, grows_refl rowKept_refl _, List.prefix_rfl⟩
    · exact attemptKept_refl attempt
  · injection release with same
    rw [← same]
    exact grows_append attemptKept_refl job.attempts new

theorem jobStep_grows (step : JobStep scope intake job next) (history : History job)
    (unsettled : Unsettled job.attempts) : Grows AttemptKept job.attempts next.attempts := by
  cases jobStep_attempts step with
  | kept same =>
    rw [same]
    exact grows_refl attemptKept_refl _
  | expired now released release same =>
    rw [same, ← List.append_nil released.attempts]
    exact grows_released release []
  | added now released claimed release same =>
    rw [same]
    exact grows_released release [claimed]
  | saved leaseToken now attempt saved lease same carries published records =>
    rw [same, ← List.append_nil (saveAttempt job saved).attempts]
    apply grows_map
    intro other member
    split_ifs with here
    · have equal : other = attempt :=
        List.inj_on_of_nodup_map history.ids member lease.member (here.trans carries.1)
      subst equal
      refine ⟨carries.1, fun closed => absurd lease.running closed, ?_, records.issues⟩
      apply records.rows.imp_mem
      intro row inside later kept
      exact ⟨kept, fun settled => absurd (unsettled other member lease.running row inside) settled⟩
    · exact attemptKept_refl other

theorem saved_unsettled {saved : SalesImportAttempt} (unsettled : Unsettled job.attempts)
    (rows : saved.outcome = .running → ∀ row ∈ saved.stagedRows, row.outcome = .staged) :
    Unsettled (saveAttempt job saved).attempts := by
  intro other member running
  rcases mem_saved member with ⟨old, _⟩ | ⟨rfl, _⟩
  · exact unsettled other old running
  · exact rows running

theorem released_unsettled {now : Instant} {released : SalesImportJob}
    (release : releaseExpired job now = .ok released) (unsettled : Unsettled job.attempts) :
    Unsettled released.attempts := by
  intro attempt member running
  obtain ⟨old, inside, rfl | ⟨_, rfl⟩⟩ := mem_released release member
  · exact unsettled attempt inside running
  · simp [expireAttempt] at running

theorem jobStep_unsettled (step : JobStep stagedScope intake job next) (unsettled : Unsettled job.attempts) :
    Unsettled next.attempts := by
  cases step with
  | waited now =>
    unfold advanceWaitingJob
    split_ifs <;> exact unsettled
  | requeued => exact unsettled
  | exhausted now released due spent release =>
    have closed := released_unsettled release unsettled
    exact closed
  | claimed workerId now expiry draw released due left release =>
    intro attempt member running
    rcases List.mem_append.mp member with before | here
    · exact released_unsettled release unsettled attempt before running
    · rw [List.mem_singleton.mp here]
      simp
  | renewed leaseToken now expiry attempt lease =>
    apply saved_unsettled unsettled
    exact fun _ => unsettled attempt lease.member lease.running
  | phased leaseToken now attempt phase lease =>
    apply saved_unsettled unsettled
    exact fun _ => unsettled attempt lease.member lease.running
  | parsed leaseToken now expiry attempt batch lease within =>
    apply saved_unsettled unsettled
    intro _ row member
    rcases List.mem_append.mp member with before | here
    · exact unsettled attempt lease.member lease.running row before
    · exact within row here
  | retried leaseToken now attempt errorCode errorMessage delay lease =>
    have same : (retriedJob job errorCode errorMessage now delay).attempts = job.attempts := by
      unfold retriedJob
      split_ifs <;> rfl
    apply saved_unsettled (same ▸ unsettled)
    simp [retriedAttempt]
  | finished leaseToken now finishedAt attempt changed status outcome counts errorCode errorMessage lease
      same terminal =>
    apply saved_unsettled unsettled
    exact fun running => absurd running (terminal_facts terminal).2.2.1

end Steps

/-! ## Runs -/

theorem staged_fresh {events : List Event} (staged : StagedBatches events) :
    ∀ event ∈ events, event.Within stagedScope := by
  intro event member
  obtain ⟨c, env⟩ := event
  cases c with
  | recordParseBatch claim batch =>
    obtain ⟨settings, ucd, stream, inside⟩ := staged _ member claim batch rfl
    exact batches_staged settings ucd stream inside
  | _ => trivial

section Runs
variable (settings : Settings) (ucd : PyText.UnicodeDatabase)

/-- Between any two states of a run facts are only appended, and every job still has its
attempts, those that were closed as they were and the others grown. -/
theorem audit_appendOnly (start : Store) (unqueued : Unqueued start) (before after : List Event)
    (staged : StagedBatches (before ++ after)) :
    (run (step settings ucd) start before).factTable.facts <+:
        (run (step settings ucd) start (before ++ after)).factTable.facts ∧
      ∀ pk job, findJob (run (step settings ucd) start before) pk = some job →
        ∃ final, findJob (run (step settings ucd) start (before ++ after)) pk = some final ∧
          Grows AttemptKept job.attempts final.attempts ∧
          ∀ attempt ∈ job.attempts, attempt.outcome ≠ .running →
            ∀ later ∈ final.attempts, later.id = attempt.id → later = attempt := by
  have first := staged_fresh (fun event member => staged event (List.mem_append_left after member))
  have second := staged_fresh (fun event member => staged event (List.mem_append_right before member))
  have initial : ∀ pk job, findJob (run (step settings ucd) start before) pk = some job →
      History job ∧ Unsettled job.attempts := by
    apply run_jobs settings ucd (fun _ job => History job ∧ Unsettled job.attempts) ?_ ?_ start ?_ before first
    · intro pk job isNew
      refine ⟨newJob_history isNew, ?_⟩
      simp [Unsettled, (newJob_attempts isNew).1]
    · intro pk intake job next step holds
      exact ⟨jobStep_history step holds.1, jobStep_unsettled step holds.2⟩
    · intro pk job found
      rw [unqueued_jobs unqueued pk] at found
      cases found
  rw [run_append]
  refine ⟨(Publication.run_extends settings ucd _ after).facts_kept, ?_⟩
  intro pk job found
  obtain ⟨final, located, history, unsettled, grown⟩ := run_job settings ucd
    (fun later => History later ∧ Unsettled later.attempts ∧ Grows AttemptKept job.attempts later.attempts)
    (fun _ _ _ step holds => ⟨jobStep_history step holds.1, jobStep_unsettled step holds.2.1,
      
      Grows.trans (R := AttemptKept) (fun _ _ _ => AttemptKept.trans) holds.2.2
        (jobStep_grows step holds.1 holds.2.1)⟩)
    after second found ⟨(initial pk job found).1, (initial pk job found).2, grows_refl attemptKept_refl _⟩
  refine ⟨final, located, grown, ?_⟩
  intro attempt member closed later inside same
  obtain ⟨kept, present, facts⟩ := grown.entry_of_mem member
  have equal : later = kept := List.inj_on_of_nodup_map history.ids inside present (same.trans facts.id.symm)
  exact equal.trans (facts.frozen closed)

end Runs

/-- The failed first attempt before and after the job is queued again. -/
theorem audit_appendOnly_sample :
    ∃ job final, findJob (run (step Publication.Sample.settings PyText.asciiDatabase) Sample.store
        (Sample.requeuedRun.take 3)) 3 = some job ∧
      findJob (run (step Publication.Sample.settings PyText.asciiDatabase) Sample.store
        (Sample.requeuedRun.take 3 ++ Sample.requeuedRun.drop 3)) 3 = some final ∧
      Grows AttemptKept job.attempts final.attempts := by
  obtain ⟨job, found⟩ := Option.isSome_iff_exists.mp (by decide : (findJob
    (run (step Publication.Sample.settings PyText.asciiDatabase) Sample.store
      (Sample.requeuedRun.take 3)) 3).isSome)
  obtain ⟨_, kept⟩ := audit_appendOnly Publication.Sample.settings PyText.asciiDatabase Sample.store
    (by simp [Unqueued, Sample.store]) (Sample.requeuedRun.take 3) (Sample.requeuedRun.drop 3)
    (by simp [StagedBatches, Sample.requeuedRun])
  obtain ⟨final, reached, grown, _⟩ := kept 3 job found
  exact ⟨job, final, found, reached, grown⟩

end PharmaIntel.System
