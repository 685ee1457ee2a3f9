import JobLaunch.Proofs.Traffic

/-!
# What a failed query tells

* `PbsJob.EndedWell`, `PbsListing.NamesUnknown` : the two grounds on which a failed query may read as success;
* `PbsListing.Misread` : the answers that are taken for a missing job without one of them;
* `PbsListing.snapshot_of_listed`, `PbsListing.snapshot_of_unlisted` : the snapshot of a failed query, in full;
* `Scheduler.failed_query_iff` : a failed query reads as success without grounds exactly if it is misread.
-/

namespace JobLaunch

variable {output : CommandOutput} {id : String}

/-! ## Grounds for success -/

/-- The job has ended, and its exit status is zero or is not told. -/
def PbsJob.EndedWell (job : PbsJob) : Prop :=
  (job.state = some "F" ∨ job.state = some "X") ∧ (job.exitStatus = none ∨ job.exitStatus = some 0)

namespace PbsListing

def listed? (output : CommandOutput) (id : String) : Option PbsJob := (parse? output.stdout).bind (job? · id)

/-- An error text says that there is no job with an id; ids are the same if their job numbers are. -/
def NamesUnknown (stderr id : String) : Prop :=
  ∃ w ∈ Text.words stderr.toList, jobNumber (String.ofList w) = jobNumber id ∧
    ["Unknown".toList, "Job".toList, "Id".toList, w] <:+: Text.words stderr.toList

instance (stderr id : String) : Decidable (NamesUnknown stderr id) :=
  inferInstanceAs (Decidable (∃ w ∈ _, _ ∧ _))

theorem ofExitCode_completed_iff (exitStatus : Option Int32) :
    Status.ofExitCode ((exitStatus.map (·.toInt)).getD 0) = .completed ↔ exitStatus = none ∨ exitStatus = some 0 := by
  cases exitStatus with
  | none => simp [Status.ofExitCode]
  | some code =>
    have hcode : code.toInt = 0 ↔ code = 0 := by rw [← Int32.toInt_zero, Int32.toInt_inj]
    simp [Status.ofExitCode, hcode]

theorem snapshotOf_completed_iff (state : String) (exitStatus : Option Int32) :
    (snapshotOf state exitStatus).status = .completed ↔
      (state = "F" ∨ state = "X") ∧ (exitStatus = none ∨ exitStatus = some 0) := by
  by_cases hended : state = "F" ∨ state = "X"
  · rw [← ofExitCode_completed_iff]
    rcases hended with rfl | rfl
    · exact (and_iff_right (Or.inl rfl)).symm
    · exact (and_iff_right (Or.inr rfl)).symm
  · refine iff_of_false ?_ fun h => hended h.1
    unfold snapshotOf
    split <;> simp_all [Snapshot.unknown]

theorem jobSnapshot_completed_iff (job : PbsJob) : (jobSnapshot job).status = .completed ↔ job.EndedWell := by
  unfold jobSnapshot PbsJob.EndedWell
  cases job.state with
  | none => simp [Snapshot.unknown]
  | some state => simpa using snapshotOf_completed_iff state job.exitStatus

/-! ## Snapshots of a failed query -/

/-- A job that a failed query does not list is presumed gone: the query lists others, or it prints nothing and the job
number is a word of its error text. -/
def presumesGone (output : CommandOutput) (id : String) : Bool :=
  if Text.isBlankText output.stdout then mentions output.stderr id else (parse? output.stdout).isSome

/-- A failed query is taken for the news that a job is gone, though its error text does not say so. -/
def Misread (output : CommandOutput) (id : String) : Prop :=
  ¬ NamesUnknown output.stderr id ∧ listed? output id = none ∧ presumesGone output id = true

instance (output : CommandOutput) (id : String) : Decidable (Misread output id) :=
  inferInstanceAs (Decidable (_ ∧ _))

theorem listed?_of_blank (blank : Text.isBlankText output.stdout = true) (id : String) : listed? output id = none := by
  rw [listed?, parse?, if_pos blank]
  rfl

theorem snapshot_of_listed {job : PbsJob} (listed : listed? output id = some job) :
    snapshot output id = jobSnapshot job := by
  have hblank : Text.isBlankText output.stdout = false := by
    rw [← Bool.not_eq_true]
    intro blank
    rw [listed?_of_blank blank] at listed
    cases listed
  obtain ⟨jobs, hjobs, hjob⟩ := Option.bind_eq_some_iff.1 listed
  rw [snapshot, hblank, Bool.false_and, if_neg Bool.false_ne_true, hjobs]
  dsimp only
  rw [hjob]

theorem snapshot_of_unlisted (failed : output.succeeded = false) (unlisted : listed? output id = none) :
    snapshot output id = if presumesGone output id then .notFound else .unknown := by
  rw [snapshot, presumesGone, failed, Bool.not_false, Bool.and_true]
  cases Text.isBlankText output.stdout with
  | true => rfl
  | false =>
    rw [listed?] at unlisted
    cases hjobs : parse? output.stdout with
    | none => rfl
    | some jobs =>
      rw [hjobs] at unlisted
      dsimp only
      rw [show job? jobs id = none from unlisted]
      rfl

end PbsListing

namespace Scheduler

/-- A query's output lists a job that has ended well; Grid Engine lists no job that has ended. -/
def ListsDone : Scheduler → CommandOutput → String → Prop
  | pbs _, output, id => ∃ job, PbsListing.listed? output id = some job ∧ job.EndedWell
  | grid _, _, _ => False

def Lists : Scheduler → CommandOutput → String → Prop
  | pbs _, output, id => (PbsListing.listed? output id).isSome = true
  | grid _, output, id => ((GridListing.rows output.stdout).any fun row => row.id = jobNumber id) = true

/-- A failed query is taken for the news that a job is gone, though it does not say so; this happens for PBS only. -/
def Misread : Scheduler → CommandOutput → String → Prop
  | pbs _, output, id => PbsListing.Misread output id
  | grid _, _, _ => False

/-- What a snapshot may tell of an id after a failed query: success on one of the two grounds only, and of a job that is
neither listed nor named as unknown, nothing. -/
def Honest (s : Scheduler) (output : CommandOutput) (id : String) (snapshot : Snapshot) : Prop :=
  (snapshot.status = .completed → s.ListsDone output id ∨ PbsListing.NamesUnknown output.stderr id) ∧
    (¬ s.Lists output id → ¬ PbsListing.NamesUnknown output.stderr id → snapshot = .unknown)

variable {s : Scheduler}

theorem honest_unknown (s : Scheduler) (output : CommandOutput) (id : String) : s.Honest output id .unknown :=
  ⟨fun h => (nomatch h), fun _ _ => rfl⟩

theorem snapshot_of_misread (failed : output.succeeded = false) (h : s.Misread output id) :
    s.snapshot output id = .notFound := by
  cases s with
  | grid c => exact h.elim
  | pbs c =>
    obtain ⟨-, unlisted, hgone⟩ := h
    show PbsListing.snapshot output id = _
    rw [PbsListing.snapshot_of_unlisted failed unlisted, if_pos hgone]

theorem honest_snapshot_iff (failed : output.succeeded = false) :
    s.Honest output id (s.snapshot output id) ↔ ¬ s.Misread output id := by
  constructor
  · -- a job that is taken to be gone is not listed, and reads as completed
    intro honest h
    rw [snapshot_of_misread failed h] at honest
    cases s with
    | grid c => exact h
    | pbs c =>
      obtain ⟨unnamed, unlisted, -⟩ := h
      rcases honest.1 rfl with ⟨job, listed, -⟩ | named
      · rw [unlisted] at listed
        cases listed
      · exact unnamed named
  · intro h
    cases s with
    | grid c =>
      have hunknown : (grid c).snapshot output id = .unknown := by
        rw [snapshot, GridListing.snapshot, failed, if_neg Bool.false_ne_true]
      rw [hunknown]
      exact honest_unknown _ _ _
    | pbs c =>
      show (pbs c).Honest output id (PbsListing.snapshot output id)
      cases listed : PbsListing.listed? output id with
      | some job =>
        rw [PbsListing.snapshot_of_listed listed]
        refine ⟨fun done => Or.inl ⟨job, listed, (PbsListing.jobSnapshot_completed_iff job).1 done⟩, fun unlisted => ?_⟩
        exact absurd (Option.isSome_iff_exists.2 ⟨job, listed⟩) unlisted
      | none =>
        by_cases named : PbsListing.NamesUnknown output.stderr id
        · exact ⟨fun _ => Or.inr named, fun _ unnamed => absurd named unnamed⟩
        · rw [PbsListing.snapshot_of_unlisted failed listed, if_neg fun hgone => h ⟨named, listed, hgone⟩]
          exact honest_unknown _ _ _

/-- **A failed query answers every id honestly, except for those that are misread, which it reports as completed.** -/
theorem failed_query_iff (s : Scheduler) (failed : output.succeeded = false) (ids : List String) :
    (s.snapshots output ids).length = ids.length ∧
      ∀ p ∈ ids.zip (s.snapshots output ids),
        (s.Misread output p.1 → p.2 = .notFound) ∧ (s.Honest output p.1 p.2 ↔ ¬ s.Misread output p.1) := by
  refine ⟨length_snapshots s output ids, fun p hp => ?_⟩
  obtain ⟨k, hk, hget⟩ := List.mem_iff_getElem.1 hp
  have hanswer : p.2 = s.snapshot output p.1 := by
    rw [← hget]
    simp [snapshots_eq_map]
  rw [hanswer]
  exact ⟨snapshot_of_misread failed, honest_snapshot_iff failed⟩

/-- PBS rejects an id by name, and nothing is said of the other one. -/
theorem failed_query_iff_rejected :
    ∃ output : CommandOutput, output.succeeded = false ∧
      (pbs {}).snapshots output ["42.server", "7.server"] = [.notFound, .unknown] ∧
      (pbs {}).Honest output "42.server" .notFound ∧ (pbs {}).Honest output "7.server" .unknown := by
  have hsnapshots : (pbs {}).snapshots (.failed 153 "qstat: Unknown Job Id 42.server\n") ["42.server", "7.server"] =
      [.notFound, .unknown] := rfl
  obtain ⟨-, hall⟩ := @failed_query_iff (.failed 153 "qstat: Unknown Job Id 42.server\n") (pbs {}) rfl
    ["42.server", "7.server"]
  rw [hsnapshots] at hall
  have hread : ∀ id ∈ ["42.server", "7.server"],
      ¬ PbsListing.Misread (.failed 153 "qstat: Unknown Job Id 42.server\n") id := by decide +kernel
  exact ⟨_, rfl, hsnapshots, (hall ("42.server", .notFound) (by simp)).2.2 (hread _ (by simp)),
    (hall ("7.server", .unknown) (by simp)).2.2 (hread _ (by simp))⟩

/-- The number of an error is the number of a job, which then reads as completed. -/
theorem failed_query_reads_as_success :
    ∃ output : CommandOutput, output.succeeded = false ∧ (pbs {}).snapshots output ["111.server"] = [.notFound] ∧
      ¬ (pbs {}).Honest output "111.server" .notFound := by
  have hunnamed :
      ¬ PbsListing.NamesUnknown "qstat: connect to port 15001 failed: error 111\n" "111.server" := by decide +kernel
  refine ⟨.failed 1 "qstat: connect to port 15001 failed: error 111\n", rfl, rfl, fun honest => ?_⟩
  rcases honest.1 rfl with ⟨job, listed, -⟩ | named
  · rw [PbsListing.listed?_of_blank rfl] at listed
    cases listed
  · exact hunnamed named

end Scheduler

end JobLaunch
