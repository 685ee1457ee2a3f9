import JobLaunch.Proofs.Chronicle
import JobLaunch.Proofs.FailedQuery
import JobLaunch.Proofs.Generation
import Mathlib.Data.List.TakeWhile

/-!
# The first poll of a job that was found by its name

A listing is searched for the name of a step, and later listings for the id that this gave.

* `Scheduler.Shows` : an output shows a job under an id and a name; `Scheduler.NamesAgree` : no id has two names in it;
* `Scheduler.exists_shown` : the id that a name has in an output is found in the same output, as the job of that name;
* `Scheduler.Gives` : an id comes from a submission or from a listing; `Traffic.gives_of_registered` : every job id does
  that is registered;
* `IsNumber` : a text of digits;
* `Scheduler.first_poll_finds_job` : the first poll finds the job, and the ids of Grid Engine are numbers.
-/

namespace JobLaunch

/-- The text is a number: one digit or more. -/
def IsNumber (t : String) : Prop := t ≠ "" ∧ ∀ c ∈ t.toList, Text.isDigit c = true

theorem isNumber_ofList {cs : List Char} (some : cs ≠ []) (digits : ∀ c ∈ cs, Text.isDigit c = true) :
    IsNumber (String.ofList cs) := by
  constructor
  · intro h
    rw [← String.toList_eq_nil_iff, String.toList_ofList] at h
    exact some h
  · rwa [String.toList_ofList]

theorem IsNumber.jobNumber_eq {t : String} (h : IsNumber t) : jobNumber t = t := by
  have hall : t.toList.takeWhile (· != '.') = t.toList := by
    refine List.takeWhile_eq_self_iff.2 fun c hc => bne_iff_ne.2 ?_
    rintro rfl
    exact absurd (h.2 '.' hc) (by decide)
  rw [jobNumber, hall, String.ofList_toList]

/-! ## Rows of Grid Engine -/

namespace GridListing

theorem isNumber_of_row? {line : List Char} {row : GridRow} (h : row? line = some row) : IsNumber row.id := by
  unfold row? at h
  split at h
  · next id _ name _ state _ hwords =>
    split at h
    · next digits =>
      cases h
      have hword : id ∈ Text.words line := by
        rw [hwords]
        exact List.mem_cons_self
      refine isNumber_ofList ?_ (List.all_eq_true.1 digits)
      rintro rfl
      have hsome := (List.mem_filter.1 hword).2
      cases hsome
    · cases h
  · cases h

theorem isNumber_addLine {rs : List GridRow} {line : List Char} (h : ∀ row ∈ rs, IsNumber row.id) :
    ∀ row ∈ addLine rs line, IsNumber row.id := by
  unfold addLine
  dsimp only
  split
  · split
    · next latest rs =>
      -- the full name of a job changes no id
      rw [List.forall_mem_cons] at h ⊢
      exact h
    · exact h
  · split
    · next row hrow => exact List.forall_mem_cons.2 ⟨isNumber_of_row? hrow, h⟩
    · exact h

/-- **The ids of a table are numbers.** -/
theorem isNumber_of_mem_rows {stdout : String} {row : GridRow} (h : row ∈ rows stdout) : IsNumber row.id := by
  have hfold : ∀ (ls : List (List Char)) (rs : List GridRow), (∀ row ∈ rs, IsNumber row.id) →
      ∀ row ∈ ls.foldl addLine rs, IsNumber row.id := by
    intro ls
    induction ls with
    | nil => exact fun rs h => h
    | cons line ls ih => exact fun rs h => ih _ (isNumber_addLine h)
  exact hfold _ [] (fun _ hrow => nomatch hrow) row (List.mem_reverse.1 h)

theorem exists_row_of_idOf? {output : CommandOutput} {name id : String} (h : idOf? output name = some id) :
    output.succeeded = true ∧ ∃ row ∈ rows output.stdout, row.id = id ∧ row.name = name := by
  unfold idOf? at h
  split at h
  · next succeeded =>
    obtain ⟨row, hfind, rfl⟩ := Option.map_eq_some_iff.1 h
    have hname := List.find?_some hfind
    exact ⟨succeeded, row, List.mem_of_find?_eq_some hfind, rfl, of_decide_eq_true hname⟩
  · cases h

theorem isNumber_of_idOf? {output : CommandOutput} {name id : String} (h : idOf? output name = some id) :
    IsNumber id := by
  obtain ⟨-, row, hrow, rfl, -⟩ := exists_row_of_idOf? h
  exact isNumber_of_mem_rows hrow

theorem isNumber_of_submittedId? {stdout id : String} (h : submittedId? stdout = some id) : IsNumber id := by
  obtain ⟨line, -, h⟩ := Option.bind_eq_some_iff.1 h
  obtain ⟨word, -, h⟩ := Option.bind_eq_some_iff.1 h
  dsimp only at h
  split at h
  · next digits =>
    cases h
    rw [Bool.and_eq_true_iff, Bool.not_eq_true', List.isEmpty_eq_false_iff] at digits
    exact isNumber_ofList digits.1 (List.all_eq_true.1 digits.2)
  · cases h

theorem snapshotOf_ne_notFound (state : String) : snapshotOf state ≠ .notFound := by
  intro h
  have hstatus : statusOf state = .completed := congrArg Snapshot.status h
  unfold statusOf at hstatus
  dsimp only at hstatus
  repeat' split at hstatus
  all_goals cases hstatus

end GridListing

namespace PbsListing

theorem exists_job_of_idOf? {output : CommandOutput} {name id : String} (h : idOf? output name = some id) :
    ∃ jobs job, parse? output.stdout = some jobs ∧ jobs.get? id = some job ∧ job.name = some name := by
  obtain ⟨jobs, hparse, h⟩ := Option.bind_eq_some_iff.1 h
  obtain ⟨entry, hfind, rfl⟩ := Option.map_eq_some_iff.1 h
  have hname := List.find?_some hfind
  have hmem : (entry.1, entry.2) ∈ jobs.entries := List.mem_of_find?_eq_some hfind
  exact ⟨jobs, entry.2, hparse, (jobs.mem_entries_iff entry.1 entry.2).1 hmem, of_decide_eq_true hname⟩

theorem jobSnapshot_ne_notFound (job : PbsJob) : jobSnapshot job ≠ .notFound := by
  intro h
  have hended := (jobSnapshot_completed_iff job).1 (congrArg Snapshot.status h)
  have hraw : (jobSnapshot job).rawStatus = some "NOTFOUND" := congrArg Snapshot.rawStatus h
  unfold jobSnapshot at hraw
  rcases hended.1 with hstate | hstate
  · rw [hstate] at hraw
    exact absurd (show some "F" = some "NOTFOUND" from hraw) (by decide)
  · rw [hstate] at hraw
    exact absurd (show some "X" = some "NOTFOUND" from hraw) (by decide)

end PbsListing

/-! ## Names and ids in one output -/

namespace Scheduler

/-- An output shows a job under an id and a name, and tells a snapshot of that job; one without a state is unknown. -/
inductive Shows (output : CommandOutput) (id name : String) : Scheduler → Snapshot → Prop
  | pbs (clients : Clients) (jobs : PbsListing) (job : PbsJob) (read : PbsListing.parse? output.stdout = some jobs)
    (own : jobs.get? id = some job) (named : job.name = some name) :
    Shows output id name (.pbs clients)
      (job.state.elim .unknown fun state => PbsListing.snapshotOf state job.exitStatus)
  | grid (clients : Clients) (row : GridRow) (listed : row ∈ GridListing.rows output.stdout) (own : row.id = id)
    (named : row.name = name) : Shows output id name (.grid clients) (GridListing.snapshotOf row.state)

/-- No id has two names in an output. The jobs of PBS are listed under their ids, each with one name. -/
def NamesAgree : Scheduler → CommandOutput → Prop
  | pbs _, _ => True
  | grid _, output => ∀ row ∈ GridListing.rows output.stdout, ∀ row' ∈ GridListing.rows output.stdout,
    row.id = row'.id → row.name = row'.name

instance (s : Scheduler) (output : CommandOutput) : Decidable (s.NamesAgree output) :=
  match s with
  | pbs _ => inferInstanceAs (Decidable True)
  | grid _ => inferInstanceAs (Decidable (∀ row ∈ _, ∀ row' ∈ _, _))

variable {s : Scheduler} {output : CommandOutput} {name id : String}

/-- **The id that a name has in an output is found in the same output,** as the job of that name. -/
theorem exists_shown (h : s.idOf? output name = some id) : ∃ info, s.snapshots output [id] = [info] ∧
    info ≠ .notFound ∧ (s.NamesAgree output → s.Shows output id name info) := by
  cases s with
  | pbs clients =>
    obtain ⟨jobs, job, hparse, hget, hname⟩ := PbsListing.exists_job_of_idOf? h
    have hlisted : PbsListing.listed? output id = some job := by
      rw [PbsListing.listed?, hparse, Option.bind_some, PbsListing.job?, hget, Option.some_or]
    refine ⟨PbsListing.jobSnapshot job, ?_, PbsListing.jobSnapshot_ne_notFound job, fun _ => ?_⟩
    · rw [← PbsListing.snapshot_of_listed hlisted]
      rfl
    · have hshows := Shows.pbs clients jobs job hparse hget hname
      unfold PbsListing.jobSnapshot
      cases hstate : job.state <;> rwa [hstate] at hshows
  | grid clients =>
    obtain ⟨succeeded, named, hmem, hid, hname⟩ := GridListing.exists_row_of_idOf? h
    have hnumber : jobNumber id = id := (hid ▸ GridListing.isNumber_of_mem_rows hmem).jobNumber_eq
    -- the first row of the job, which may be another than the one that has the name
    obtain ⟨first, hfirst⟩ : ∃ first, (GridListing.rows output.stdout).find? (fun row => row.id = jobNumber id) =
        some first := by
      rw [← Option.isSome_iff_exists, List.find?_isSome]
      exact ⟨named, hmem, decide_eq_true (hid.trans hnumber.symm)⟩
    have hown := List.find?_some hfirst
    replace hown : first.id = id := (of_decide_eq_true hown).trans hnumber
    have hlisted := List.mem_of_find?_eq_some hfirst
    have htold : GridListing.snapshot output id = GridListing.snapshotOf first.state := by
      rw [GridListing.snapshot, if_pos succeeded, hfirst]
    refine ⟨_, congrArg ([·]) htold, GridListing.snapshotOf_ne_notFound _, fun agree => ?_⟩
    exact .grid clients first hlisted hown ((agree first hlisted named hmem (hown.trans hid.symm)).trans hname)

/-- A scheduler gives an id for a step with a name, when it is submitted or in a listing. -/
def Gives (s : Scheduler) (name id : String) : Prop :=
  (∃ stdout, s.submittedId? stdout = some id) ∨ ∃ output, s.idOf? output name = some id

theorem Gives.isNumber {clients : Clients} (h : (grid clients).Gives name id) : IsNumber id := by
  rcases h with ⟨stdout, h⟩ | ⟨output, h⟩
  · exact GridListing.isNumber_of_submittedId? h
  · exact GridListing.isNumber_of_idOf? h

end Scheduler

/-! ## Registered ids -/

namespace Launcher

theorem eq_of_complete {l : Launcher} {step : Step} {id id' : StepIdentifier}
    (h : (l.complete step id).1 = .ok id') : id' = id := by
  rcases complete_cases l step id with ⟨reporter, hc⟩ | ⟨e, hc⟩
  · rw [hc] at h
    cases h
    rfl
  · rw [hc] at h
    cases h

variable {l : Launcher} {step : Step} {s : Scheduler} {id : StepIdentifier}

theorem search_ne_ok {looked : Nat} : (l.search step s looked).1 ≠ .done (.ok id) := by
  unfold search
  dsimp only
  split <;> nofun

theorem gives_of_resumeRun {r : Run} {reply : Reply} (h : (l.resumeRun r reply).1 = .done (.ok id)) :
    ∃ job, id = .scheduler job ∧ r.scheduler.Gives r.step.name job := by
  unfold resumeRun at h
  split at h
  · unfold submitted at h
    dsimp only at h
    split at h
    · split at h
      · next job hjob =>
        exact ⟨job, eq_of_complete (Progress.done.inj h), .inl ⟨_, hjob⟩⟩
      · exact absurd h search_ne_ok
    · cases h
  · cases h
  · cases h
  · unfold listed at h
    split at h
    · split at h
      · next job hjob =>
        exact ⟨job, eq_of_complete (Progress.done.inj h), .inr ⟨_, hjob⟩⟩
      · exact absurd h search_ne_ok
    · exact absurd h search_ne_ok
  · cases h

variable {μ : Type}

theorem task_of_beginRun {m : Machine μ} {w : μ} (h : (beginRun m l step w).1 = .done (.ok id)) : id.stepId? = none := by
  cases held : l.registry.reserve step.name with
  | error e =>
    unfold beginRun beginRunOn at h
    rw [held] at h
    cases h
  | ok registry =>
    rw [beginRun_eq m w held] at h
    have hall := attempted m l.backend l.supervisor.start step w
    generalize attempt m l.backend l.supervisor.start step w = a at h hall
    cases hall with
    | failed e w' plain => cases h
    | submitted scheduler p w' batch owner => cases h
    | started p w' direct =>
      rw [eq_of_complete (Progress.done.inj h)]
      rfl

theorem done_of_mem_launchFacts {p : RunProgress} {name : String} {e : Entry}
    (h : .registered name e ∈ launchFacts step p) : ∃ id, p = .done (.ok id) ∧ e = step.entry id := by
  rcases p with (err | id) | r
  · cases h
  · cases List.mem_singleton.1 h
    exact ⟨id, rfl, rfl⟩
  · cases h

end Launcher

namespace Traffic

open Launcher

variable {μ : Type} {m : Machine μ} {S : Traffic μ} {files : Nat → Dossier} {s : Scheduler} {name id : String} {e : Entry}

theorem launch_of_registered {v : Move μ} (h : .registered name e ∈ S.facts m v) :
    (∃ step, v = .begin (.run step) ∧ .registered name e ∈ launchFacts step (beginRun m S.launcher step S.world).1) ∨
      ∃ i r reply, S.call? i = some (.run r) ∧ v = .resume i reply ∧
        .registered name e ∈ launchFacts r.step (S.launcher.resumeRun r reply).1 := by
  cases v with
  | begin request =>
    cases request with
    | run step => exact .inl ⟨step, rfl, h⟩
    | poll names =>
      replace h : Fact.registered name e ∈ (S.launcher.beginSightings names).map .observed := h
      simp at h
    | stop stopped => exact absurd h (registered_not_mem_beginStopFacts m S.launcher stopped S.world name e)
  | resume i reply =>
    cases hi : S.call? i with
    | none =>
      rw [facts_resume_none m hi] at h
      cases h
    | some call =>
      rw [facts_resume m hi] at h
      cases call with
      | run r => exact .inr ⟨i, r, reply, hi, rfl, h⟩
      | poll p =>
        replace h : Fact.registered name e ∈ (S.launcher.resumeSightings p reply).map .observed := h
        simp at h
      | stop s => exact absurd h (registered_not_mem_resumeFacts m S.launcher s reply S.world name e)
  | forget name =>
    unfold facts at h
    dsimp only at h
    split at h <;> simp at h
  | giveUp | watch | beginShutdown | finishShutdown | elsewhere => cases h

theorem gives_of_mem_facts (described : S.Described files) (owner : S.launcher.backend.scheduler? = some s) {v : Move μ}
    (h : .registered name e ∈ S.facts m v) (hid : e.stepId = some id) : s.Gives name id := by
  rcases launch_of_registered h with ⟨step, -, h⟩ | ⟨i, r, reply, waits, -, h⟩
  · obtain ⟨found, hdone, rfl⟩ := done_of_mem_launchFacts h
    rw [show (step.entry found).stepId = found.stepId? from rfl, task_of_beginRun hdone] at hid
    cases hid
  · obtain ⟨-, -, hr, -⟩ := described i _ waits
    have hname := name_of_mem_launchFacts h
    obtain ⟨found, hdone, rfl⟩ := done_of_mem_launchFacts h
    obtain ⟨job, rfl, gives⟩ := gives_of_resumeRun hdone
    cases hid
    cases owner.symm.trans hr
    exact hname ▸ gives

/-- **Every job id that is registered is one that the scheduler has given.** -/
theorem gives_of_registered (described : S.Described files) (owner : S.launcher.backend.scheduler? = some s)
    {vs : List (Move μ)} (h : .registered name e ∈ S.log m vs) (hid : e.stepId = some id) : s.Gives name id := by
  induction vs generalizing S files with
  | nil => cases h
  | cons v vs ih =>
    have haccounted := accounted (m := m) described v
    rcases List.mem_append.1 h with h | h
    · exact gives_of_mem_facts described owner h hid
    · exact ih haccounted.described (by rw [haccounted.told.backend, owner]) h

end Traffic

/-! ## The result -/

namespace Scheduler

open Traffic

/-- **The first poll finds the job that was found by its name.** If an output gives an id for a name, then as an answer
to a query for that id it does not say that there is no such job, and it tells of a job with exactly that name, unless
Grid Engine lists the id under two names. Every id of Grid Engine that is ever registered is a number. -/
theorem first_poll_finds_job (s : Scheduler) :
    (∀ output name id, s.idOf? output name = some id → ∃ info, s.snapshots output [id] = [info] ∧
      info ≠ .notFound ∧ (s.NamesAgree output → s.Shows output id name info)) ∧
    ∀ clients, s = grid clients → ∀ {μ : Type} (m : Machine μ) (l : Launcher) (w : μ) (vs : List (Move μ)),
      l.backend = .scheduled s → ∀ name e id, .registered name e ∈ (quiet l w).log m vs → e.stepId = some id →
        IsNumber id := by
  refine ⟨fun output name id => exists_shown, ?_⟩
  rintro clients rfl μ m l w vs scheduled name e id h hid
  have described := described_quiet l w fun _ => .new l (.poll [])
  exact (gives_of_registered described (by rw [quiet, scheduled]; rfl) h hid).isNumber

/-- A submission prints nothing, the first listing shows the full name of the job under its row, and the first poll reads
the same listing. -/
theorem first_poll_finds_job_full_name :
    let s : Scheduler := .grid {}
    let output : CommandOutput := .ok "42 0.5 relaxation alice r\n    Full jobname: relaxation_run\n"
    let l : Launcher := .new (.scheduled s) {} none
    let vs : List (Move Unit) := [.begin (.run ⟨"relaxation_run", "/", true, .gridBatch {} [], rfl⟩), .resume 0 (.ended ⟨0, [], []⟩),
      .resume 0 .paused, .resume 0 (.answered (.ok output))]
    (∃ info, s.snapshots output ["42"] = [info] ∧ info ≠ .notFound ∧ s.Shows output "42" "relaxation_run" info) ∧
      .registered "relaxation_run" ⟨some "42", none, true, none⟩ ∈ (quiet l ()).log Machine.obliging vs ∧
      IsNumber "42" := by
  intro s output l vs
  have found : s.idOf? output "relaxation_run" = some "42" := by decide +kernel
  have agree : s.NamesAgree output := by decide +kernel
  have registered : .registered "relaxation_run" ⟨some "42", none, true, none⟩ ∈
      (quiet l ()).log Machine.obliging vs := by decide +kernel
  obtain ⟨polled, numbers⟩ := first_poll_finds_job s
  obtain ⟨info, hinfo, hlisted, hshows⟩ := polled output "relaxation_run" "42" found
  exact ⟨⟨info, hinfo, hlisted, hshows agree⟩, registered,
    numbers {} rfl Machine.obliging l () vs rfl _ _ "42" registered rfl⟩

end Scheduler

end JobLaunch
