import JobLaunch.Proofs.Agreement
import JobLaunch.Proofs.ExitReports
import JobLaunch.Proofs.Generation

/-!
# What is told

A launcher publishes events and counts. Both are derived here from one list of notices.

* `Notice` : one thing that is told; `Notice.event?`, `Notice.count` : what is published and counted of it;
* `Reporter.Tells` : a reporter is told some notices; `Launcher.Tells` : all that one part of a launcher's work tells;
* `Launcher.Tells.trans` : one part of the work after the other;
* `Launcher.tells_beginPoll`, `Launcher.tells_takeDown`, `Launcher.tells_resumeStop` : what polls and stops tell;
* `Launcher.tells_watch`, `Launcher.tells_forget` : what is told between the calls.
-/

namespace JobLaunch

def LaunchError.isSubmissionFailed : LaunchError → Bool
  | submissionFailed .. => true
  | _ => false

/-! ## Notices -/

/-- One thing that a launcher tells. -/
inductive Notice where
  | launched (step : Step) (id : StepIdentifier)
  | cancelled (name : String) (managed : Bool)
  | submissionFailed
  /-- A search for a job id has ended after so many listings. -/
  | searched (listings : Nat) (resolved : Bool)
  | exited (x : TaskId × Task)

namespace Notice

def event? (backend : String) : Notice → Option StepEvent
  | launched step id => some (.launched step.name backend id)
  | cancelled name managed => some (.cancelled name managed)
  | exited x => some (.ofExit x)
  | submissionFailed | searched .. => none

def count (backend : String) (counts : Metrics) : Notice → Metrics
  | launched step _ => counts.stepLaunched backend step.kind.text
  | cancelled .. => counts.stepCancelled backend
  | submissionFailed => counts.submissionFailed backend
  | searched listings resolved => counts.idResolution listings resolved
  | exited x => counts.taskExited x.2.status.name

def starts (id : TaskId) : Notice → Bool
  | launched _ i => i = .task id
  | cancelled .. | submissionFailed | searched .. | exited _ => false

end Notice

/-- What the reporter has been told in between. -/
structure Reporter.Tells (backend : String) (ns : List Notice) (r r' : Reporter) : Prop where
  bus : r'.bus = r.bus.map (·.emitAll (ns.filterMap (·.event? backend)))
  metrics : r'.journal.metrics = ns.foldl (Notice.count backend) r.journal.metrics

namespace Reporter

variable {backend : String} {r r' r'' : Reporter} {ms ns : List Notice}

theorem Tells.refl (backend : String) (r : Reporter) : r.Tells backend [] r := ⟨Option.map_id'.symm, rfl⟩

theorem Tells.trans (h : r.Tells backend ms r') (h' : r'.Tells backend ns r'') : r.Tells backend (ms ++ ns) r'' := by
  refine ⟨?_, ?_⟩
  · rw [h'.bus, h.bus, Option.map_map, List.filterMap_append]
    congr 1
    funext b
    exact List.foldl_append.symm
  · rw [h'.metrics, h.metrics, List.foldl_append]

theorem tells_stepLaunched (backend : String) (r : Reporter) (step : Step) (id : StepIdentifier) :
    r.Tells backend [.launched step id] (r.stepLaunched backend step.name step.kind.text id) := ⟨rfl, rfl⟩

theorem tells_stepCancelled (backend : String) (r : Reporter) (name : String) (managed : Bool) :
    r.Tells backend [.cancelled name managed] (r.stepCancelled backend name managed) := ⟨rfl, rfl⟩

theorem tells_submissionFailed (backend : String) (r : Reporter) (name : String) (code : Option Int) :
    r.Tells backend [.submissionFailed] (r.note (·.submissionFailed backend name code)) := ⟨Option.map_id'.symm, rfl⟩

theorem tells_idResolution (backend : String) (r : Reporter) (name : String) (listings : Nat) (resolved : Bool) :
    r.Tells backend [.searched listings resolved] (r.note (·.idResolution name listings resolved)) :=
  ⟨Option.map_id'.symm, rfl⟩

theorem tells_tasksExited (backend : String) (r : Reporter) (xs : List (TaskId × Task)) :
    r.Tells backend (xs.map .exited) (r.tasksExited xs) := by
  induction xs generalizing r with
  | nil => exact .refl backend r
  | cons x xs ih =>
    have hfirst : r.Tells backend [.exited x] (r.taskExited x.1 x.2.status x.2.returnCode) := ⟨rfl, rfl⟩
    exact hfirst.trans (ih _)

end Reporter

/-! ## Parts of a launcher's work -/

/-- One if the identifier has been handed out, and none otherwise. -/
def Supervisor.issuedCount (s : Supervisor) : TaskId → Nat
  | .issued k => if k < s.issued then 1 else 0
  | .named _ => 0

theorem Supervisor.issuedCount_track (s : Supervisor) (t : Task) (id : TaskId) :
    (s.track t).2.issuedCount id = s.issuedCount id + if .issued s.issued = id then 1 else 0 := by
  cases id with
  | named text => rfl
  | issued k =>
    show (if k < s.issued + 1 then 1 else 0) = (if k < s.issued then 1 else 0) + _
    rcases Nat.lt_trichotomy k s.issued with hlt | rfl | hgt
    · simp [hlt, Nat.lt_succ_of_lt hlt, Nat.ne_of_gt hlt]
    · simp
    · simp [Nat.not_lt.2 (Nat.le_of_lt hgt), Nat.not_lt.2 (Nat.succ_le_of_lt hgt), Nat.ne_of_lt hgt]

/-- A part of a launcher's work, with all that it tells. A task that is tracked from then on is told to be launched, and
no identifier is launched twice. -/
structure Launcher.Tells (ns : List Notice) (l l' : Launcher) : Prop where
  backend : l'.backend = l.backend
  config : l'.config = l.config
  reporter : l.reporter.Tells l.backend.name ns l'.reporter
  tracked : ∀ id, l'.supervisor.task? id ≠ none → l.supervisor.task? id ≠ none ∨ 0 < ns.countP (·.starts id)
  fresh : ∀ id, ns.countP (·.starts id) + l.supervisor.issuedCount id ≤ l'.supervisor.issuedCount id

namespace Launcher

variable {l l' l'' : Launcher} {ms ns : List Notice}

theorem Tells.trans (h : l.Tells ms l') (h' : l'.Tells ns l'') : l.Tells (ms ++ ns) l'' where
  backend := h'.backend.trans h.backend
  config := h'.config.trans h.config
  reporter := h.reporter.trans (h.backend ▸ h'.reporter)
  tracked id hid := by
    rw [List.countP_append]
    rcases h'.tracked id hid with hid | hpos
    · rcases h.tracked id hid with hid | hpos
      · exact .inl hid
      · exact .inr (Nat.lt_of_lt_of_le hpos (Nat.le_add_right _ _))
    · exact .inr (Nat.lt_of_lt_of_le hpos (Nat.le_add_left _ _))
  fresh id := by
    have hfirst := h.fresh id
    have hnext := h'.fresh id
    rw [List.countP_append]
    omega

theorem Tells.of_narrowing (backend : l'.backend = l.backend) (config : l'.config = l.config)
    (reporter : l.reporter.Tells l.backend.name ns l'.reporter)
    (tracked : ∀ id, l'.supervisor.task? id ≠ none → l.supervisor.task? id ≠ none)
    (issued : l'.supervisor.issued = l.supervisor.issued) (plain : ∀ id, ns.countP (·.starts id) = 0) :
    l.Tells ns l' where
  backend := backend
  config := config
  reporter := reporter
  tracked id hid := .inl (tracked id hid)
  fresh id := by
    have hsame : l'.supervisor.issuedCount id = l.supervisor.issuedCount id := by
      unfold Supervisor.issuedCount
      rw [issued]
    exact Nat.le_of_eq (by rw [plain id, Nat.zero_add, hsame])

theorem Tells.of_same (backend : l'.backend = l.backend) (config : l'.config = l.config)
    (supervisor : l'.supervisor = l.supervisor) (reporter : l.reporter.Tells l.backend.name ns l'.reporter)
    (plain : ∀ id, ns.countP (·.starts id) = 0) : l.Tells ns l' :=
  .of_narrowing backend config reporter (fun _ hid => supervisor ▸ hid) (congrArg _ supervisor) plain

theorem Tells.of_registry (l : Launcher) (registry : Registry) : l.Tells [] { l with registry } :=
  .of_same rfl rfl rfl (.refl _ _) fun _ => rfl

theorem Tells.refl (l : Launcher) : l.Tells [] l := .of_registry l l.registry

/-! ## Polls and stops -/

theorem tells_beginPoll (l : Launcher) (names : List String) : l.Tells [] (l.beginPoll names).2 := by
  rcases beginPoll_cases l names with ⟨h, -⟩ | h
  · rw [h]
    exact .refl l
  · rw [h]
    exact .of_registry l _

theorem tells_resumePoll (l : Launcher) (p : Poll) (reply : Reply) : l.Tells [] (l.resumePoll p reply).2 := by
  rcases resumePoll_cases l p reply with ⟨h, -⟩ | ⟨answer, -, h⟩
  · rw [h]
    exact .refl l
  · rw [h]
    exact .of_registry l _

def stopNotices (name : String) (e : Entry) : StopProgress → List Notice
  | .done (.ok _) => [.cancelled name e.managed]
  | .done (.error _) | .waiting _ => []

theorem tells_finishStop (l : Launcher) (name : String) (e : Entry) (last : Snapshot) :
    l.Tells [.cancelled name e.managed] (l.finishStop name e last).2 :=
  .of_same rfl rfl rfl (Reporter.tells_stepCancelled ..) fun _ => rfl

theorem tells_stopPolling (name : String) (e : Entry) (next : PollProgress × Launcher) :
    next.2.Tells (stopNotices name e (stopPolling name e next).1) (stopPolling name e next).2 := by
  obtain ⟨reports | p, l⟩ := next
  · exact tells_finishStop l name e _
  · exact .refl l

variable {μ : Type}

theorem tells_dropTask (m : Machine μ) (l : Launcher) (e : Entry) (w : μ) : l.Tells [] (dropTask m l e w).2.1 := by
  unfold dropTask
  cases e.taskId with
  | none => exact .refl l
  | some id =>
    refine .of_narrowing rfl rfl (.refl _ _) (fun k hk => ?_) (Supervisor.issued_removeTask l.supervisor id) fun _ => rfl
    replace hk : (l.supervisor.removeTask id).2.2.task? k ≠ none := hk
    rw [Supervisor.task?_removeTask] at hk
    split at hk
    · exact absurd rfl hk
    · exact hk

theorem tells_takeDown (m : Machine μ) (l : Launcher) (name : String) (e : Entry) (w : μ) :
    l.Tells (stopNotices name e (takeDown m l name e w).1) (takeDown m l name e w).2.1 := by
  have hdrop := tells_dropTask m l e w
  unfold takeDown
  generalize dropTask m l e w = dropped at hdrop ⊢
  obtain ⟨seen, l', w'⟩ := dropped
  dsimp only at hdrop ⊢
  split
  · exact (hdrop.trans (tells_beginPoll l' [name])).trans (tells_stopPolling name e (l'.beginPoll [name]))
  · generalize l'.registry.observe name ((seen.map (·.ofStep)).getD Snapshot.unknown) = observed
    exact (hdrop.trans (.of_registry l' observed.2)).trans
      (tells_finishStop { l' with registry := observed.2 } name e observed.1)

theorem tells_noteCancel (l : Launcher) (name : String) (answer : Except String CommandOutput) :
    l.Tells [] (l.noteCancel name answer) := by
  have hlogged : ∀ detail, l.Tells []
      { l with reporter := l.reporter.note (·.cancelFailed l.backend.name name detail) } :=
    fun detail => .of_same rfl rfl rfl ⟨Option.map_id'.symm, rfl⟩ fun _ => rfl
  unfold noteCancel
  cases answer with
  | ok output =>
    dsimp only
    split
    · exact .refl l
    · exact hlogged _
  | error message => exact hlogged _

theorem tells_resumeStop (m : Machine μ) (l : Launcher) (s : Stop) (reply : Reply) (w : μ) :
    l.Tells (stopNotices s.name s.entry (resumeStop m l s reply w).1) (resumeStop m l s reply w).2.1 := by
  obtain ⟨name, e, stage⟩ := s
  cases stage with
  | cancelling command =>
    cases reply with
    | answered answer =>
      exact (tells_noteCancel l name answer).trans (tells_takeDown m (l.noteCancel name answer) name e w)
    | paused => exact .refl l
    | ended exit => exact .refl l
    | failed source => exact .refl l
  | polling p => exact (tells_resumePoll l p reply).trans (tells_stopPolling name e (l.resumePoll p reply))

theorem beginStop_of_unknown {l : Launcher} {name : String} (m : Machine μ) (w : μ) (h : l.registry.get? name = none) :
    beginStop m l name w = (.done (.error (.unknownStep name)), l, w) := by
  unfold beginStop
  rw [h]

theorem beginStop_of_registered {l : Launcher} {name : String} {e : Entry} (m : Machine μ) (w : μ)
    (h : l.registry.get? name = some e) : beginStop m l name w =
      ((l.cancelCommand? e).map fun command => (.waiting ⟨name, e, .cancelling command⟩, l, w)).getD
        (takeDown m l name e w) := by
  unfold beginStop
  rw [h]
  dsimp only
  cases l.cancelCommand? e <;> rfl

/-! ## Launches -/

theorem tells_prepare (l : Launcher) (registry : Registry) :
    l.Tells [] { l with registry, supervisor := l.supervisor.start } :=
  .of_narrowing rfl rfl (.refl _ _) (fun id hid => Supervisor.task?_congr (Supervisor.tasks_start _) id ▸ hid)
    (Supervisor.issued_start _) fun _ => rfl

theorem tells_track (l : Launcher) (registry : Registry) (step : Step) (t : Task) :
    l.Tells [.launched step (.task (.issued l.supervisor.issued))] { l with
      registry
      supervisor := (l.supervisor.track t).2
      reporter := l.reporter.stepLaunched l.backend.name step.name step.kind.text
        (.task (.issued l.supervisor.issued)) } where
  backend := rfl
  config := rfl
  reporter := Reporter.tells_stepLaunched ..
  tracked k hk := by
    replace hk : (l.supervisor.track t).2.task? k ≠ none := hk
    rw [Supervisor.task?_track] at hk
    by_cases hnew : k = .issued l.supervisor.issued
    · right
      rw [hnew]
      simp [Notice.starts]
    · rw [if_neg hnew, Option.or_none] at hk
      exact .inl hk
  fresh k := by
    show _ ≤ (l.supervisor.track t).2.issuedCount k
    rw [Supervisor.issuedCount_track, List.countP_singleton, Nat.add_comm]
    simp only [Notice.starts, StepIdentifier.task.injEq, decide_eq_true_eq]
    exact Nat.le_refl _

theorem tells_complete (l : Launcher) {step : Step} (managed : step.managed = true) (job : String) :
    (l.complete step (.scheduler job)).1 = .ok (.scheduler job) ∧
      l.Tells [.launched step (.scheduler job)] (l.complete step (.scheduler job)).2 := by
  have hcomplete := complete_of_fits l (show step.Fits (.scheduler job) from managed)
  rw [hcomplete]
  exact ⟨rfl, .of_same rfl rfl rfl (Reporter.tells_stepLaunched ..) fun id => by simp [Notice.starts]⟩

theorem spawn_refuses {m : Machine μ} {step : Step} {cwd : String} {out err : Sink} {w w' : μ} {e : LaunchError}
    (h : Supervisor.spawn m step.command cwd out err w = (.error e, w')) : e.isSubmissionFailed = false := by
  rcases Supervisor.spawn_error step.command_ne_nil h with ⟨path, source, rfl⟩ | ⟨command, source, rfl⟩ <;> rfl

theorem attempt_refuses {m : Machine μ} {backend : Backend} {s : Supervisor} {step : Step} {w : μ} {e : LaunchError}
    (h : (attempt m backend s step w).1 = .failed e) : e.isSubmissionFailed = false := by
  unfold attempt at h
  split at h
  · unfold Supervisor.startTask at h
    cases hp : Supervisor.spawn m step.command step.cwd (.file step.outFile) (.file step.errFile) w with
    | mk result w' =>
      rw [hp] at h
      cases result with
      | error e' =>
        cases h
        exact spawn_refuses hp
      | ok p => cases h
  · split at h
    · cases h
      rfl
    · split at h
      · cases h
        rfl
      · split at h
        · next hp =>
          cases h
          exact spawn_refuses hp
        · cases h

/-! ## Between the calls -/

theorem tells_forget (m : Machine μ) (l : Launcher) (name : String) (w : μ) : l.Tells [] (forget m l name w).2.1 := by
  unfold forget
  split
  · next e _ => exact (Tells.of_registry l _).trans (tells_dropTask m _ e w)
  · exact .refl l

/-- What some monitoring sees end. -/
def exits (l : Launcher) : Watch → List (TaskId × Task)
  | .scan answers => (l.supervisor.askAll answers).2
  | .drain .. | .endLoop _ => []

theorem tells_watch (l : Launcher) (v : Watch) : l.Tells ((l.exits v).map .exited) (l.watch v) := by
  cases v with
  | scan answers =>
    refine .of_narrowing rfl rfl (Reporter.tells_tasksExited ..) (fun id hid hnone => ?_)
      (Supervisor.issued_askAll l.supervisor answers) fun id => ?_
    · replace hid : (l.supervisor.askAll answers).1.task? id ≠ none := hid
      rw [Supervisor.task?_askAll, hnone] at hid
      exact hid rfl
    · simp [Notice.starts, List.countP_map, List.countP_eq_zero]
  | drain id out err =>
    refine .of_narrowing rfl rfl (.refl _ _) (fun k hk hnone => ?_) rfl fun _ => rfl
    replace hk : (l.supervisor.modifyTask id (·.drained out err)).task? k ≠ none := hk
    rw [Supervisor.task?_modifyTask, hnone] at hk
    exact hk (ite_self none)
  | endLoop i => exact .of_narrowing rfl rfl (.refl _ _) (fun _ hk => hk) rfl fun _ => rfl

theorem task?_of_mem_exits {l : Launcher} {v : Watch} {x : TaskId × Task} (h : x ∈ l.exits v) :
    l.supervisor.task? x.1 ≠ none := by
  cases v with
  | scan answers =>
    intro hnone
    have hseen := (Supervisor.task?_of_mem_askAll h).1
    rw [Supervisor.task?_askAll, hnone] at hseen
    cases hseen
  | drain id out err => cases h
  | endLoop i => cases h

theorem tells_beginShutdown (l : Launcher) : l.Tells [] l.beginShutdown.2 :=
  .of_narrowing rfl rfl (.refl _ _)
    (fun id hid => Supervisor.task?_congr (Supervisor.tasks_beginShutdown l.supervisor) id ▸ hid)
    (Supervisor.issued_beginShutdown l.supervisor) fun _ => rfl

theorem tells_finishShutdown (m : Machine μ) (l : Launcher) (w : μ) : l.Tells [] (finishShutdown m l w).1 :=
  .of_narrowing rfl rfl (.refl _ _) (fun _ hid => absurd rfl hid) rfl fun _ => rfl

theorem tells_dropCall (m : Machine μ) (l : Launcher) (call : Call) (w : μ) : l.Tells [] (dropCall m l call w).1 := by
  cases call with
  | run r => exact .of_registry l _
  | poll p => exact .refl l
  | stop s => exact .refl l

end Launcher

end JobLaunch
