import JobLaunch.Launcher.Call
import JobLaunch.Proofs.Launch
import JobLaunch.Proofs.Members
import JobLaunch.Proofs.Monitoring

/-!
# A launch registers its step or leaves no trace

The launch is the only call under way, but while it waits the tasks are monitored and the machine goes on by itself.

* `Ends` : a call comes to its end, over any number of waits;
* `Launched`, `Refused` : what a launch leaves behind that succeeds, and one that fails;
* `Course` : how far a launch has come, with everything that holds until then;
* `launched_or_refused` : every launch that ends has done one or the other;
* `launch_all_or_nothing` : so it is with a step from a constructor, whatever has been added to it, and the flag that the
  constructor has stored is the one that is registered.
-/

namespace JobLaunch

namespace Launcher

variable {μ : Type} {m : Machine μ} {l l' : Launcher} {step : Step} {ws : List Watch}

/-- From where it is, a call comes to its end with an answer and a launcher, after some monitoring. -/
inductive Ends (m : Machine μ) : CallProgress × Launcher × μ → List Watch → Answer → Launcher → Prop
  | done (a : Answer) (l : Launcher) (w : μ) : Ends m (.done a, l, w) [] a l
  | waits {call : Call} {l l' : Launcher} {w w' : μ} {ws vs : List Watch} {reply : Reply} {a : Answer}
    (rest : Ends m (resumeCall m (l.watchAll ws) call reply w') vs a l') :
    Ends m (.waiting call, l, w) (ws ++ vs) a l'

/-- The launch of a step on `l` has ended on `l'` with an identifier. -/
structure Launched (l : Launcher) (step : Step) (ws : List Watch) (id : StepIdentifier) (l' : Launcher) : Prop where
  free : l.registry.get? step.name = none ∧ l.registry.isReserved step.name = false
  registry : l'.registry = { l.registry with entries := l.registry.entries.insert step.name (step.entry id) }
  direct : step.kind = .directRun → ws = [] ∧ ∃ p, id = .task (.issued l.supervisor.issued) ∧
    l'.supervisor.tasks = l.supervisor.tasks ++
      [(.issued l.supervisor.issued, Task.new p (.file step.outFile) (.file step.errFile))]
  /-- The tasks after a batch launch are those that the monitoring leaves. -/
  batch : step.kind = .batch → ∃ job, id = .scheduler job ∧
    l'.supervisor.tasks = (l.watchAll ws).supervisor.tasks

/-- The launch of a step on `l` has ended on `l'` with an error. -/
structure Refused (l : Launcher) (step : Step) (ws : List Watch) (e : LaunchError) (l' : Launcher) : Prop where
  registry : l'.registry = l.registry
  tasks : l'.supervisor.tasks = (l.watchAll ws).supervisor.tasks
  /-- It is not the registration that has failed. -/
  uncommitted : ∀ (r : Registry) stepId taskId managed, (r.commit step.name stepId taskId managed).1 ≠ .error e

/-- How far the launch of a step on `l` has come. -/
inductive Course (l : Launcher) (step : Step) (ws : List Watch) : CallProgress → Launcher → Prop
  | waits (r : Run) (l' : Launcher) (same : r.step = step) (batch : step.managed = true)
    (held : l.registry.reserve step.name = .ok l'.registry)
    (tasks : l'.supervisor.tasks = (l.watchAll ws).supervisor.tasks) : Course l step ws (.waiting (.run r)) l'
  | launched (id : StepIdentifier) (l' : Launcher) (h : Launched l step ws id l') :
    Course l step ws (.done (.launched (.ok id))) l'
  | refused (e : LaunchError) (l' : Launcher) (h : Refused l step ws e l') :
    Course l step ws (.done (.launched (.error e))) l'

theorem commit_ne_of_plain {e : LaunchError} (plain : ∀ reason, e ≠ .configuration reason) (name : String)
    (r : Registry) (stepId : Option String) (taskId : Option TaskId) (managed : Bool) :
    (r.commit name stepId taskId managed).1 ≠ .error e := by
  intro h
  obtain ⟨reason, hreason⟩ := Registry.commit_error h
  exact plain reason hreason

theorem refused_abandon (l' : Launcher) {e : LaunchError} (held : l.registry.reserve step.name = .ok l'.registry)
    (tasks : l'.supervisor.tasks = (l.watchAll ws).supervisor.tasks) (plain : ∀ reason, e ≠ .configuration reason) :
    Refused l step ws e (l'.abandon step e).2 where
  registry := Registry.release_reserve held
  tasks := tasks
  uncommitted := commit_ne_of_plain plain step.name

theorem course_complete (l' : Launcher) {id : StepIdentifier} (held : l.registry.reserve step.name = .ok l'.registry)
    (fits : step.Fits id)
    (direct : step.kind = .directRun → ws = [] ∧ ∃ p, id = .task (.issued l.supervisor.issued) ∧
      l'.supervisor.tasks = l.supervisor.tasks ++
        [(.issued l.supervisor.issued, Task.new p (.file step.outFile) (.file step.errFile))])
    (batch : step.kind = .batch → ∃ job, id = .scheduler job ∧
      l'.supervisor.tasks = (l.watchAll ws).supervisor.tasks) :
    Course l step ws (.done (.launched (l'.complete step id).1)) (l'.complete step id).2 := by
  obtain ⟨hget, hres, hreg⟩ := Registry.reserve_eq_ok held
  have hentries : l'.registry.entries = l.registry.entries := by rw [hreg]
  rw [complete_of_fits l' fits]
  refine .launched id _ ⟨⟨hget, hres⟩, ?_, direct, batch⟩
  show { l'.registry.release step.name with entries := l'.registry.entries.insert step.name (step.entry id) } = _
  rw [Registry.release_reserve held, hentries]

theorem course_begin (m : Machine μ) (l : Launcher) (step : Step) (w : μ) :
    Course l step [] (beginCall m l (.run step) w).1 (beginCall m l (.run step) w).2.1 := by
  show Course l step [] ((beginRun m l step w).1.map .run .launched) (beginRun m l step w).2.1
  cases held : l.registry.reserve step.name with
  | error e =>
    have hbegin : beginRun m l step w = (.done (.error e), l, w) := by
      unfold beginRun beginRunOn
      rw [held]
    obtain ⟨-, rfl⟩ := Registry.reserve_eq_error held
    have plain : ∀ reason, LaunchError.duplicateStep step.name ≠ .configuration reason := nofun
    rw [hbegin]
    exact .refused _ l ⟨rfl, rfl, commit_ne_of_plain plain step.name⟩
  | ok r =>
    rw [beginRun_eq m w held]
    dsimp only
    have hcases := attempted m l.backend l.supervisor.start step w
    generalize attempt m l.backend l.supervisor.start step w = a at hcases
    cases hcases with
    | failed e w' plain =>
      exact .refused e _ (refused_abandon { l with registry := r, supervisor := l.supervisor.start } held
        (Supervisor.tasks_start _) plain)
    | started p w' direct =>
      refine course_complete { l with
        registry := r
        supervisor := (l.supervisor.start.track (Task.new p (.file step.outFile) (.file step.errFile))).2 }
        held direct (fun _ => ⟨rfl, p, ?_, ?_⟩) fun hbatch => ?_
      · rw [Supervisor.issued_start]
      · simp [Supervisor.track, Supervisor.adopt]
      · rw [step.managed_iff.2 hbatch] at direct
        cases direct
    | submitted scheduler p w' batch owner =>
      exact .waits _ _ rfl batch held (Supervisor.tasks_start _)

theorem course_resume {r : Run} (same : r.step = step) (batch : step.managed = true)
    (held : l.registry.reserve step.name = .ok l'.registry)
    (tasks : l'.supervisor.tasks = (l.watchAll ws).supervisor.tasks) (reply : Reply) (w : μ) :
    Course l step ws (resumeCall m l' (.run r) reply w).1 (resumeCall m l' (.run r) reply w).2.1 := by
  show Course l step ws ((l'.resumeRun r reply).1.map .run .launched) (l'.resumeRun r reply).2
  have hcases := resumed l' r reply
  generalize l'.resumeRun r reply = next at hcases
  cases hcases with
  | waits stage => exact .waits _ _ same batch held tasks
  | fails reporter e plain =>
    subst same
    exact .refused e _ (refused_abandon { l' with reporter } held tasks plain)
  | succeeds reporter job =>
    subst same
    refine course_complete { l' with reporter } held batch (fun hdirect => ?_) fun _ => ⟨job, rfl, tasks⟩
    rw [r.step.managed_iff.1 batch] at hdirect
    cases hdirect

theorem course_ends {s : CallProgress × Launcher × μ} {vs : List Watch} {a : Answer}
    (h : Ends m s vs a l') {us : List Watch} (start : Course l step us s.1 s.2.1) :
    Course l step (us ++ vs) (.done a) l' := by
  -- over the waits of the call; what the course says of the tasks grows with the monitoring of each wait
  induction h generalizing us with
  | done a l₁ w => rwa [List.append_nil]
  | waits rest ih =>
    rename_i call l₁ l₂ w w' ws' vs' reply a'
    cases start with
    | waits r _ same batch held tasks =>
      rw [← List.append_assoc]
      refine ih (course_resume same batch ?_ ?_ reply w')
      · rw [registry_watchAll]
        exact held
      · rw [watchAll_append]
        exact tasks_watchAll_congr tasks ws'

theorem launched_or_refused {w : μ} {a : Answer} (h : Ends m (beginCall m l (.run step) w) ws a l') :
    (∃ id, a = .launched (.ok id) ∧ Launched l step ws id l') ∨
      ∃ e, a = .launched (.error e) ∧ Refused l step ws e l' := by
  have hcourse : Course l step ws (.done a) l' := course_ends h (course_begin m l step w)
  cases hcourse with
  | launched id _ hl => exact Or.inl ⟨id, rfl, hl⟩
  | refused e _ hr => exact Or.inr ⟨e, rfl, hr⟩

/-- **A step from a constructor keeps its name and its stored flag, whatever members are added to it, and the flag tells
what a launch makes of it. A launch of it that ends has registered it, or has left the registry and the tasks as they
were.** -/
theorem launch_all_or_nothing {name cwd : String} {settings : Settings} {s : Step}
    (created : Step.create name cwd settings = .ok s) (members : List Step) {w : μ} {a : Answer}
    (h : Ends m (beginCall m l (.run (s.addMembers members).1) w) ws a l') :
    let step := (s.addMembers members).1
    (step.name = name ∧ step.managed = settings.isBatch ∧ (step.managed = true ↔ step.kind = .batch)) ∧
      ((∃ id, a = .launched (.ok id) ∧ Launched l step ws id l') ∨
        ∃ e, a = .launched (.error e) ∧ Refused l step ws e l') := by
  intro step
  obtain ⟨hmanaged, hname⟩ := s.managed_addMembers members
  have made := Step.of_create created
  exact ⟨⟨hname.trans made.name, hmanaged.trans made.managed, step.managed_iff⟩, launched_or_refused h⟩

/-- The submission of a batch step with a member and a refused one prints `7` while the monitoring loop ends. -/
theorem launch_all_or_nothing_submission :
    let settings : Settings := .pbsBatch {}
    let members : List Step := [⟨"m", "/", false, .plain { exe := "true" }, rfl⟩, ⟨"b", "/", true, .gridBatch {} [], rfl⟩]
    ∃ s l', Step.create "a" "/" settings = .ok s ∧ (s.addMembers members).2 = members.take 1 ∧
      Launched (.new (.scheduled (.pbs {})) {} none) (s.addMembers members).1 [.endLoop 0] (.scheduler "7") l' := by
  intro settings members
  have created : Step.create "a" "/" settings = .ok ⟨"a", "/", true, .pbsBatch {} [], rfl⟩ := rfl
  have hends : ∃ l', Ends Machine.obliging (beginCall Machine.obliging (.new (.scheduled (.pbs {})) {} none)
      (.run (Step.addMembers ⟨"a", "/", true, .pbsBatch {} [], rfl⟩ members).1) ()) [.endLoop 0]
      (.launched (.ok (.scheduler "7"))) l' := by
    refine ⟨?_, @Ends.waits Unit _ _ _ _ () () [.endLoop 0] [] (.ended ⟨0, [55, 10], []⟩) _ ?_⟩
    rotate_left
    exact .done _ _ _
  obtain ⟨l', hends⟩ := hends
  obtain ⟨-, ⟨id, ha, h⟩ | ⟨e, ha, -⟩⟩ := launch_all_or_nothing created members hends
  · cases ha
    exact ⟨_, l', created, rfl, h⟩
  · cases ha

end Launcher

end JobLaunch
