import JobLaunch.Proofs.FirstPoll
import JobLaunch.Proofs.Misconfigured
import JobLaunch.Proofs.Stopping

/-!
# What forgetting a step does

A step is forgotten between the moves of calls. Its record goes; the question is what becomes of its work.

* `Launcher.unended?` : the process of an entry's task, unless a scan has seen it end;
* `Launcher.forgetOperations` : what forgetting asks of the machine; `Launcher.forgetOperations_eq`;
* `Launcher.forget_eq` : all that forgetting does;
* `Traffic.taskId_of_job` : a job has no task, at every moment;
* `Traffic.LosesRecord` : the record of a step is gone, and nothing else;
* `Traffic.forget_drops_record` : forgetting drops the record, and kills the process unless a scan has seen it end.
-/

namespace JobLaunch

variable {μ : Type}

namespace Launcher

variable {m : Machine μ} {l : Launcher} {name : String} {e : Entry}

/-! ## The work of a step -/

/-- The process of an entry's task, unless a scan has seen it end. -/
def unended? (l : Launcher) (e : Entry) : Option ProcessId :=
  (e.taskId.bind l.supervisor.task?).bind fun t => if t.exited then none else some t.process

theorem unended?_of_no_task (l : Launcher) (bare : e.taskId = none) : l.unended? e = none := by
  rw [unended?, bare]
  rfl

theorem halt_eq (m : Machine μ) (l : Launcher) (e : Entry) (w : μ) :
    l.halt m e w = (l.unended? e).elim w (m.kill · w) := by
  unfold halt unended?
  cases e.taskId.bind l.supervisor.task? with
  | none => rfl
  | some t =>
    dsimp only [Option.bind_some]
    split <;> rfl

/-- What forgetting a name asks of the machine. -/
def forgetOperations (m : Machine μ) (l : Launcher) (name : String) (w : μ) : List Operation :=
  (forget m.logging l name (w, [])).2.2.2

theorem supervisor_dropTask (m : Machine μ) (l : Launcher) (e : Entry) (w : μ) :
    (dropTask m l e w).2.1.supervisor =
      { l.supervisor with tasks := (dropTask m l e w).2.1.supervisor.tasks } := by
  unfold dropTask
  cases e.taskId with
  | none => rfl
  | some id =>
    unfold Supervisor.removeTask
    dsimp only
    cases l.supervisor.task? id <;> rfl

/-- **All that forgetting does.** The entry is returned and taken out, its task is not tracked any more, and its process
is killed unless a scan has seen it end. -/
theorem forget_eq (m : Machine μ) (h : l.registry.get? name = some e) (w : μ) :
    forget m l name w = (some e, { l with
      registry := l.registry.remove name
      supervisor := { l.supervisor with tasks := l.supervisor.tasks.filter (e.spares ·.1) } }, l.halt m e w) := by
  have hrest := supervisor_dropTask m { l with registry := l.registry.remove name } e w
  obtain ⟨supervisor, htasks, hdrop⟩ := dropTask_eq m { l with registry := l.registry.remove name } e w
  rw [hdrop] at hrest
  replace hrest : supervisor = { l.supervisor with tasks := supervisor.tasks } := hrest
  rw [htasks] at hrest
  unfold forget
  rw [h]
  dsimp only
  rw [hdrop, hrest]
  rfl

theorem forgetOperations_eq (m : Machine μ) (h : l.registry.get? name = some e) (w : μ) :
    l.forgetOperations m name w = (l.unended? e).toList.map .kill := by
  rw [forgetOperations, forget_eq m.logging h, halt_eq]
  cases l.unended? e <;> rfl

end Launcher

/-! ## Jobs have no tasks -/

namespace Traffic

open Launcher

variable {m : Machine μ} {S S' : Traffic μ} {name : String} {e : Entry}

theorem taskId_of_mem_facts {v : Move μ} (h : .registered name e ∈ S.facts m v) (managed : e.managed = true) :
    e.taskId = none := by
  rcases launch_of_registered h with ⟨step, -, h⟩ | ⟨i, r, reply, -, -, h⟩
  · have hcourse : Course S.launcher step [] ((beginRun m S.launcher step S.world).1.map .run .launched)
        (beginRun m S.launcher step S.world).2.1 := course_begin m S.launcher step S.world
    obtain ⟨id, hdone, rfl⟩ := done_of_mem_launchFacts h
    rw [hdone] at hcourse
    cases hcourse with
    | launched id l' launched =>
      obtain ⟨job, rfl, -⟩ := launched.batch (step.managed_iff.1 managed)
      rfl
  · obtain ⟨id, hdone, rfl⟩ := done_of_mem_launchFacts h
    obtain ⟨job, rfl, -⟩ := gives_of_resumeRun hdone
    rfl

/-- **A job has no task,** at every moment. -/
theorem taskId_of_job (m : Machine μ) (backend : Backend) (config : Config) (bus : Option (EventBus StepEvent)) (w : μ)
    (vs : List (Move μ)) : ∀ n, ∀ e ∈ ((quiet (.new backend config bus) w).run m vs).launcher.registry.get? n,
      e.managed = true → e.taskId = none := by
  refine run_induction (P := fun S => ∀ n, ∀ e ∈ S.launcher.registry.get? n, e.managed = true → e.taskId = none)
    (fun S v h n => ?_) (fun n e he => ?_) vs
  · rw [get?_move]
    exact Fact.replay_induction (fun name e he => taskId_of_mem_facts he) (fun x hx e he => he) (h n)
  · cases (he : none = some e)

/-! ## The result -/

/-- The record of a step is gone, its entry and its task, and nothing else: what is told, how tasks are monitored, which
calls are under way, and for which commands they wait. -/
structure LosesRecord (S : Traffic μ) (name : String) (e : Entry) (S' : Traffic μ) : Prop where
  tables : S.launcher.Without name e [] S'.launcher
  supervisor : S'.launcher.supervisor = { S.launcher.supervisor with tasks := S'.launcher.supervisor.tasks }
  reporter : S'.launcher.reporter = S.launcher.reporter
  backend : S'.launcher.backend = S.launcher.backend
  config : S'.launcher.config = S.launcher.config
  calls : S'.calls = S.calls
  waits : ∀ call, S'.launcher.callWait call = S.launcher.callWait call

theorem losesRecord_forget (m : Machine μ) (h : S.launcher.registry.get? name = some e) :
    S.LosesRecord name e (S.move m (.forget name)) := by
  have hmove : S.move m (.forget name) =
      { S with
        launcher := (forget m S.launcher name S.world).2.1
        world := (forget m S.launcher name S.world).2.2 } := rfl
  rw [hmove, forget_eq m h]
  refine ⟨⟨?_, fun n hn => ?_, rfl, rfl⟩, rfl, rfl, rfl, rfl, rfl, fun call => ?_⟩
  · exact (Registry.get?_remove _ name name).trans (if_pos rfl)
  · exact (Registry.get?_remove _ name n).trans (if_neg hn)
  · cases call <;> rfl

/-- **Forgetting drops the record of a step, and its work with it exactly if that is a process which no scan has seen
end.** The entry is returned; it and its task are gone, and nothing else: no call begins or goes on, no command is
waited for, and nothing is told. A process is killed unless a scan has seen it end; apart from that nothing is asked of
the machine, and nothing at all if the step is a job. -/
theorem forget_drops_record (m : Machine μ) (S : Traffic μ) {name : String} {e : Entry}
    (h : S.launcher.registry.get? name = some e) :
    let asked := S.launcher.forgetOperations m name S.world
    (forget m S.launcher name S.world).1 = some e ∧
    S.LosesRecord name e (S.move m (.forget name)) ∧
    (S.move m (.forget name)).world = (S.launcher.unended? e).elim S.world (m.kill · S.world) ∧
    asked = (S.launcher.unended? e).toList.map .kill ∧
    (asked = [] ↔ S.launcher.unended? e = none) ∧
    ∀ backend config bus w vs, S = (quiet (.new backend config bus) w).run m vs → e.managed = true → asked = [] := by
  intro asked
  have hasked : asked = (S.launcher.unended? e).toList.map .kill := forgetOperations_eq m h S.world
  have hforget := forget_eq m h S.world
  refine ⟨congrArg (·.1) hforget, losesRecord_forget m h, ?_, hasked, ?_, ?_⟩
  · rw [← halt_eq]
    exact congrArg (·.2.2) hforget
  · rw [hasked]
    cases S.launcher.unended? e <;> simp
  · rintro backend config bus w vs rfl managed
    rw [hasked, unended?_of_no_task _ (taskId_of_job m backend config bus w vs name e h managed)]
    rfl

/-- A process that a scan has seen end is left alone, while the submission of another step is under way. -/
theorem forget_drops_record_ended :
    let S : Traffic Unit := quiet (.new (.scheduled (.pbs {})) {} none) ()
    let vs : List (Move Unit) := [.begin (.run ⟨"a", "/", false, .plain { exe := "true" }, rfl⟩),
      .begin (.run ⟨"b", "/", true, .pbsBatch {} [], rfl⟩), .watch (.scan [(.issued 0, .exited 0)])]
    let e : Entry := ⟨none, some (.issued 0), false, none⟩
    (S.run .obliging vs).LosesRecord "a" e ((S.run .obliging vs).move .obliging (.forget "a")) ∧
      (S.run .obliging vs).launcher.forgetOperations .obliging "a" () = [] := by
  intro S vs e
  have registered : (S.run .obliging vs).launcher.registry.get? "a" = some e := rfl
  obtain ⟨-, loses, -, -, hasked, -⟩ := forget_drops_record .obliging (S.run .obliging vs) registered
  exact ⟨loses, hasked.2 (by decide +kernel)⟩

/-- A process that still runs is killed. -/
theorem forget_drops_record_fails :
    let S : Traffic Unit := quiet (.new .localMachine {} none) ()
    let vs : List (Move Unit) := [.begin (.run ⟨"a", "/", false, .plain { exe := "sleep" }, rfl⟩)]
    (S.run .obliging vs).launcher.registry.get? "a" = some ⟨none, some (.issued 0), false, none⟩ ∧
      ((S.run .obliging vs).launcher.supervisor.task? (.issued 0)).map (·.status) = some .running ∧
      (S.run .obliging vs).launcher.forgetOperations .obliging "a" () = [.kill 0] :=
  ⟨rfl, rfl, rfl⟩

end Traffic

end JobLaunch
