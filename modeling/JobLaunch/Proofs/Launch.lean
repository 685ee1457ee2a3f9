import JobLaunch.Launcher.Run
import JobLaunch.Proofs.Monitoring
import JobLaunch.Proofs.Registry

/-!
# A launch, cut where the registry is used

* `Launcher.attempt` : the part of a launch that writes files and starts a process, which knows no registry;
* `Launcher.conclude` : what is made of its outcome; `Launcher.beginRun_eq` : a launch is a reservation, an attempt
  and its conclusion;
* `Machine.witnessing`, `Launcher.witnessed_of_reserve` : what a launch asks of the machine, it asks under its
  reservation;
* `Attempted`, `Resumed` : all that an attempt, and a launch that goes on, can come to;
* `Launcher.complete_of_fits` : the last step does not fail.
-/

namespace JobLaunch

variable {μ : Type}

/-- Something that a machine is asked to do. -/
inductive Operation where
  | write (path text : String)
  | spawn (process : Spawn)
  | kill (process : ProcessId)
  deriving DecidableEq

/-- The machine, which also keeps a list of what it is asked to do, each with the registry that is given. -/
def Machine.witnessing (m : Machine μ) (r : Registry) : Machine (μ × List (Operation × Registry)) where
  writeFile path text w :=
    ((m.writeFile path text w.1).1, (m.writeFile path text w.1).2, w.2 ++ [(.write path text, r)])
  spawn p w := ((m.spawn p w.1).1, (m.spawn p w.1).2, w.2 ++ [(.spawn p, r)])
  kill p w := (m.kill p w.1, w.2 ++ [(.kill p, r)])

/-- What the first part of a launch comes to. -/
inductive Attempt where
  | failed (e : LaunchError)
  | started (task : TaskId)
  | submitted (scheduler : Scheduler) (process : ProcessId)

/-- What a launch registers for a step. -/
def Step.entry (s : Step) (id : StepIdentifier) : Entry :=
  { stepId := id.stepId?, taskId := id.taskId?, managed := s.managed }

/-- Is it the kind of identifier that the launch of a step ends with? -/
def Step.Fits (s : Step) : StepIdentifier → Prop
  | .scheduler _ => s.managed = true
  | .task _ => s.managed = false

theorem Step.command_ne_nil (s : Step) : s.command ≠ [] := by
  unfold command
  cases h : s.launch <;> simp [directCommand?, h, RunSettings.exeWords]

namespace Supervisor

theorem openSink_error {m : Machine μ} {sink : Sink} {w w' : μ} {e : LaunchError}
    (h : openSink m sink w = (.error e, w')) : ∃ path source, e = .file path source := by
  cases sink with
  | file path =>
    simp only [openSink] at h
    split at h <;> cases h
    exact ⟨_, _, rfl⟩
  | capture => cases h
  | discard => cases h

theorem spawn_error {m : Machine μ} {words : List String} {cwd : String} {out err : Sink} {w w' : μ} {e : LaunchError}
    (hwords : words ≠ []) (h : spawn m words cwd out err w = (.error e, w')) :
    (∃ path source, e = .file path source) ∨ ∃ command source, e = .spawn command source := by
  unfold spawn at h
  split at h
  · exact absurd rfl hwords
  · split at h
    · next he => cases h; exact .inl (openSink_error he)
    · split at h
      · next he => cases h; exact .inl (openSink_error he)
      · split at h
        · cases h; exact .inr ⟨_, _, rfl⟩
        · cases h

theorem spawn_error_plain {m : Machine μ} {words : List String} {cwd : String} {out err : Sink} {w w' : μ}
    {e : LaunchError} (hwords : words ≠ []) (h : spawn m words cwd out err w = (.error e, w')) (reason : String) :
    e ≠ .configuration reason := by
  rcases spawn_error hwords h with ⟨path, source, rfl⟩ | ⟨command, source, rfl⟩ <;> nofun

end Supervisor

/-! ## Two machines side by side -/

section Simulation

variable {ν : Type} {n : Machine ν} {m : Machine μ} {R : ν → μ → Prop}

/-- Two machines have given the same answer and are in related states. -/
def Alike {α : Type} (R : ν → μ → Prop) (x : α × ν) (y : α × μ) : Prop :=
  ∃ a v w, x = (a, v) ∧ y = (a, w) ∧ R v w

/-- In related states two machines write files and start processes alike. -/
structure Machine.Simulates (n : Machine ν) (m : Machine μ) (R : ν → μ → Prop) : Prop where
  writeFile (path text : String) {v : ν} {w : μ} (h : R v w) : Alike R (n.writeFile path text v) (m.writeFile path text w)
  spawn (p : Spawn) {v : ν} {w : μ} (h : R v w) : Alike R (n.spawn p v) (m.spawn p w)

theorem Machine.witnessing_simulates (m : Machine μ) (r : Registry) :
    (m.witnessing r).Simulates m fun v w => v.1 = w ∧ ∀ x ∈ v.2, x.2 = r ∧ ∀ p, x.1 ≠ .kill p where
  writeFile path text v w := by
    rintro ⟨rfl, hasked⟩
    refine ⟨_, _, _, rfl, rfl, rfl, fun x hx => ?_⟩
    rcases List.mem_append.1 hx with hx | hx
    · exact hasked x hx
    · rw [List.mem_singleton.1 hx]
      exact ⟨rfl, nofun⟩
  spawn p v w := by
    rintro ⟨rfl, hasked⟩
    refine ⟨_, _, _, rfl, rfl, rfl, fun x hx => ?_⟩
    rcases List.mem_append.1 hx with hx | hx
    · exact hasked x hx
    · rw [List.mem_singleton.1 hx]
      exact ⟨rfl, nofun⟩

namespace Supervisor

theorem alike_openSink (h : n.Simulates m R) (sink : Sink) {v : ν} {w : μ} (hw : R v w) :
    Alike R (openSink n sink v) (openSink m sink w) := by
  cases sink with
  | file path =>
    obtain ⟨a, v', w', hn, hm, hrel⟩ := h.writeFile path "" hw
    simp only [openSink, hn, hm]
    cases a <;> exact ⟨_, _, _, rfl, rfl, hrel⟩
  | capture => exact ⟨_, _, _, rfl, rfl, hw⟩
  | discard => exact ⟨_, _, _, rfl, rfl, hw⟩

theorem alike_spawn (h : n.Simulates m R) (words : List String) (cwd : String) (out err : Sink) {v : ν} {w : μ}
    (hw : R v w) : Alike R (spawn n words cwd out err v) (spawn m words cwd out err w) := by
  unfold spawn
  cases words with
  | nil => exact ⟨_, _, _, rfl, rfl, hw⟩
  | cons program args =>
    obtain ⟨a, v₁, w₁, hn, hm, hrel⟩ := alike_openSink h out hw
    dsimp only
    rw [hn, hm]
    cases a with
    | error e => exact ⟨_, _, _, rfl, rfl, hrel⟩
    | ok _ =>
      obtain ⟨a, v₂, w₂, hn, hm, hrel⟩ := alike_openSink h err hrel
      dsimp only
      rw [hn, hm]
      cases a with
      | error e => exact ⟨_, _, _, rfl, rfl, hrel⟩
      | ok _ =>
        obtain ⟨a, v₃, w₃, hn, hm, hrel⟩ := h.spawn ⟨program, args, cwd, out, err⟩ hrel
        dsimp only
        rw [hn, hm]
        cases a <;> exact ⟨_, _, _, rfl, rfl, hrel⟩

end Supervisor

end Simulation

namespace Launcher

variable {ν : Type} {n : Machine ν} {m : Machine μ} {R : ν → μ → Prop}

/-! ## The start of a launch -/

/-- The part of a launch that writes files and starts a process. -/
def attempt (m : Machine μ) (backend : Backend) (supervisor : Supervisor) (step : Step) (w : μ) :
    Attempt × Supervisor × μ :=
  match step.script? with
  | none =>
    match supervisor.startTask m step.command step.cwd (.file step.outFile) (.file step.errFile) w with
    | (.error e, supervisor, w) => (.failed e, supervisor, w)
    | (.ok id, supervisor, w) => (.started id, supervisor, w)
  | some script =>
    match m.writeFile step.scriptFile script.text w with
    | (.error e, w) => (.failed (.file step.scriptFile e), supervisor, w)
    | (.ok _, w) =>
      match backend.scheduler? with
      | none => (.failed (.unsupportedSettings backend.name step.settingsKind), supervisor, w)
      | some scheduler =>
        match Supervisor.spawn m step.command step.cwd .capture .capture w with
        | (.error e, w) => (.failed e, supervisor, w)
        | (.ok p, w) => (.submitted scheduler p, supervisor, w)

def conclude (l : Launcher) (step : Step) : Attempt → RunProgress × Launcher
  | .failed e => ended (l.abandon step e)
  | .started id => ended (l.complete step (.task id))
  | .submitted scheduler p => (.waiting ⟨step, scheduler, .submitting p⟩, l)

/-- **A launch is a reservation, an attempt and its conclusion.** -/
theorem beginRun_eq {l : Launcher} {step : Step} {held : Registry} (m : Machine μ) (w : μ)
    (h : l.registry.reserve step.name = .ok held) :
    beginRun m l step w =
      let a := attempt m l.backend l.supervisor.start step w
      let c := { l with registry := held, supervisor := a.2.1 }.conclude step a.1
      (c.1, c.2, a.2.2) := by
  unfold beginRun beginRunOn attempt
  rw [h]
  cases step.script? with
  | none =>
    simp only [launchDirect]
    rcases Supervisor.startTask m l.supervisor.start step.command step.cwd (.file step.outFile) (.file step.errFile) w
      with ⟨_ | _, _, _⟩ <;> rfl
  | some script =>
    simp only [launchBatch]
    rcases m.writeFile step.scriptFile script.text w with ⟨_ | _, w'⟩
    · rfl
    · cases l.backend.scheduler? with
      | none => rfl
      | some scheduler =>
        dsimp only
        rcases Supervisor.spawn m step.command step.cwd .capture .capture w' with ⟨_ | _, _⟩ <;> rfl

theorem beginRun_of_taken {l : Launcher} {step : Step} (m : Machine μ) (w : μ)
    (h : (l.registry.contains step.name || l.registry.isReserved step.name) = true) :
    beginRun m l step w = (.done (.error (.duplicateStep step.name)), l, w) := by
  unfold beginRun beginRunOn
  rw [Registry.reserve_of_taken h]

/-! ## What a launch asks of the machine -/

theorem alike_attempt (h : n.Simulates m R) (backend : Backend) (supervisor : Supervisor) (step : Step) {v : ν} {w : μ}
    (hw : R v w) : ∃ a s v' w', attempt n backend supervisor step v = (a, s, v') ∧
      attempt m backend supervisor step w = (a, s, w') ∧ R v' w' := by
  unfold attempt
  cases step.script? with
  | none =>
    obtain ⟨a, v', w', hn, hm, hrel⟩ :=
      Supervisor.alike_spawn h step.command step.cwd (.file step.outFile) (.file step.errFile) hw
    unfold Supervisor.startTask
    rw [hn, hm]
    cases a <;> exact ⟨_, _, _, _, rfl, rfl, hrel⟩
  | some script =>
    obtain ⟨a, v', w', hn, hm, hrel⟩ := h.writeFile step.scriptFile script.text hw
    dsimp only
    rw [hn, hm]
    cases a with
    | error e => exact ⟨_, _, _, _, rfl, rfl, hrel⟩
    | ok _ =>
      cases backend.scheduler? with
      | none => exact ⟨_, _, _, _, rfl, rfl, hrel⟩
      | some scheduler =>
        obtain ⟨a, v'', w'', hn, hm, hrel⟩ := Supervisor.alike_spawn h step.command step.cwd .capture .capture hrel
        dsimp only
        rw [hn, hm]
        cases a <;> exact ⟨_, _, _, _, rfl, rfl, hrel⟩

theorem beginRunOn_eq {l : Launcher} {step : Step} {held : Registry} (M : Registry → Machine μ) (w : μ)
    (h : l.registry.reserve step.name = .ok held) : beginRunOn M l step w = beginRun (M held) l step w := by
  unfold beginRun beginRunOn
  rw [h]
  cases step.script? <;> rfl

/-- **All that a launch asks of the machine it asks while its name is reserved,** and it kills nothing. -/
theorem witnessed_of_reserve {l : Launcher} {step : Step} {held : Registry} (m : Machine μ) (w : μ)
    (h : l.registry.reserve step.name = .ok held) :
    let t := beginRunOn m.witnessing l step (w, [])
    (t.1, t.2.1, t.2.2.1) = beginRun m l step w ∧ ∀ x ∈ t.2.2.2, x.2 = held ∧ ∀ p, x.1 ≠ .kill p := by
  obtain ⟨a, s, v', w', hwitnessing, hplain, rfl, hasked⟩ := alike_attempt (m.witnessing_simulates held) l.backend
    l.supervisor.start step (v := (w, [])) (w := w) ⟨rfl, nofun⟩
  rw [beginRunOn_eq m.witnessing (w, []) h, beginRun_eq _ _ h, beginRun_eq m w h, hwitnessing, hplain]
  exact ⟨rfl, hasked⟩

inductive Attempted (backend : Backend) (s : Supervisor) (step : Step) : Attempt × Supervisor × μ → Prop
  | failed (e : LaunchError) (w : μ) (plain : ∀ reason, e ≠ .configuration reason) :
    Attempted backend s step (.failed e, s, w)
  | started (p : ProcessId) (w : μ) (direct : step.managed = false) :
    Attempted backend s step (.started (.issued s.issued),
      (s.track (Task.new p (.file step.outFile) (.file step.errFile))).2, w)
  | submitted (scheduler : Scheduler) (p : ProcessId) (w : μ) (batch : step.managed = true)
    (owner : backend.scheduler? = some scheduler) : Attempted backend s step (.submitted scheduler p, s, w)

theorem attempted (m : Machine μ) (backend : Backend) (s : Supervisor) (step : Step) (w : μ) :
    Attempted backend s step (attempt m backend s step w) := by
  have hmanaged := step.managed_eq_isSome_script?
  unfold attempt
  split
  · next hs =>
    rw [hs] at hmanaged
    unfold Supervisor.startTask
    cases hp : Supervisor.spawn m step.command step.cwd (.file step.outFile) (.file step.errFile) w with
    | mk result w' =>
      cases result with
      | error e => exact .failed e w' (Supervisor.spawn_error_plain step.command_ne_nil hp)
      | ok p => exact .started p w' hmanaged
  · next hs =>
    rw [hs] at hmanaged
    split
    · exact .failed _ _ nofun
    · split
      · exact .failed _ _ nofun
      · next howner =>
        split
        · next hp => exact .failed _ _ (Supervisor.spawn_error_plain step.command_ne_nil hp)
        · exact .submitted _ _ _ hmanaged howner

/-! ## The end of a launch -/

theorem complete_of_fits {step : Step} {id : StepIdentifier} (l : Launcher) (h : step.Fits id) :
    l.complete step id = (.ok id, { l with
      registry := { l.registry.release step.name with
        entries := l.registry.entries.insert step.name (step.entry id) }
      reporter := l.reporter.stepLaunched l.backend.name step.name step.kind.text id }) := by
  have hmake : Entry.make step.name id.stepId? id.taskId? step.managed = .ok (step.entry id) := by
    cases id with
    | scheduler job =>
      have hm : step.managed = true := h
      simp [Entry.make, Step.entry, StepIdentifier.stepId?, StepIdentifier.taskId?, hm]
    | task t =>
      have hm : step.managed = false := h
      simp [Entry.make, Step.entry, StepIdentifier.stepId?, StepIdentifier.taskId?, hm]
  unfold complete
  rw [Registry.commit_of_make hmake]

theorem complete_cases (l : Launcher) (step : Step) (id : StepIdentifier) :
    (∃ reporter, l.complete step id = (.ok id, { l with
      registry := { l.registry.release step.name with
        entries := l.registry.entries.insert step.name (step.entry id) }
      reporter })) ∨
    ∃ e, l.complete step id = (.error e, { l with registry := l.registry.release step.name }) := by
  cases hmake : Entry.make step.name id.stepId? id.taskId? step.managed with
  | ok e =>
    obtain rfl : e = step.entry id := Entry.make_ok hmake
    left
    unfold complete
    rw [Registry.commit_of_make hmake]
    exact ⟨_, rfl⟩
  | error err =>
    right
    unfold complete
    rw [Registry.commit_of_make_error hmake]
    exact ⟨err, rfl⟩

/-- All that a launch can come to when it goes on. -/
inductive Resumed (l : Launcher) (r : Run) : RunProgress × Launcher → Prop
  | waits (stage : RunStage) : Resumed l r (.waiting { r with stage }, l)
  | fails (reporter : Reporter) (e : LaunchError) (plain : ∀ reason, e ≠ .configuration reason) :
    Resumed l r (ended ({ l with reporter }.abandon r.step e))
  | succeeds (reporter : Reporter) (id : String) :
    Resumed l r (ended ({ l with reporter }.complete r.step (.scheduler id)))

theorem resumed_search (l : Launcher) (r : Run) (looked : Nat) :
    Resumed l r (l.search r.step r.scheduler looked) := by
  unfold search
  dsimp only
  split
  · exact .waits _
  · exact .fails _ _ nofun

theorem resumed (l : Launcher) (r : Run) (reply : Reply) : Resumed l r (l.resumeRun r reply) := by
  unfold resumeRun
  split
  · unfold submitted
    dsimp only
    split
    · split
      · exact .succeeds l.reporter _
      · exact resumed_search l r 0
    · exact .fails _ _ nofun
  · exact .fails l.reporter _ nofun
  · exact .waits _
  · unfold listed
    split
    · split
      · exact .succeeds _ _
      · exact resumed_search l r _
    · exact resumed_search l r _
  · exact .waits r.stage

end Launcher

end JobLaunch
