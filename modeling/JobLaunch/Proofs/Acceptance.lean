import JobLaunch.Proofs.Launch
import JobLaunch.Proofs.Members

/-!
# What a backend launches

Steps are made by a dispatch over the kinds of settings. A launch has no such dispatch: it asks its backend for nothing
but a scheduler.

* `Backend.Rejects` : a kind of settings that no step is made from;
* `Machine.noting` : a machine that notes what it is asked to start; `Launcher.Noted` : what it notes of an attempt;
* `Launcher.Declines`, `Launcher.FailsWith`, `Launcher.Tries` : the ways in which a launch can go at first;
* `Launcher.declines_iff` : when a launch declines a step.
-/

namespace JobLaunch

/-! ## Kinds of settings -/

theorem Settings.exists_kind (kind : Settings.Kind) : ∃ settings : Settings, settings.kind = kind := by
  cases kind with
  | pbsBatch => exact ⟨.pbsBatch default, rfl⟩
  | gridBatch => exact ⟨.gridBatch default, rfl⟩
  | aprun => exact ⟨.aprun default, rfl⟩
  | mpirun => exact ⟨.mpirun default, rfl⟩
  | plain => exact ⟨.plain default, rfl⟩

namespace Backend

/-- No step is made from settings of a kind. -/
def Rejects (b : Backend) (kind : Settings.Kind) : Prop :=
  ∀ name cwd settings, settings.kind = kind → b.createStep name cwd settings = .error (.unsupportedSettings b.name kind)

theorem rejects_iff {b : Backend} {kind : Settings.Kind} : b.Rejects kind ↔ b.accepts kind = false := by
  constructor
  · intro h
    obtain ⟨settings, rfl⟩ := Settings.exists_kind kind
    have hcreate := h "" "" settings rfl
    unfold createStep at hcreate
    split at hcreate
    · obtain ⟨reason, hreason⟩ := Step.create_error hcreate
      cases hreason
    · next haccepts => exact Bool.eq_false_iff.2 haccepts
  · rintro h name cwd settings rfl
    rw [createStep, h, if_neg Bool.false_ne_true]

end Backend

/-! ## Noting what is started -/

variable {μ : Type}

/-- The machine, which also notes the processes that it is asked to start. -/
def Machine.noting (m : Machine μ) : Machine (μ × List Spawn) where
  writeFile path text w := ((m.writeFile path text w.1).1, (m.writeFile path text w.1).2, w.2)
  spawn p w := ((m.spawn p w.1).1, (m.spawn p w.1).2, w.2 ++ [p])
  kill p w := (m.kill p w.1, w.2)

variable {m : Machine μ}

theorem Supervisor.openSink_noting (m : Machine μ) (sink : Sink) (w : μ) (ps : List Spawn) :
    openSink m.noting sink (w, ps) = ((openSink m sink w).1, (openSink m sink w).2, ps) := by
  cases sink with
  | file path =>
    unfold openSink Machine.noting
    dsimp only
    rcases m.writeFile path "" w with ⟨_ | _, _⟩ <;> rfl
  | capture => rfl
  | discard => rfl

/-- **What is noted of a start.** The output files cannot be made, and nothing is started; or one process is. -/
theorem Supervisor.spawn_noting (m : Machine μ) {words : List String} (hwords : words ≠ []) (cwd : String)
    (out err : Sink) (w : μ) (ps : List Spawn) :
    (∃ path source w', spawn m words cwd out err w = (.error (.file path source), w') ∧
      spawn m.noting words cwd out err (w, ps) = (.error (.file path source), w', ps)) ∨
    ∃ p r w', p.program :: p.args = words ∧ p.cwd = cwd ∧ spawn m words cwd out err w = (r, w') ∧
      spawn m.noting words cwd out err (w, ps) = (r, w', ps ++ [p]) := by
  obtain ⟨program, args, rfl⟩ := List.exists_cons_of_ne_nil hwords
  unfold spawn
  dsimp only
  rw [openSink_noting]
  cases hout : openSink m out w with
  | mk result w₁ =>
    cases result with
    | error e =>
      obtain ⟨path, source, rfl⟩ := openSink_error hout
      exact .inl ⟨path, source, w₁, rfl, rfl⟩
    | ok _ =>
      dsimp only
      rw [openSink_noting]
      cases herr : openSink m err w₁ with
      | mk result w₂ =>
        cases result with
        | error e =>
          obtain ⟨path, source, rfl⟩ := openSink_error herr
          exact .inl ⟨path, source, w₂, rfl, rfl⟩
        | ok _ =>
          right
          refine ⟨⟨program, args, cwd, out, err⟩, ?_⟩
          dsimp only [Machine.noting]
          rcases m.spawn ⟨program, args, cwd, out, err⟩ w₂ with ⟨_ | _, w₃⟩ <;> exact ⟨_, w₃, rfl, rfl, rfl, rfl⟩

namespace Launcher

/-- A batch step whose script could be written has no scheduler that it could be submitted to. -/
def Stranded (m : Machine μ) (backend : Backend) (step : Step) (w : μ) : Prop :=
  backend.scheduler? = none ∧
    ∃ script, step.script? = some script ∧ (m.writeFile step.scriptFile script.text w).1 = .ok ()

theorem rejects_of_stranded {backend : Backend} {step : Step} {w : μ} (h : Stranded m backend step w) :
    backend.Rejects step.settingsKind := by
  obtain ⟨unscheduled, script, batch, -⟩ := h
  rw [Backend.rejects_iff]
  cases backend with
  | scheduled s => cases unscheduled
  | localMachine =>
    unfold Step.script? at batch
    unfold Step.settingsKind
    cases hlaunch : step.launch with
    | pbsBatch b members => rfl
    | gridBatch b members => rfl
    | _ =>
      rw [hlaunch] at batch
      cases batch

inductive Noted (m : Machine μ) (backend : Backend) (step : Step) (w : μ) : Attempt → List Spawn → Prop
  | unwritable (path : String) (source : OsError) (unstranded : ¬ Stranded m backend step w) :
    Noted m backend step w (.failed (.file path source)) []
  | declined (stranded : Stranded m backend step w) :
    Noted m backend step w (.failed (.unsupportedSettings backend.name step.settingsKind)) []
  | tried (a : Attempt) (p : Spawn) (command : p.program :: p.args = step.command) (cwd : p.cwd = step.cwd)
    (unstranded : ¬ Stranded m backend step w) : Noted m backend step w a [p]

/-- **What is noted of an attempt** is one process at most, and the noting changes nothing else. -/
theorem attempt_noting (m : Machine μ) (backend : Backend) (s : Supervisor) (step : Step) (w : μ) (ps : List Spawn) :
    ∃ qs, Noted m backend step w (attempt m backend s step w).1 qs ∧
      attempt m.noting backend s step (w, ps) = ((attempt m backend s step w).1, (attempt m backend s step w).2.1,
        (attempt m backend s step w).2.2, ps ++ qs) := by
  unfold attempt
  -- along the attempt: a direct step is started, a batch step has its script written and is then submitted
  cases hscript : step.script? with
  | none =>
    have unstranded : ¬ Stranded m backend step w := by
      rintro ⟨-, script, batch, -⟩
      rw [hscript] at batch
      cases batch
    dsimp only [Supervisor.startTask]
    rcases Supervisor.spawn_noting m step.command_ne_nil step.cwd (.file step.outFile) (.file step.errFile) w ps with
      ⟨path, source, w', hspawn, hnoting⟩ | ⟨p, r, w', hcommand, hcwd, hspawn, hnoting⟩
    · rw [hspawn, hnoting]
      exact ⟨[], .unwritable path source unstranded, by rw [List.append_nil]⟩
    · rw [hspawn, hnoting]
      cases r <;> exact ⟨[p], .tried _ p hcommand hcwd unstranded, rfl⟩
  | some script =>
    have hwrite : m.noting.writeFile step.scriptFile script.text (w, ps) =
        ((m.writeFile step.scriptFile script.text w).1, (m.writeFile step.scriptFile script.text w).2, ps) := rfl
    dsimp only
    rw [hwrite]
    cases hwritten : m.writeFile step.scriptFile script.text w with
    | mk result w₁ =>
      cases result with
      | error e =>
        refine ⟨[], .unwritable _ e ?_, by rw [List.append_nil]⟩
        rintro ⟨-, other, batch, written⟩
        obtain rfl := Option.some.inj (hscript.symm.trans batch)
        rw [hwritten] at written
        cases written
      | ok _ =>
        dsimp only
        cases owner : backend.scheduler? with
        | none => exact ⟨[], .declined ⟨owner, script, hscript, by rw [hwritten]⟩, by rw [List.append_nil]⟩
        | some scheduler =>
          have unstranded : ¬ Stranded m backend step w := by
            rintro ⟨unscheduled, -⟩
            rw [owner] at unscheduled
            cases unscheduled
          dsimp only
          rcases Supervisor.spawn_noting m step.command_ne_nil step.cwd .capture .capture w₁ ps with
            ⟨path, source, w', hspawn, hnoting⟩ | ⟨p, r, w', hcommand, hcwd, hspawn, hnoting⟩
          · rw [hspawn, hnoting]
            exact ⟨[], .unwritable path source unstranded, by rw [List.append_nil]⟩
          · rw [hspawn, hnoting]
            cases r <;> exact ⟨[p], .tried _ p hcommand hcwd unstranded, rfl⟩

/-! ## The start of a launch -/

/-- The processes that a launch asks the machine to start when it begins. -/
def spawned (m : Machine μ) (l : Launcher) (step : Step) (w : μ) : List Spawn :=
  (beginRun m.noting l step (w, [])).2.2.2

/-- A launch fails where it begins; it has started no process and registers nothing. -/
structure FailsWith (m : Machine μ) (l : Launcher) (step : Step) (w : μ) (e : LaunchError) : Prop where
  answer : (beginRun m l step w).1 = .done (.error e)
  registry : (beginRun m l step w).2.1.registry = l.registry
  spawned : l.spawned m step w = []

def Declines (m : Machine μ) (l : Launcher) (step : Step) (w : μ) : Prop :=
  FailsWith m l step w (.unsupportedSettings l.backend.name step.settingsKind)

/-- A launch asks the machine to start the command of its step. -/
def Tries (m : Machine μ) (l : Launcher) (step : Step) (w : μ) : Prop :=
  ∃ p, l.spawned m step w = [p] ∧ p.program :: p.args = step.command ∧ p.cwd = step.cwd

variable {l : Launcher} {step : Step} {held : Registry} {w : μ}

theorem noted_spawned (m : Machine μ) (free : l.registry.reserve step.name = .ok held) (w : μ) :
    Noted m l.backend step w (attempt m l.backend l.supervisor.start step w).1 (l.spawned m step w) := by
  obtain ⟨ps, hnoted, hnoting⟩ := attempt_noting m l.backend l.supervisor.start step w []
  have hspawned : l.spawned m step w = ps := by
    unfold spawned
    rw [beginRun_eq m.noting _ free, hnoting]
    rfl
  rwa [hspawned]

theorem failsWith_of_failed {e : LaunchError} (free : l.registry.reserve step.name = .ok held)
    (failed : (attempt m l.backend l.supervisor.start step w).1 = .failed e) (idle : l.spawned m step w = []) :
    FailsWith m l step w e := by
  have hbegin := beginRun_eq m w free
  dsimp only at hbegin
  rw [failed] at hbegin
  refine ⟨?_, ?_, idle⟩
  · rw [hbegin]
    rfl
  · rw [hbegin]
    exact Registry.release_reserve free

theorem FailsWith.unique {e e' : LaunchError} (h : FailsWith m l step w e) (h' : FailsWith m l step w e') : e = e' := by
  have hanswer := h.answer.symm.trans h'.answer
  cases hanswer
  rfl

/-- **A launch declines a step exactly if it is stranded,** and the settings of such a step are rejected. Any other
launch fails on a file or tries the command of its step, whether the backend rejects the settings or not. -/
theorem declines_iff (m : Machine μ) (free : l.registry.reserve step.name = .ok held) (w : μ) :
    (Declines m l step w ↔ l.backend.Rejects step.settingsKind ∧ Stranded m l.backend step w) ∧
    (¬ Declines m l step w → (∃ path source, FailsWith m l step w (.file path source)) ∨ Tries m l step w) := by
  have hnoted := noted_spawned m free w
  generalize hattempt : (attempt m l.backend l.supervisor.start step w).1 = a at hnoted
  generalize hspawned : l.spawned m step w = ps at hnoted
  cases hnoted with
  | unwritable path source unstranded =>
    have hfails := failsWith_of_failed free hattempt hspawned
    refine ⟨iff_of_false (fun declines => ?_) fun h => unstranded h.2, fun _ => .inl ⟨path, source, hfails⟩⟩
    cases hfails.unique declines
  | declined stranded =>
    have hdeclines : Declines m l step w := failsWith_of_failed free hattempt hspawned
    exact ⟨iff_of_true hdeclines ⟨rejects_of_stranded stranded, stranded⟩, fun h => absurd hdeclines h⟩
  | tried a p command cwd unstranded =>
    refine ⟨iff_of_false (fun declines => ?_) fun h => unstranded h.2, fun _ => .inr ⟨p, hspawned, command, cwd⟩⟩
    cases hspawned.symm.trans declines.spawned

/-- The local machine declines a batch step and starts a process that it rejects. -/
theorem declines_iff_local :
    let l : Launcher := .new .localMachine {} none
    let batch : Step := ⟨"a", "/", true, .pbsBatch {} [], rfl⟩
    let parallel : Step := ⟨"b", "/", false, .mpirun { exe := "x" }, rfl⟩
    Declines Machine.obliging l batch () ∧ l.backend.Rejects parallel.settingsKind ∧
      ¬ Declines Machine.obliging l parallel () := by
  intro l batch parallel
  have freeBatch : ∃ held, l.registry.reserve batch.name = .ok held := ⟨_, rfl⟩
  have freeParallel : ∃ held, l.registry.reserve parallel.name = .ok held := ⟨_, rfl⟩
  obtain ⟨_, freeBatch⟩ := freeBatch
  obtain ⟨_, freeParallel⟩ := freeParallel
  refine ⟨(declines_iff Machine.obliging freeBatch ()).1.2 ⟨Backend.rejects_iff.2 rfl, rfl, _, rfl, rfl⟩,
    Backend.rejects_iff.2 rfl, fun declines => ?_⟩
  obtain ⟨-, -, script, hscript, -⟩ := (declines_iff Machine.obliging freeParallel ()).1.1 declines
  cases hscript

/-- PBS is given the job of a step for Grid Engine, which it rejects, and the job is registered. -/
theorem declines_fails :
    let l : Launcher := .new (.scheduled (.pbs {})) {} none
    let step : Step := ⟨"a", "/", true, .gridBatch {} [], rfl⟩
    l.registry.get? "a" = none ∧ l.backend.Rejects step.settingsKind ∧ ¬ Declines Machine.obliging l step () ∧
      l.spawned Machine.obliging step () = [⟨"qsub", ["/a.sh"], "/", .capture, .capture⟩] ∧
      ∃ r l₁, beginRun Machine.obliging l step () = (.waiting r, l₁, ()) ∧
        (l₁.resumeRun r (.ended ⟨0, [52, 50, 10], []⟩)).1 = .done (.ok (.scheduler "42")) ∧
        (l₁.resumeRun r (.ended ⟨0, [52, 50, 10], []⟩)).2.registry.get? "a" = some ⟨some "42", none, true, none⟩ := by
  intro l step
  have hspawned : l.spawned Machine.obliging step () = [⟨"qsub", ["/a.sh"], "/", .capture, .capture⟩] := by
    decide +kernel
  refine ⟨rfl, Backend.rejects_iff.2 rfl, fun declines => ?_, hspawned, _, _, rfl, by rfl, by rfl⟩
  cases hspawned.symm.trans declines.spawned

end Launcher

end JobLaunch
