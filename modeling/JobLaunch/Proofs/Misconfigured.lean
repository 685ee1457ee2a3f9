import JobLaunch.Proofs.Acceptance
import JobLaunch.Proofs.AllOrNothing

/-!
# What a misconfigured launch touches

A launch may fail because the caller asked for something that cannot be.

* `Machine.logging` : a machine that keeps a list of what it is asked to do; `Launcher.operations` : what a launch asks;
* `Launcher.misconfigured_cases` : the two ways in which a launch can fail for such a reason;
* `Launcher.Ends.begins_misconfigured` : it fails where it begins;
* `Launcher.misconfigured_untouched_iff` : when it has touched nothing.
-/

namespace JobLaunch

variable {μ : Type}

/-! ## What a machine is asked to do -/

def Machine.logging (m : Machine μ) : Machine (μ × List Operation) where
  writeFile path text w :=
    ((m.writeFile path text w.1).1, (m.writeFile path text w.1).2, w.2 ++ [.write path text])
  spawn p w := ((m.spawn p w.1).1, (m.spawn p w.1).2, w.2 ++ [.spawn p])
  kill p w := (m.kill p w.1, w.2 ++ [.kill p])

/-- A machine that only keeps files. -/
def Machine.files : Machine (Dict String) where
  writeFile path text w := (.ok (), w.insert path text)
  spawn _ w := (.error .notFound, w)
  kill _ w := w

/-! ## Misconfigured launches -/

/-- The caller asked for something that cannot be. -/
def LaunchError.Misconfigured (e : LaunchError) : Prop := e.category = .configuration

namespace Supervisor

theorem spawn_wellConfigured {m : Machine μ} {words : List String} {cwd : String} {out err : Sink} {w w' : μ}
    {e : LaunchError} (hwords : words ≠ []) (h : spawn m words cwd out err w = (.error e, w')) : ¬ e.Misconfigured := by
  rcases spawn_error hwords h with ⟨path, source, rfl⟩ | ⟨command, source, rfl⟩ <;> nofun

end Supervisor

namespace Launcher

variable {m : Machine μ} {backend : Backend} {s s' : Supervisor} {step : Step} {w w' : μ} {e : LaunchError}

/-- An attempt is misconfigured only if there is no scheduler for a batch step, whose script has been written. -/
theorem attempt_misconfigured (h : attempt m backend s step w = (.failed e, s', w')) (misconfigured : e.Misconfigured) :
    Stranded m backend step w ∧ e = .unsupportedSettings backend.name step.settingsKind := by
  unfold attempt at h
  split at h
  · unfold Supervisor.startTask at h
    cases hp : Supervisor.spawn m step.command step.cwd (.file step.outFile) (.file step.errFile) w with
    | mk result w₁ =>
      rw [hp] at h
      cases result with
      | error err =>
        cases h
        exact absurd misconfigured (Supervisor.spawn_wellConfigured step.command_ne_nil hp)
      | ok p => cases h
  · next script hscript =>
    split at h
    · cases h
      cases misconfigured
    · next w₁ hwritten =>
      split at h
      · next unscheduled =>
        cases h
        exact ⟨⟨unscheduled, script, hscript, by rw [hwritten]⟩, rfl⟩
      · split at h
        · next hp =>
          cases h
          exact absurd misconfigured (Supervisor.spawn_wellConfigured step.command_ne_nil hp)
        · cases h

theorem attempt_of_stranded {script : Step.Script} (unscheduled : backend.scheduler? = none)
    (batch : step.script? = some script) (written : (m.writeFile step.scriptFile script.text w).1 = .ok ()) :
    attempt m backend s step w = (.failed (.unsupportedSettings backend.name step.settingsKind), s,
      (m.writeFile step.scriptFile script.text w).2) := by
  unfold attempt
  rw [batch]
  dsimp only
  cases hw : m.writeFile step.scriptFile script.text w with
  | mk result w₁ =>
    rw [hw] at written
    obtain rfl : result = .ok () := written
    dsimp only
    rw [unscheduled]

variable {l l' : Launcher}

/-- What a launch asks of the machine when it begins. -/
def operations (m : Machine μ) (l : Launcher) (step : Step) (w : μ) : List Operation :=
  (beginRun m.logging l step (w, [])).2.2.2

/-- **The two ways in which a launch is misconfigured:** its name is taken, and nothing is asked of the machine; or it
is a batch step without a scheduler, and its script is written. -/
theorem misconfigured_cases (failed : (beginRun m l step w).1 = .done (.error e)) (misconfigured : e.Misconfigured) :
    (e = .duplicateStep step.name ∧ l.operations m step w = [] ∧ (beginRun m l step w).2 = (l, w)) ∨
      (e = .unsupportedSettings l.backend.name step.settingsKind ∧ l.backend.scheduler? = none ∧
        ∃ script, step.script? = some script ∧ l.operations m step w = [.write step.scriptFile script.text] ∧
          m.writeFile step.scriptFile script.text w = (.ok (), (beginRun m l step w).2.2)) := by
  cases held : l.registry.reserve step.name with
  | error err =>
    obtain ⟨taken, -⟩ := Registry.reserve_eq_error held
    rw [beginRun_of_taken m w taken] at failed ⊢
    cases failed
    exact .inl ⟨rfl, by rw [operations, beginRun_of_taken m.logging _ taken], rfl⟩
  | ok registry =>
    rw [beginRun_eq m w held] at failed ⊢
    generalize hattempt : attempt m l.backend l.supervisor.start step w = a at failed ⊢
    obtain ⟨a, s', w'⟩ := a
    cases a with
    | failed err =>
      cases failed
      obtain ⟨stranded, rfl⟩ := attempt_misconfigured hattempt misconfigured
      obtain ⟨unscheduled, script, batch, written⟩ := stranded
      refine .inr ⟨rfl, unscheduled, script, batch, ?_, ?_⟩
      · rw [operations, beginRun_eq m.logging _ held,
          attempt_of_stranded unscheduled batch (show (m.logging.writeFile _ _ (w, [])).1 = .ok () from written)]
        rfl
      · rw [attempt_of_stranded unscheduled batch written] at hattempt
        cases hattempt
        exact Prod.ext written rfl
    | started task =>
      have hall := attempted m l.backend l.supervisor.start step w
      rw [hattempt] at hall
      cases hall with
      | started p w' direct =>
        replace failed := Progress.done.inj failed
        rw [complete_of_fits _ (show step.Fits (.task _) from direct)] at failed
        cases failed
    | submitted scheduler p => cases failed

theorem search_wellConfigured {scheduler : Scheduler} {looked : Nat}
    (failed : (l.search step scheduler looked).1 = .done (.error e)) : ¬ e.Misconfigured := by
  unfold search at failed
  dsimp only at failed
  split at failed
  · cases failed
  · cases failed
    nofun

theorem complete_ne_error (batch : step.managed = true) (job : String) :
    (l.complete step (.scheduler job)).1 ≠ .error e := by
  rw [complete_of_fits l (show step.Fits (.scheduler job) from batch)]
  nofun

theorem resumeRun_wellConfigured {r : Run} {reply : Reply} (batch : r.step.managed = true)
    (failed : (l.resumeRun r reply).1 = .done (.error e)) : ¬ e.Misconfigured := by
  unfold resumeRun at failed
  split at failed
  · unfold submitted at failed
    dsimp only at failed
    split at failed
    · split at failed
      · exact absurd (Progress.done.inj failed) (complete_ne_error batch _)
      · exact search_wellConfigured failed
    · cases failed
      nofun
  · cases failed
    nofun
  · cases failed
  · unfold listed at failed
    split at failed
    · split at failed
      · exact absurd (Progress.done.inj failed) (complete_ne_error batch _)
      · exact search_wellConfigured failed
    · exact search_wellConfigured failed
  · cases failed

theorem Ends.of_done {a b : Answer} {ws : List Watch} (h : Ends m (.done a, l, w) ws b l') : b = a ∧ ws = [] := by
  cases h
  exact ⟨rfl, rfl⟩

theorem Ends.wellConfigured {r : Run} {ws : List Watch} (batch : r.step.managed = true)
    (h : Ends m (.waiting (.run r), l, w) ws (.launched (.error e)) l') : ¬ e.Misconfigured := by
  generalize hs : ((.waiting (.run r), l, w) : CallProgress × Launcher × μ) = start at h
  generalize ha : Answer.launched (.error e) = a at h
  induction h generalizing r l w with
  | done a l₁ w₁ => cases hs
  | @waits call l₁ l₂ w₁ w₂ us vs reply a rest ih =>
    cases hs
    have hcases := resumed (l₁.watchAll us) r reply
    have hnext : resumeCall m (l₁.watchAll us) (.run r) reply w₂ =
        (((l₁.watchAll us).resumeRun r reply).1.map .run .launched, ((l₁.watchAll us).resumeRun r reply).2, w₂) := rfl
    rw [hnext] at rest ih
    have hfailed := @resumeRun_wellConfigured e (l₁.watchAll us) r reply batch
    generalize (l₁.watchAll us).resumeRun r reply = next at hcases rest ih hfailed
    cases hcases with
    | waits stage => exact ih (r := { r with stage }) batch rfl ha
    | fails reporter err plain =>
      obtain ⟨hanswer, -⟩ := rest.of_done
      cases ha.trans hanswer
      exact hfailed rfl
    | succeeds reporter job =>
      obtain ⟨hanswer, -⟩ := rest.of_done
      exact hfailed (congrArg Progress.done (Answer.launched.inj (ha.trans hanswer)).symm)

/-- **A misconfigured launch fails where it begins.** -/
theorem Ends.begins_misconfigured {ws : List Watch} (h : Ends m (beginCall m l (.run step) w) ws (.launched (.error e)) l')
    (misconfigured : e.Misconfigured) : (beginRun m l step w).1 = .done (.error e) ∧ ws = [] := by
  have hcourse := course_begin m l step w
  cases hbegin : beginCall m l (.run step) w with
  | mk p next =>
    obtain ⟨l₁, w₁⟩ := next
    rw [hbegin] at h hcourse
    cases hcourse with
    | waits r _ same batch held tasks =>
      exact absurd misconfigured (h.wellConfigured (by rw [same]; exact batch))
    | launched id _ launched =>
      obtain ⟨hanswer, -⟩ := h.of_done
      cases hanswer
    | refused err _ refused =>
      obtain ⟨hanswer, rfl⟩ := h.of_done
      cases hanswer
      have hdone : (beginRun m l step w).1.map Call.run Answer.launched = .done (.launched (.error e)) :=
        congrArg (·.1) hbegin
      cases hp : (beginRun m l step w).1 with
      | waiting r =>
        rw [hp] at hdone
        cases hdone
      | done result =>
        rw [hp] at hdone
        cases hdone
        exact ⟨rfl, rfl⟩

/-! ## The result -/

/-- **A misconfigured launch has touched nothing exactly if its name was taken.** Otherwise it is a batch step on a
backend without a scheduler, which is found out when its script has been written already. -/
theorem misconfigured_untouched_iff {ws : List Watch}
    (h : Ends m (beginCall m l (.run step) w) ws (.launched (.error e)) l') (misconfigured : e.category = .configuration) :
    (l.operations m step w = [] ↔ e = .duplicateStep step.name) ∧
    (e = .duplicateStep step.name → (beginRun m l step w).2 = (l, w)) ∧
    (e ≠ .duplicateStep step.name → e = .unsupportedSettings l.backend.name step.settingsKind ∧
      l.backend.scheduler? = none ∧ ∃ script, step.script? = some script ∧
        l.operations m step w = [.write step.scriptFile script.text] ∧
        m.writeFile step.scriptFile script.text w = (.ok (), (beginRun m l step w).2.2)) := by
  obtain ⟨failed, -⟩ := h.begins_misconfigured misconfigured
  rcases misconfigured_cases failed misconfigured with ⟨duplicate, untouched, same⟩ |
    ⟨unsupported, unscheduled, script, batch, written, after⟩
  · exact ⟨iff_of_true untouched duplicate, fun _ => same, fun other => absurd duplicate other⟩
  · have other : e ≠ .duplicateStep step.name := by
      rw [unsupported]
      nofun
    refine ⟨iff_of_false ?_ other, fun duplicate => absurd duplicate other,
      fun _ => ⟨unsupported, unscheduled, script, batch, written, after⟩⟩
    rw [written]
    exact List.cons_ne_nil _ _

/-- The name of a direct step is being launched already, and the machine is asked for nothing. -/
theorem misconfigured_untouched_iff_taken :
    let l : Launcher := { backend := .localMachine, registry := { reserved := ["a"] } }
    let step : Step := ⟨"a", ".", false, .plain { exe := "true" }, rfl⟩
    (LaunchError.duplicateStep "a").category = .configuration ∧ l.operations Machine.files step ∅ = [] := by
  intro l step
  have ends : Ends Machine.files (beginCall Machine.files l (.run step) ∅) [] (.launched (.error (.duplicateStep "a")))
      l := .done _ _ _
  exact ⟨rfl, (misconfigured_untouched_iff ends rfl).1.2 rfl⟩

/-- On the local machine a batch step is declined for its settings, and a file that was there is gone. -/
theorem misconfigured_untouched_fails :
    let l : Launcher := .new .localMachine {} none
    let step : Step := ⟨"a", ".", true, .pbsBatch {} [], rfl⟩
    let before : Dict String := .ofList [("./a.sh", "mine\n")]
    let e : LaunchError := .unsupportedSettings "Local" .pbsBatch
    e.category = .configuration ∧
      (∃ l', Ends Machine.files (beginCall Machine.files l (.run step) before) [] (.launched (.error e)) l') ∧
      l.operations Machine.files step before ≠ [] ∧ before.get? "./a.sh" = some "mine\n" ∧
      (beginCall Machine.files l (.run step) before).2.2.get? "./a.sh" ≠ some "mine\n" := by
  intro l step before e
  refine ⟨rfl, ⟨_, .done _ _ _⟩, ?_, ?_, ?_⟩ <;> decide +kernel

end Launcher

end JobLaunch
