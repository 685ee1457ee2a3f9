import JobLaunch.Launcher.Basic
import JobLaunch.Launcher.Wait

/-!
# Launching a step

A launch reserves the name of its step. A direct step is started as a task. The script of a batch
step is written and submitted; if the submission does not print the job id, the listings of the
scheduler are searched for the step's name, a fixed number of times with a fixed pause before each.
Then the step is registered and the launch reported. A launch that fails releases the name.

* `Run` — a launch that waits.
* `Launcher.beginRun`, `Launcher.resumeRun` — its start, and how it goes on after a wait.
-/

namespace JobLaunch

/-- What a launch of a batch step waits for. Listings are numbered from one. -/
inductive RunStage where
  | submitting (process : ProcessId)
  /-- The pause before a listing. -/
  | pausing (attempt : Nat)
  | listing (attempt : Nat)
  deriving DecidableEq, Inhabited

/-- A launch of a batch step that waits. -/
structure Run where
  step : Step
  scheduler : Scheduler
  stage : RunStage
  deriving DecidableEq, Inhabited

namespace Launcher

def runWait (l : Launcher) (r : Run) : Wait :=
  match r.stage with
  | .submitting p => .process p
  | .pausing _ => .pause l.config.idResolution.interval.toNat
  | .listing _ => .command r.scheduler.listingCommand

/-- A launch fails, and releases the name of its step. -/
def abandon (l : Launcher) (step : Step) (e : LaunchError) :
    Except LaunchError StepIdentifier × Launcher :=
  (.error e, { l with registry := l.registry.release step.name })

def complete (l : Launcher) (step : Step) (id : StepIdentifier) :
    Except LaunchError StepIdentifier × Launcher :=
  match l.registry.commit step.name id.stepId? id.taskId? step.managed with
  | (.error e, registry) => (.error e, { l with registry })
  | (.ok _, registry) =>
    (.ok id, { l with
      registry
      reporter := l.reporter.stepLaunched l.backend.name step.name step.kind.text id })

abbrev RunProgress := Progress Run (Except LaunchError StepIdentifier)

def ended (r : Except LaunchError StepIdentifier × Launcher) : RunProgress × Launcher :=
  (.done r.1, r.2)

/-- The search for a job id after so many listings without it. -/
def search (l : Launcher) (step : Step) (scheduler : Scheduler) (looked : Nat) :
    RunProgress × Launcher :=
  let attempts := l.config.idResolution.attempts.toNat
  if looked < attempts then (.waiting ⟨step, scheduler, .pausing (looked + 1)⟩, l)
  else
    ended ({ l with reporter := l.reporter.note (·.idResolution step.name attempts false) }.abandon
      step (.idUnresolved step.name attempts))

def listed (l : Launcher) (step : Step) (scheduler : Scheduler) (attempt : Nat)
    (answer : Except String CommandOutput) : RunProgress × Launcher :=
  match answer with
  | .ok output =>
    match scheduler.idOf? output step.name with
    | some id =>
      ended ({ l with reporter := l.reporter.note (·.idResolution step.name attempt true) }.complete
        step (.scheduler id))
    | none => l.search step scheduler attempt
  | .error _ => l.search step scheduler attempt

/-- The submission command has ended. -/
def submitted (l : Launcher) (step : Step) (scheduler : Scheduler) (exit : Exit) :
    RunProgress × Launcher :=
  let code := exitCode? exit.status
  let stdout := Utf8.text exit.stdout
  if code = some 0 then
    match scheduler.submittedId? stdout with
    | some id => ended (l.complete step (.scheduler id))
    | none => l.search step scheduler 0
  else
    ended ({ l with
        reporter := l.reporter.note (·.submissionFailed l.backend.name step.name code) }.abandon
      step (.submissionFailed (Supervisor.commandText step.command) code stdout
        (Utf8.text exit.stderr)))

/-- How a launch goes on after a wait; a reply to another kind of wait changes nothing. -/
def resumeRun (l : Launcher) (r : Run) (reply : Reply) : RunProgress × Launcher :=
  match r.stage, reply with
  | .submitting _, .ended exit => l.submitted r.step r.scheduler exit
  | .submitting _, .failed source =>
    ended (l.abandon r.step (.spawn (Supervisor.commandText r.step.command) source))
  | .pausing attempt, .paused => (.waiting { r with stage := .listing attempt }, l)
  | .listing attempt, .answered answer => l.listed r.step r.scheduler attempt answer
  | _, _ => (.waiting r, l)

/-! ## The start of a launch

The machine is given for each registry, so that it can tell what is reserved when something is asked of it. -/

variable {μ : Type}

def launchDirect (m : Registry → Machine μ) (l : Launcher) (step : Step) (w : μ) :
    RunProgress × Launcher × μ :=
  match l.supervisor.startTask (m l.registry) step.command step.cwd (.file step.outFile)
    (.file step.errFile) w with
  | (.error e, supervisor, w) =>
    let (p, l) := ended ({ l with supervisor }.abandon step e)
    (p, l, w)
  | (.ok id, supervisor, w) =>
    let (p, l) := ended ({ l with supervisor }.complete step (.task id))
    (p, l, w)

def launchBatch (m : Registry → Machine μ) (l : Launcher) (step : Step) (script : Step.Script)
    (w : μ) : RunProgress × Launcher × μ :=
  let fail (e : LaunchError) (w : μ) : RunProgress × Launcher × μ :=
    let (p, l) := ended (l.abandon step e)
    (p, l, w)
  match (m l.registry).writeFile step.scriptFile script.text w with
  | (.error e, w) => fail (.file step.scriptFile e) w
  | (.ok _, w) =>
    match l.backend.scheduler? with
    | none => fail (.unsupportedSettings l.backend.name step.settingsKind) w
    | some scheduler =>
      match Supervisor.spawn (m l.registry) step.command step.cwd .capture .capture w with
      | (.error e, w) => fail e w
      | (.ok p, w) => (.waiting ⟨step, scheduler, .submitting p⟩, l, w)

/-- Starts a launch; it fails at once if the name of the step is registered or reserved. -/
def beginRunOn (m : Registry → Machine μ) (l : Launcher) (step : Step) (w : μ) :
    RunProgress × Launcher × μ :=
  match l.registry.reserve step.name with
  | .error e => (.done (.error e), l, w)
  | .ok registry =>
    let l := { l with registry, supervisor := l.supervisor.start }
    match step.script? with
    | some script => launchBatch m l step script w
    | none => launchDirect m l step w

def beginRun (m : Machine μ) (l : Launcher) (step : Step) (w : μ) : RunProgress × Launcher × μ :=
  beginRunOn (fun _ => m) l step w

end Launcher

end JobLaunch
