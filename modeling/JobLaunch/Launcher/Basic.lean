import JobLaunch.Backend
import JobLaunch.Registry
import JobLaunch.Supervisor

/-!
# The launcher

A launcher makes steps for one backend, launches them, and follows them by name. The operations of
this module do not wait.

* `Launcher` — the backend, the registry of steps, the supervised tasks, and the reports.
* `Launcher.createStep`, `Launcher.nodes`, `Launcher.forget`.
* `Launcher.beginShutdown`, `Launcher.finishShutdown` — the two halves of a shutdown.
-/

namespace JobLaunch

structure Launcher where
  backend : Backend
  config : Config := {}
  registry : Registry := {}
  supervisor : Supervisor := {}
  reporter : Reporter := {}
  deriving DecidableEq, Inhabited

namespace Launcher

def new (backend : Backend) (config : Config) (bus : Option (EventBus StepEvent)) : Launcher :=
  { backend, config, supervisor := { config := config.supervisor }, reporter := { bus } }

def createStep (l : Launcher) (name cwd : String) (settings : Settings) :
    Except LaunchError Step :=
  l.backend.createStep name cwd settings

/-- The compute nodes of a registered step, which no backend can tell. -/
def nodes (l : Launcher) (name : String) : Except LaunchError (List String) :=
  if l.registry.contains name then .error (.unsupported l.backend.name "node enumeration")
  else .error (.unknownStep name)

variable {μ : Type}

def killAll (m : Machine μ) (ps : List ProcessId) (w : μ) : μ := ps.foldl (fun w p => m.kill p w) w

/-- Stops following the task of an entry, whose process is killed unless it is known to have
ended. Returns what could be seen of the task. -/
def dropTask (m : Machine μ) (l : Launcher) (e : Entry) (w : μ) :
    Option TaskSnapshot × Launcher × μ :=
  match e.taskId with
  | some id =>
    let (seen, process, supervisor) := l.supervisor.removeTask id
    (seen, { l with supervisor }, killAll m process.toList w)
  | none => (none, l, w)

/-- Takes a step out of the registry and stops following its task, without a word to the
scheduler. Returns what was registered. -/
def forget (m : Machine μ) (l : Launcher) (name : String) (w : μ) :
    Option Entry × Launcher × μ :=
  match l.registry.get? name with
  | some e =>
    let (_, l, w) := dropTask m { l with registry := l.registry.remove name } e w
    (some e, l, w)
  | none => (none, l, w)

/-- The first half of a shutdown: tells the monitoring loop in charge to end, and returns its
number. It is awaited before the second half, for a limited time. -/
def beginShutdown (l : Launcher) : Option Nat × Launcher :=
  let (awaited, supervisor) := l.supervisor.beginShutdown
  (awaited, { l with supervisor })

/-- The second half of a shutdown: kills every process that is still followed. -/
def finishShutdown (m : Machine μ) (l : Launcher) (w : μ) : Launcher × μ :=
  let (processes, supervisor) := l.supervisor.finishShutdown
  ({ l with supervisor }, killAll m processes w)

def inspect (l : Launcher) : String :=
  Inspect.record "Launcher"
    [("backend", Inspect.quoted l.backend.name), ("config", l.config.inspect),
      ("supervisor", l.supervisor.inspect), ("steps", Decimal.text l.registry.size),
      ("events", Inspect.bool l.reporter.bus.isSome)]

end Launcher

end JobLaunch
