import JobLaunch.Launcher.Poll

/-!
# Stopping a step

A stop looks its step up. The job of a managed step is cancelled, which may fail without harm, and
polled a last time; the process of an unmanaged one is killed. The step is then taken out of the
registry and reported as cancelled.

* `Stop` — a stop that waits.
* `Launcher.beginStop`, `Launcher.resumeStop` — its start, and how it goes on after a wait.
-/

namespace JobLaunch

inductive StopStage where
  | cancelling (command : Command)
  /-- The last poll of a job. -/
  | polling (poll : Poll)
  deriving DecidableEq, Inhabited

structure Stop where
  name : String
  /-- What was registered when the stop began. -/
  entry : Entry
  stage : StopStage
  deriving DecidableEq, Inhabited

namespace Launcher

/-- How far a stop has come. -/
abbrev StopProgress := Progress Stop (Except LaunchError Snapshot)

def stopWait (l : Launcher) (s : Stop) : Wait :=
  match s.stage with
  | .cancelling command => .command command
  | .polling p => l.pollWait p

def finishStop (l : Launcher) (name : String) (e : Entry) (last : Snapshot) :
    StopProgress × Launcher :=
  (.done (.ok { last with status := .cancelled }),
    { l with
      registry := l.registry.remove name
      reporter := l.reporter.stepCancelled l.backend.name name e.managed })

def finishPolled (l : Launcher) (name : String) (e : Entry) (reports : List Report) :
    StopProgress × Launcher :=
  l.finishStop name e ((reports.getLast?.map (·.2)).getD Snapshot.unknown)

def stopPolling (name : String) (e : Entry) : PollProgress × Launcher → StopProgress × Launcher
  | (.done reports, l) => l.finishPolled name e reports
  | (.waiting p, l) => (.waiting ⟨name, e, .polling p⟩, l)

variable {μ : Type}

/-- A stop once its job is cancelled, if there was one to cancel. -/
def takeDown (m : Machine μ) (l : Launcher) (name : String) (e : Entry) (w : μ) :
    StopProgress × Launcher × μ :=
  let (seen, l, w) := dropTask m l e w
  if e.managed then
    let (p, l) := stopPolling name e (l.beginPoll [name])
    (p, l, w)
  else
    let fresh := (seen.map (·.ofStep)).getD Snapshot.unknown
    let (last, registry) := l.registry.observe name fresh
    let (p, l) := { l with registry }.finishStop name e last
    (p, l, w)

def cancelCommand? (l : Launcher) (e : Entry) : Option Command :=
  if e.managed then
    l.backend.scheduler?.bind fun s => e.stepId.map s.cancelCommand
  else none

/-- Starts a stop; it fails if the name is not registered. -/
def beginStop (m : Machine μ) (l : Launcher) (name : String) (w : μ) :
    StopProgress × Launcher × μ :=
  match l.registry.get? name with
  | none => (.done (.error (.unknownStep name)), l, w)
  | some e =>
    match l.cancelCommand? e with
    | some command => (.waiting ⟨name, e, .cancelling command⟩, l, w)
    | none => takeDown m l name e w

def noteCancel (l : Launcher) (name : String) (answer : Except String CommandOutput) : Launcher :=
  let failed (detail : String) : Launcher :=
    { l with reporter := l.reporter.note (·.cancelFailed l.backend.name name detail) }
  match answer with
  | .ok output => if output.succeeded then l else failed (Text.trimmed output.stderr)
  | .error message => failed message

/-- How a stop goes on after a wait; a reply to another kind of wait changes nothing. -/
def resumeStop (m : Machine μ) (l : Launcher) (s : Stop) (reply : Reply) (w : μ) :
    StopProgress × Launcher × μ :=
  match s.stage with
  | .cancelling _ =>
    match reply with
    | .answered answer => takeDown m (l.noteCancel s.name answer) s.name s.entry w
    | _ => (.waiting s, l, w)
  | .polling p =>
    let (p, l) := stopPolling s.name s.entry (l.resumePoll p reply)
    (p, l, w)

end Launcher

end JobLaunch
