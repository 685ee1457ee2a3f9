import JobLaunch.Config
import JobLaunch.Machine
import JobLaunch.Reporter
import JobLaunch.Text.Utf8

/-!
# The task supervisor

The supervisor owns the processes that were started directly. A monitoring loop scans them: the
first scan that finds a process ended records its exit and reports it. Captured output is stored
later, once the pipes have been read to their ends.

* `Task`, `TaskSnapshot` — a supervised process, and what can be seen of it.
* `Supervisor` — the tasks and the monitoring loops.
* `Supervisor.startTask`, `Supervisor.scan`, `Supervisor.drain`, `Supervisor.removeTask`.
* `Supervisor.start`, `Supervisor.beginShutdown`, `Supervisor.finishShutdown` — the loops.
-/

namespace JobLaunch

/-- How far the reading of captured output has come. -/
inductive Drain where
  /-- Nothing is captured, or all of it is stored. -/
  | idle
  /-- The pipes are being read while the process runs. -/
  | reading
  /-- The process has ended, and the output is to be stored. -/
  | pending
  deriving DecidableEq, Inhabited

/-- A supervised process. -/
structure Task where
  process : ProcessId
  /-- Has a scan seen it end? -/
  exited : Bool := false
  capturesStdout : Bool
  capturesStderr : Bool
  drain : Drain
  status : Status := .running
  returnCode : Option Int := none
  stdout : Option String := none
  stderr : Option String := none
  deriving DecidableEq, Inhabited

structure TaskSnapshot where
  task : TaskId
  status : Status
  returnCode : Option Int
  stdout : Option String
  stderr : Option String
  finished : Bool
  deriving DecidableEq, Inhabited

namespace Task

def new (process : ProcessId) (stdout stderr : Sink) : Task :=
  let out := decide (stdout = .capture)
  let err := decide (stderr = .capture)
  { process, capturesStdout := out, capturesStderr := err,
    drain := if out || err then .reading else .idle }

def snapshot (t : Task) (id : TaskId) : TaskSnapshot :=
  ⟨id, t.status, t.returnCode, t.stdout, t.stderr, t.exited⟩

/-- The task after a scan has seen it end with a raw wait status. -/
def exit (t : Task) (raw : Int) : Task :=
  let code := exitCode? raw
  { t with
    exited := true
    status := (code.map Status.ofExitCode).getD .failed
    returnCode := code
    drain := if t.drain = .reading then .pending else t.drain }

/-- The task after its captured output has been read to the end. -/
def drained (t : Task) (out err : List UInt8) : Task :=
  if t.drain = .pending then
    { t with
      drain := .idle
      stdout := if t.capturesStdout then some (Utf8.text out) else none
      stderr := if t.capturesStderr then some (Utf8.text err) else none }
  else t

end Task

/-- What asking after a process tells. -/
inductive Liveness where
  /-- It has ended with a raw wait status. -/
  | exited (raw : Int)
  | alive
  /-- The question could not be answered. -/
  | unclear
  deriving DecidableEq, Inhabited

structure MonitorLoop where
  cancelled : Bool := false
  ended : Bool := false
  deriving DecidableEq, Inhabited

/-- Tasks and monitoring loops. -/
structure Supervisor where
  config : SupervisorConfig := {}
  tasks : List (TaskId × Task) := []
  /-- How many task identifiers have been handed out. -/
  issued : Nat := 0
  loops : List MonitorLoop := []
  /-- The number of the loop that is in charge. -/
  current : Option Nat := none
  deriving DecidableEq, Inhabited

namespace Supervisor

/-! ## Monitoring loops -/

/-- Is the loop in charge still running? -/
def isMonitoring (s : Supervisor) : Bool :=
  (s.current.bind (s.loops[·]?)).any (!·.ended)

/-- Starts a monitoring loop unless one is in charge and runs. -/
def start (s : Supervisor) : Supervisor :=
  if s.isMonitoring then s
  else { s with loops := s.loops ++ [{}], current := some s.loops.length }

def endLoop (s : Supervisor) (i : Nat) : Supervisor :=
  { s with loops := s.loops.modify i fun l => { l with ended := true } }

/-- The first step of a shutdown: takes the loop out of charge and tells it to end. What the loop
does then is awaited before the second step, for a limited time. -/
def beginShutdown (s : Supervisor) : Option Nat × Supervisor :=
  match s.current with
  | some i =>
    (some i, { s with
      current := none
      loops := s.loops.modify i fun l => { l with cancelled := true } })
  | none => (none, s)

/-- The second step of a shutdown: tracks no task any more, and returns the processes to kill. -/
def finishShutdown (s : Supervisor) : List ProcessId × Supervisor :=
  ((s.tasks.filter (!·.2.exited)).map (·.2.process), { s with tasks := [] })

/-! ## Tasks -/

/-- The number of tracked tasks. -/
def taskCount (s : Supervisor) : Nat := s.tasks.length

def task? (s : Supervisor) (id : TaskId) : Option Task :=
  (s.tasks.find? (·.1 = id)).map (·.2)

/-- What can be seen of a tracked task. -/
def update? (s : Supervisor) (id : TaskId) : Option TaskSnapshot :=
  (s.task? id).map (·.snapshot id)

/-- Tracks a started process under an identifier. -/
def adopt (s : Supervisor) (id : TaskId) (t : Task) : Supervisor :=
  { s with tasks := s.tasks ++ [(id, t)] }

/-- Tracks a started process under a new identifier: the number of the draw stands for the UUID, as in `TaskId`. -/
def track (s : Supervisor) (t : Task) : TaskId × Supervisor :=
  (.issued s.issued, { s.adopt (.issued s.issued) t with issued := s.issued + 1 })

/-- Changes the task with an identifier. -/
def modifyTask (s : Supervisor) (id : TaskId) (f : Task → Task) : Supervisor :=
  { s with tasks := s.tasks.map fun e => if e.1 = id then (e.1, f e.2) else e }

/-- Stops tracking a task. Returns what could be seen of it, and its process if that has to be
killed because no scan has seen it end. -/
def removeTask (s : Supervisor) (id : TaskId) :
    Option TaskSnapshot × Option ProcessId × Supervisor :=
  match s.task? id with
  | some t =>
    (some (t.snapshot id), if t.exited then none else some t.process,
      { s with tasks := s.tasks.filter (·.1 ≠ id) })
  | none => (none, none, s)

/-- Stores the captured output of a task that has ended; an untracked one is not affected. -/
def drain (s : Supervisor) (id : TaskId) (out err : List UInt8) : Supervisor :=
  s.modifyTask id (·.drained out err)

/-- One question of a scan: records the exit of a task that was not known to have ended. -/
def ask (s : Supervisor) (id : TaskId) (answer : Liveness) : Supervisor × Option (TaskId × Task) :=
  match s.task? id, answer with
  | some t, .exited raw =>
    if t.exited then (s, none)
    else
      let t := t.exit raw
      (s.modifyTask id fun _ => t, some (id, t))
  | _, _ => (s, none)

/-- The questions of a scan in its order; returns the tasks that it has seen end. -/
def askAll (s : Supervisor) :
    List (TaskId × Liveness) → Supervisor × List (TaskId × Task)
  | [] => (s, [])
  | (id, answer) :: rest =>
    let (s, seen) := s.ask id answer
    let (s, more) := askAll s rest
    (s, seen.toList ++ more)

/-- A scan: asks after the tasks in some order, records the exits, then reports them. -/
def scan (s : Supervisor) (answers : List (TaskId × Liveness)) (r : Reporter) :
    Supervisor × Reporter :=
  let (s, seen) := s.askAll answers
  (s, seen.foldl (fun r e => r.taskExited e.1 e.2.status e.2.returnCode) r)

/-! ## Starting processes -/

def commandText (words : List String) : String := " ".intercalate words

variable {μ : Type}

/-- Creates the file of a sink. -/
def openSink (m : Machine μ) (sink : Sink) (w : μ) : Except LaunchError Unit × μ :=
  match sink with
  | .file path =>
    match m.writeFile path "" w with
    | (.ok _, w) => (.ok (), w)
    | (.error e, w) => (.error (.file path e), w)
  | .capture | .discard => (.ok (), w)

/-- Starts a process from its words: there must be one, and the output files are created first. -/
def spawn (m : Machine μ) (words : List String) (cwd : String) (stdout stderr : Sink) (w : μ) :
    Except LaunchError ProcessId × μ :=
  match words with
  | [] => (.error (.configuration "empty command"), w)
  | program :: args =>
    match openSink m stdout w with
    | (.error e, w) => (.error e, w)
    | (.ok _, w) =>
      match openSink m stderr w with
      | (.error e, w) => (.error e, w)
      | (.ok _, w) =>
        match m.spawn { program, args, cwd, stdout, stderr } w with
        | (.error e, w) => (.error (.spawn (commandText words) e), w)
        | (.ok p, w) => (.ok p, w)

/-- Starts a process and tracks it. -/
def startTask (m : Machine μ) (s : Supervisor) (words : List String) (cwd : String)
    (stdout stderr : Sink) (w : μ) : Except LaunchError TaskId × Supervisor × μ :=
  match spawn m words cwd stdout stderr w with
  | (.error e, w) => (.error e, s, w)
  | (.ok p, w) =>
    let (id, s) := s.track (Task.new p stdout stderr)
    (.ok id, s, w)

def inspect (s : Supervisor) : String :=
  Inspect.record "TaskSupervisor"
    [("config", s.config.inspect), ("tasks", Decimal.text s.taskCount),
      ("monitoring", Inspect.bool s.isMonitoring)]

end Supervisor

end JobLaunch
