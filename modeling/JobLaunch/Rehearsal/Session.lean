import JobLaunch.Launcher.Call
import JobLaunch.Rehearsal.Machine
import JobLaunch.Rehearsal.Replies

/-!
# Rehearsing a launcher

A session drives a launcher on a host. While something is awaited time passes, and the monitoring
loop looks after the tasks. Times are in microseconds.

What a launcher answers depends on programs: a submission prints an id, a task writes and ends, a
script runs its members. A rehearsal lets them be run from the request of a caller to the files that
are left. For that the host reads scripts as the usual shells do and knows the usual utilities, as
far as short scripts of steps need them. What is proved of a launcher holds on every `Machine`, so no
statement depends on the programs of a host; `Host.machine` is one machine among others, and what a
session does to its launcher are moves that every launcher makes (`Session.request_run`).

* `Session` — a launcher, its host, and how its waits are met.
* `Session.passUntil` — lets time pass.
* `Session.request`, `Session.runBoth` — calls on the launcher, to their ends.
* `Session.awaitTask`, `Session.awaitSteps` — wait for tasks and for steps.
-/

namespace JobLaunch.Rehearsal

/-- A launcher that is driven on a host. -/
structure Session where
  launcher : Launcher
  host : Host := Host.fresh
  /-- The answers to scheduler commands; without them the commands are run on the host. -/
  replies : Option Replies := none
  /-- The pauses so far, if pauses are only recorded; otherwise they take their time. -/
  pauses : Option (List Nat) := none
  nextScan : Option Nat := none
  deriving Inhabited

namespace Session

/-! ## Time -/

def microseconds (milliseconds : Nat) : Nat := milliseconds * 1000

/-- Stores the output of tasks that have ended and whose output is complete. -/
def drain (s : Session) : Session :=
  let supervisor := s.launcher.supervisor.tasks.foldl (fun (v : Supervisor) t =>
    match s.host.closed? t.2.process with
    | some exit => v.drain t.1 exit.stdout exit.stderr
    | none => v) s.launcher.supervisor
  { s with launcher := { s.launcher with supervisor } }

def advance (s : Session) (time : Nat) : Session := { s with host := s.host.goOn time }.drain

def liveness (h : Host) (t : JobLaunch.Task) : Liveness :=
  match h.ended? t.process with
  | some raw => .exited raw
  | none => .alive

/-- How long the recorded pauses are together, as a number of 64 bits. -/
def pauseTotal (s : Session) : UInt64 :=
  (s.pauses.getD []).foldl (fun total ms => total + ms.toUInt64) 0

def scanPause (s : Session) : Nat := microseconds s.launcher.config.supervisor.pause

def look (s : Session) (time : Nat) : Session :=
  let s := s.advance time
  let v := s.launcher.supervisor
  let (supervisor, reporter) :=
    v.scan (v.tasks.map fun t => (t.1, liveness s.host t.2)) s.launcher.reporter
  { s with
    launcher := { s.launcher with supervisor, reporter }
    nextScan := some (time + s.scanPause) }.drain

def passTo (s : Session) (time : Nat) : Session :=
  match s.nextScan with
  | some n => if n ≤ time then s.look n else s.advance time
  | none => s.advance time

def nextTime? (s : Session) : Option Nat :=
  match s.host.nextMove?, s.nextScan with
  | some a, some b => some (min a b)
  | a, b => a.or b

def noteLoop (s : Session) : Session :=
  if s.launcher.supervisor.isMonitoring then
    { s with nextScan := s.nextScan.or (some (s.host.now + s.scanPause)) }
  else { s with nextScan := none }

def longestWait : Nat := microseconds 100000

/-- Lets time pass until a look at the session gives something, but not longer than until a time.
Something happens at most so often. -/
def passWithin {α : Type} (f : Session → Option α × Session) (limit : Nat) :
    Nat → Session → Option α × Session
  | 0, s => f s
  | fuel + 1, s =>
    match f s with
    | (some a, s) => (some a, s)
    | (none, s) =>
      match s.nextTime? with
      | some time =>
        if limit < time then (none, s) else passWithin f limit fuel (s.passTo time)
      | none => (none, s)

/-- How often something happens at most while something is awaited. -/
def mostEvents : Nat := 100000000

def passUntil {α : Type} (f : Session → Option α × Session) (s : Session) : Option α × Session :=
  passWithin f (s.host.now + longestWait) mostEvents s

/-! ## Waiting -/

def awaitProcess (s : Session) (p : ProcessId) : Exit × Session :=
  let (exit, s) := passUntil (fun s => (s.host.closed? p, s)) s
  (exit.getD default, s)

def outputOf (exit : Exit) : CommandOutput :=
  ⟨exitCode? exit.status, Utf8.text exit.stdout, Utf8.text exit.stderr⟩

def startCommand (s : Session) (c : Command) : Except String ProcessId × Session :=
  match Host.spawn ⟨c.program, c.args, ".", .capture, .capture⟩ s.host with
  | (.error e, host) =>
    (.error ("failed to run \x60" ++ c.text ++ "\x60: " ++ e.text), { s with host })
  | (.ok p, host) => (.ok p, { s with host })

def runCommand (s : Session) (c : Command) : Except String CommandOutput × Session :=
  match s.startCommand c with
  | (.error text, s) => (.error text, s)
  | (.ok p, s) =>
    let (exit, s) := s.awaitProcess p
    (.ok (outputOf exit), s)

/-- What a wait is for on the host. -/
inductive Pending where
  | time (t : Nat)
  | command (p : ProcessId)
  | process (p : ProcessId)
  deriving DecidableEq, Inhabited

def beginWait (s : Session) : Wait → (Reply ⊕ Pending) × Session
  | .pause ms =>
    match s.pauses with
    | some ps => (.inl .paused, { s with pauses := some (ps ++ [ms]) })
    | none =>
      if ms = 0 then (.inl .paused, s)
      else (.inr (.time (s.host.now + microseconds ms)), s)
  | .command c =>
    match s.replies with
    | some r =>
      let (a, r) := r.answer c
      (.inl (.answered a), { s with replies := some r })
    | none =>
      match s.startCommand c with
      | (.error text, s) => (.inl (.answered (.error text)), s)
      | (.ok p, s) => (.inr (.command p), s)
  | .process p => (.inr (.process p), s)

def met? (s : Session) : Pending → Option Reply
  | .time t => if t ≤ s.host.now then some .paused else none
  | .command p => (s.host.closed? p).map fun exit => .answered (.ok (outputOf exit))
  | .process p => (s.host.closed? p).map .ended

/-! ## Calls -/

/-- A call that is under way. -/
inductive Ongoing where
  | done (answer : Answer)
  | waiting (call : JobLaunch.Call) (pending : Pending)

/-- Begins the next wait of a call, and goes on as long as waits are met at once, at most so
often. -/
def settleWithin : Nat → Launcher.CallProgress × Session → Option Ongoing × Session
  | _, (.done a, s) => (some (.done a), s)
  | 0, (.waiting _, s) => (none, s)
  | fuel + 1, (.waiting c, s) =>
    match s.beginWait (s.launcher.callWait c) with
    | (.inr pending, s) => (some (.waiting c pending), s)
    | (.inl reply, s) =>
      let (p, launcher, host) := Launcher.resumeCall Host.machine s.launcher c reply s.host
      settleWithin fuel (p, { s with launcher, host })

/-- How often a call waits at most: a launch waits for its submission, and twice for each listing;
other calls wait once or twice. -/
def mostWaits (s : Session) : Nat := 2 * s.launcher.config.idResolution.attempts.toNat + 2

def settle (p : Launcher.CallProgress) (s : Session) : Option Ongoing × Session :=
  settleWithin s.mostWaits (p, s)

def begin (s : Session) (request : Request) : Option Ongoing × Session :=
  let (p, launcher, host) := Launcher.beginCall Host.machine s.launcher request s.host
  settle p { s with launcher, host }.noteLoop

def goOn (o : Option Ongoing) (s : Session) : Option Ongoing × Session :=
  match o with
  | some (.waiting c pending) =>
    match s.met? pending with
    | some reply =>
      let (p, launcher, host) := Launcher.resumeCall Host.machine s.launcher c reply s.host
      settle p { s with launcher, host }
    | none => (o, s)
  | o => (o, s)

def goOnAll (os : List (Option Ongoing)) (s : Session) : List (Option Ongoing) × Session :=
  os.foldl (fun (r : List (Option Ongoing) × Session) o =>
    let (o, s) := goOn o r.2
    (r.1 ++ [o], s)) ([], s)

def answer? : Option Ongoing → Option Answer
  | some (.done a) => some a
  | _ => none

def times (os : List (Option Ongoing)) : List Nat :=
  os.filterMap fun o => match o with
    | some (.waiting _ (.time t)) => some t
    | _ => none

/-- Brings calls to their ends, if something happens no more than so often. -/
def finishWithin : Nat → List (Option Ongoing) → Session → List (Option Answer) × Session
  | 0, os, s => (os.map answer?, s)
  | fuel + 1, os, s =>
    let isWaiting := os.any fun o => o matches some (.waiting ..)
    if !isWaiting then (os.map answer?, s)
    else
      let next := s.nextTime?.toList ++ times os
      match next.min? with
      | none => (os.map answer?, s)
      | some time =>
        let (os, s) := goOnAll os (s.passTo (max time s.host.now))
        finishWithin fuel os s

def request (s : Session) (r : Request) : Option Answer × Session :=
  let (o, s) := s.begin r
  let (answers, s) := finishWithin mostEvents [o] s
  (answers.head?.join, s)

/-- Two launches that are under way together; the first one starts first. -/
def runBoth (s : Session) (first second : Step) : Option Answer × Option Answer × Session :=
  let (o, s) := s.begin (.run first)
  let (p, s) := s.begin (.run second)
  let (answers, s) := finishWithin mostEvents [o, p] s
  (answers.head?.join, answers.getLast?.join, s)

def shutdown (s : Session) : Session :=
  let (awaited, launcher) := s.launcher.beginShutdown
  let launcher := match awaited with
    | some i => { launcher with supervisor := launcher.supervisor.endLoop i }
    | none => launcher
  let (launcher, host) := Launcher.finishShutdown Host.machine launcher s.host
  { s with launcher, host }.noteLoop

/-! ## Tasks and files -/

def start (s : Session) : Session :=
  { s with launcher := { s.launcher with supervisor := s.launcher.supervisor.start } }.noteLoop

def startTask (s : Session) (words : List String) (cwd : String) (stdout stderr : Sink) :
    Except LaunchError TaskId × Session :=
  let (r, supervisor, host) :=
    s.launcher.supervisor.startTask Host.machine words cwd stdout stderr s.host
  (r, { s with launcher := { s.launcher with supervisor }, host })

def startAndWait (s : Session) (words : List String) (cwd : String) :
    Except LaunchError Exit × Session :=
  match Supervisor.spawn Host.machine words cwd .capture .capture s.host with
  | (.error e, host) => (.error e, { s with host })
  | (.ok p, host) =>
    let (exit, s) := { s with host }.awaitProcess p
    (.ok exit, s)

def removeTask (s : Session) (id : TaskId) : Option TaskSnapshot × Session :=
  let (seen, process, supervisor) := s.launcher.supervisor.removeTask id
  (seen, { s with
    launcher := { s.launcher with supervisor }
    host := Launcher.killAll Host.machine process.toList s.host })

/-- Waits until a task that is tracked satisfies a condition; the outer answer is missing if that
does not come. -/
def awaitTask (s : Session) (id : TaskId) (p : TaskSnapshot → Bool) :
    Option (Option TaskSnapshot) × Session :=
  passUntil (fun s =>
    match s.launcher.supervisor.update? id with
    | some t => (if p t then some (some t) else none, s)
    | none => (some none, s)) s

def awaitSteps (s : Session) (names : List String) : Option (List Report) × Session :=
  passUntil (fun s =>
    match s.request (.poll names) with
    | (some (.polled reports), s) =>
      (if reports.all fun r => r.2.status.isTerminal then some reports else none, s)
    | (_, s) => (none, s)) s

end Session

end JobLaunch.Rehearsal
