import JobLaunch.Launcher.Basic
import JobLaunch.Launcher.Wait

/-!
# Polling steps

A poll tells what is known of requested steps: first of the managed ones, for which the scheduler is
asked once, then of the others. Names that are not registered are left out.

* `Poll` — a poll that waits for the scheduler.
* `Launcher.beginPoll`, `Launcher.resumePoll` — its start, and its end after the wait.
-/

namespace JobLaunch

abbrev Report := String × Snapshot

/-- A poll that waits for the scheduler. -/
structure Poll where
  names : List String
  /-- The managed names among them, with their job ids. -/
  queried : List (String × String)
  deriving DecidableEq, Inhabited

namespace Registry

/-- Merges new snapshots into the entries of their names, one after the other. -/
def observeAll (r : Registry) : List Report → List Report × Registry
  | [] => ([], r)
  | (name, fresh) :: rest =>
    let (merged, r) := r.observe name fresh
    let (more, r) := observeAll r rest
    ((name, merged) :: more, r)

end Registry

namespace TaskSnapshot

def ofStep (t : TaskSnapshot) : Snapshot :=
  { status := t.status, returnCode := t.returnCode, output := t.stdout, error := t.stderr }

end TaskSnapshot

namespace Poll

/-- The job ids to ask for. -/
def ids (p : Poll) : List String := p.queried.map (·.2)

/-- A snapshot for each managed name. -/
def reports (p : Poll) (snapshots : List Snapshot) : List Report :=
  (p.queried.map (·.1)).zip snapshots

/-- Nothing is known of the managed names. -/
def unknowns (p : Poll) : List Snapshot := p.queried.map fun _ => Snapshot.unknown

end Poll

namespace Launcher

/-- How far a poll has come. -/
abbrev PollProgress := Progress Poll (List Report)

def pollWait (l : Launcher) (p : Poll) : Wait :=
  match l.backend.scheduler? with
  | some s => .command (s.queryCommand p.ids)
  | none => .pause 0

def unmanagedSnapshot (l : Launcher) : TrackingId → Snapshot
  | .task id => ((l.supervisor.update? id).map (·.ofStep)).getD Snapshot.unknown
  | .step _ => Snapshot.unknown

/-- The end of a poll, with a new snapshot for each managed name. -/
def finishPoll (l : Launcher) (p : Poll) (snapshots : List Snapshot) : List Report × Launcher :=
  let (managed, registry) := l.registry.observeAll (p.reports snapshots)
  let fresh := (registry.idsOf p.names false).map fun e => (e.1, l.unmanagedSnapshot e.2)
  let (unmanaged, registry) := registry.observeAll fresh
  (managed ++ unmanaged, { l with registry })

/-- Starts a poll, which waits only if a managed step is asked for and there is a scheduler. -/
def beginPoll (l : Launcher) (names : List String) : PollProgress × Launcher :=
  let p : Poll := ⟨names, (l.registry.idsOf names true).map fun e => (e.1, e.2.text)⟩
  if p.queried.isEmpty || l.backend.scheduler?.isNone then
    let (reports, l) := l.finishPoll p p.unknowns
    (.done reports, l)
  else (.waiting p, l)

/-- What an answer of the scheduler tells of the managed names. -/
def answeredSnapshots (l : Launcher) (p : Poll) (answer : Except String CommandOutput) :
    List Snapshot :=
  match l.backend.scheduler?, answer with
  | some s, .ok output => s.snapshots output p.ids
  | _, _ => p.unknowns

/-- How a poll goes on after its wait; a reply to another kind of wait changes nothing. -/
def resumePoll (l : Launcher) (p : Poll) (reply : Reply) : PollProgress × Launcher :=
  match reply with
  | .answered answer =>
    let (reports, l) := l.finishPoll p (l.answeredSnapshots p answer)
    (.done reports, l)
  | _ => (.waiting p, l)

end Launcher

end JobLaunch
