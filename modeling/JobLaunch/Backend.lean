import JobLaunch.Listing.Grid
import JobLaunch.Listing.Pbs
import JobLaunch.Step

/-!
# Backends

* `Scheduler` — PBS Professional or Grid Engine, with the names of its client programs.
* `Backend` — a scheduler, or the local machine alone.
* `Backend.createStep` — a step from settings that the backend accepts.
-/

namespace JobLaunch

structure Clients where
  query : String := "qstat"
  cancel : String := "qdel"
  deriving DecidableEq, Inhabited

/-- Reads the names of client programs. -/
def Clients.ofJson? (j : Json) : Option Clients := do
  let fs ← Json.record? [.defaulted "qstat", .defaulted "qdel"] j
  let standard : Clients := {}
  let query ← Json.orElse "qstat" standard.query Json.text? fs
  let cancel ← Json.orElse "qdel" standard.cancel Json.text? fs
  some { query, cancel }

inductive Scheduler where
  | pbs (clients : Clients)
  | grid (clients : Clients)
  deriving DecidableEq, Inhabited

namespace Scheduler

def clients : Scheduler → Clients
  | pbs c => c
  | grid c => c

def listingCommand : Scheduler → Command
  | pbs c => ⟨c.query, ["-f", "-F", "json"]⟩
  | grid c => ⟨c.query, ["-r"]⟩

/-- The command that tells the states of jobs; Grid Engine always lists all. -/
def queryCommand : Scheduler → List String → Command
  | pbs c, ids => ⟨c.query, ["-f", "-F", "json", "-x"] ++ ids⟩
  | grid c, _ => listingCommand (grid c)

def cancelCommand (s : Scheduler) (id : String) : Command := ⟨s.clients.cancel, [id]⟩

def submittedId? : Scheduler → String → Option String
  | pbs _ => PbsListing.submittedId?
  | grid _ => GridListing.submittedId?

/-- What an answered query tells of each requested id. -/
def snapshots : Scheduler → CommandOutput → List String → List Snapshot
  | pbs _ => PbsListing.snapshots
  | grid _ => GridListing.snapshots

/-- The id of the job with a name in an answered listing. -/
def idOf? : Scheduler → CommandOutput → String → Option String
  | pbs _ => PbsListing.idOf?
  | grid _ => GridListing.idOf?

@[simp] theorem length_snapshots (s : Scheduler) (o : CommandOutput) (ids : List String) :
    (s.snapshots o ids).length = ids.length := by
  cases s <;> simp [snapshots, PbsListing.snapshots, GridListing.snapshots]

end Scheduler

/-- What a launcher launches on. -/
inductive Backend where
  | scheduled (scheduler : Scheduler)
  | localMachine
  deriving DecidableEq, Inhabited

namespace Backend

/-- The name in logs, metrics and errors. -/
def name : Backend → String
  | scheduled (.pbs _) => "PBSPro"
  | scheduled (.grid _) => "SGE"
  | localMachine => "Local"

def scheduler? : Backend → Option Scheduler
  | scheduled s => some s
  | localMachine => none

def accepts : Backend → Settings.Kind → Bool
  | scheduled (.pbs _), k => k = .pbsBatch || k = .aprun || k = .mpirun
  | scheduled (.grid _), k => k = .gridBatch || k = .mpirun
  | localMachine, k => k = .plain

def createStep (b : Backend) (name cwd : String) (settings : Settings) : Except LaunchError Step :=
  if b.accepts settings.kind then Step.create name cwd settings
  else .error (.unsupportedSettings b.name settings.kind)

end Backend

end JobLaunch
