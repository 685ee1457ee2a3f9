import JobLaunch.Command
import JobLaunch.Json.Reader
import JobLaunch.Snapshot
import JobLaunch.Text.Blank

/-!
# Job listings of PBS Professional

PBS lists jobs as a JSON object whose member `Jobs` holds the jobs under their ids.

* `PbsListing.parse?` — the jobs of a listing; a blank text lists none.
* `PbsListing.snapshots` — what an answered query tells of each requested id.
* `PbsListing.idOf?` — the id of the job with a name.
* `PbsListing.submittedId?` — the id that a submission printed.
-/

namespace JobLaunch

structure PbsJob where
  name : Option String
  state : Option String
  exitStatus : Option Int32
  deriving DecidableEq, Inhabited

abbrev PbsListing := Dict PbsJob

def PbsJob.ofJson? (j : Json) : Option PbsJob := do
  let fs ← Json.record? [.required "Job_Name", .required "job_state", .required "Exit_status"] j
  let name ← Json.orElse "Job_Name" none (Json.nullable? Json.text?) fs
  let state ← Json.orElse "job_state" none (Json.nullable? Json.text?) fs
  let exitStatus ← Json.orElse "Exit_status" none (Json.nullable? Json.int32?) fs
  some { name, state, exitStatus }

namespace PbsListing

def ofJson? (j : Json) : Option PbsListing := do
  let fs ← Json.record? [.defaulted "Jobs"] j
  Json.orElse "Jobs" ∅ (Json.dict? PbsJob.ofJson?) fs

def parse? (stdout : String) : Option PbsListing :=
  if Text.isBlankText stdout then some ∅ else (Json.read? stdout).bind ofJson?

/-- The snapshot of a job in a PBS state. A finished job without an exit status has succeeded. -/
def snapshotOf (state : String) (exitStatus : Option Int32) : Snapshot :=
  let info : Snapshot :=
    match state with
    | "Q" | "W" | "H" | "T" | "S" | "U" => { status := .pending }
    | "R" | "B" | "E" => { status := .running }
    | "F" | "X" =>
      let code := (exitStatus.map (·.toInt)).getD 0
      { status := .ofExitCode code, returnCode := some code }
    | _ => .unknown
  { info with rawStatus := some state }

def jobSnapshot (job : PbsJob) : Snapshot :=
  match job.state with
  | some state => snapshotOf state job.exitStatus
  | none => .unknown

/-- The job with an id, or else the first with the same job number. -/
def job? (jobs : PbsListing) (id : String) : Option PbsJob :=
  (jobs.get? id).or
    ((jobs.entries.find? fun e => jobNumber e.1 = jobNumber id).map (·.2))

/-- Does a text hold a word with the job number of an id? -/
def mentions (stderr id : String) : Bool :=
  (Text.words stderr.toList).any fun w => jobNumber (String.ofList w) = jobNumber id

/-- What an answered query tells of one id. A failed query that printed nothing rejected the ids
its error text mentions; a listing that cannot be read tells nothing. -/
def snapshot (output : CommandOutput) (id : String) : Snapshot :=
  if Text.isBlankText output.stdout && !output.succeeded then
    if mentions output.stderr id then .notFound else .unknown
  else match parse? output.stdout with
    | none => .unknown
    | some jobs =>
      match job? jobs id with
      | some job => jobSnapshot job
      | none => .notFound

/-- What an answered query tells of each requested id. -/
def snapshots (output : CommandOutput) (ids : List String) : List Snapshot :=
  ids.map (snapshot output)

/-- The least id of a listed job with the name. -/
def idOf? (output : CommandOutput) (name : String) : Option String :=
  (parse? output.stdout).bind fun jobs =>
    (jobs.entries.find? fun e => e.2.name = some name).map (·.1)

def submittedId? (stdout : String) : Option String :=
  (Text.firstLine? stdout.toList).map String.ofList

end PbsListing

end JobLaunch
