import JobLaunch.Command
import JobLaunch.Snapshot
import JobLaunch.Text.Blank

/-!
# Job listings of Grid Engine

Grid Engine lists jobs as a table. A row starts with the job number; a line under it may give the
job's full name, of which the row shows only the beginning.

* `GridListing.rows` — the rows of a listing.
* `GridListing.snapshots` — what an answered query tells of each requested id.
* `GridListing.idOf?` — the id of the job with a name.
* `GridListing.submittedId?` — the job number that a submission printed.
-/

namespace JobLaunch

structure GridRow where
  id : String
  state : String
  name : String
  deriving DecidableEq, Inhabited

namespace GridListing

def fullNameMark : List Char := "Full jobname:".toList

/-- The row that a line shows: at least five fields, of which the first is a number. -/
def row? (line : List Char) : Option GridRow :=
  match Text.words line with
  | id :: _ :: name :: _ :: state :: _ =>
    if id.all Text.isDigit then
      some ⟨String.ofList id, String.ofList state, String.ofList name⟩
    else none
  | _ => none

/-- The rows after one more line; the latest row comes first. -/
def addLine (rows : List GridRow) (line : List Char) : List GridRow :=
  let line := Text.trim line
  match Text.afterStart? fullNameMark line with
  | some name =>
    match rows with
    | row :: rows => { row with name := String.ofList (Text.trim name) } :: rows
    | [] => []
  | none =>
    match row? line with
    | some row => row :: rows
    | none => rows

def rows (stdout : String) : List GridRow :=
  ((Text.lines stdout.toList).foldl addLine []).reverse

def statusOf (state : String) : Status :=
  let cs := state.toList
  if ["qw", "hqw", "hRwq", "t", "Rq"].contains state then .pending
  else if cs.head? = some 'd' then .cancelled
  else if cs.contains 'E' then .failed
  else if cs.contains 's' || cs.contains 'S' || cs.contains 'T' then .pending
  else if ["r", "Rr", "Rt"].contains state then .running
  else .unknown

def snapshotOf (state : String) : Snapshot := { status := statusOf state, rawStatus := some state }

/-- What an answered query tells of one id; a failed query tells nothing. -/
def snapshot (output : CommandOutput) (id : String) : Snapshot :=
  if output.succeeded then
    match (rows output.stdout).find? fun row => row.id = jobNumber id with
    | some row => snapshotOf row.state
    | none => .notFound
  else .unknown

/-- What an answered query tells of each requested id. -/
def snapshots (output : CommandOutput) (ids : List String) : List Snapshot :=
  ids.map (snapshot output)

/-- The id of the first listed job with the name. -/
def idOf? (output : CommandOutput) (name : String) : Option String :=
  if output.succeeded then
    ((rows output.stdout).find? fun row => row.name = name).map (·.id)
  else none

def submittedWord? (line : List Char) : Option (List Char) :=
  match (Text.afterStart? "Your job-array ".toList line).or
      (Text.afterStart? "Your job ".toList line) with
  | some rest => (Text.words rest).head?
  | none => some line

/-- The job number that a submission printed. -/
def submittedId? (stdout : String) : Option String := do
  let line ← Text.firstLine? stdout.toList
  let word ← submittedWord? line
  let number := word.takeWhile (· != '.')
  if !number.isEmpty && number.all Text.isDigit then some (String.ofList number) else none

end GridListing

end JobLaunch
