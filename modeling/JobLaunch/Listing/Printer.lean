import JobLaunch.Command
import JobLaunch.Dict
import JobLaunch.Json.Printer

/-!
# Listings as the schedulers print them

* `SampleJob` — a job of a listing.
* `PbsListing.printed`, `GridListing.printed` — the listing of some jobs.
* `PbsListing.unknownJob` — the answer of PBS to an id that it does not know.
-/

namespace JobLaunch

structure SampleJob where
  id : String
  name : String
  state : String
  exitStatus : Option Int32 := none
  deriving DecidableEq, Inhabited

namespace PbsListing

def jobJson (job : SampleJob) : Json :=
  Json.obj ((job.exitStatus.map fun c => ("Exit_status", Json.int c.toInt)).toList ++
    [("Job_Name", Json.str job.name), ("Job_Owner", Json.str "user@login1"),
      ("job_state", Json.str job.state), ("queue", Json.str "workq")])

/-- The jobs under their ids; the last of those with one id is listed. -/
def jobsJson (jobs : List SampleJob) : Json :=
  Json.obj (Dict.ofList (jobs.map fun job => (job.id, jobJson job))).entries

def json (jobs : List SampleJob) : Json :=
  Json.obj [("Jobs", jobsJson jobs), ("pbs_server", Json.str "server"),
    ("pbs_version", Json.str "2022.1.1"), ("timestamp", Json.nat 1700000000)]

def printed (jobs : List SampleJob) : CommandOutput := .ok (json jobs).render

/-- The answer of PBS to an id that it does not know. -/
def unknownJob (id : String) : CommandOutput :=
  .failed 35 ("qstat: Unknown Job Id " ++ id ++ "\n")

end PbsListing

namespace GridListing

/-- A text with blanks after it up to a width. -/
def padRight (width : Nat) (s : String) : String :=
  s ++ String.ofList (List.replicate (width - s.length) ' ')

/-- A text with blanks before it up to a width. -/
def padLeft (width : Nat) (s : String) : String :=
  String.ofList (List.replicate (width - s.length) ' ') ++ s

/-- The two lines above the rows. -/
def header : String :=
  "job-ID  prior   name       user         state submit/start at     queue" ++
    "                          slots ja-task-ID\n" ++ String.ofList (List.replicate 113 '-') ++ "\n"

/-- The row of a job and the line with its full name; the row shows ten characters of it. -/
def jobLines (job : SampleJob) : String :=
  padLeft 7 job.id ++ " 0.55500 " ++ padRight 10 (String.ofList (job.name.toList.take 10)) ++
    " alice        " ++ padRight 5 job.state ++
    " 05/18/2024 10:00:00 all.q@node1                        1\n" ++
    "       Full jobname:     " ++ job.name ++ "\n"

/-- The answer of Grid Engine to a query: a table of the jobs. -/
def printed (jobs : List SampleJob) : CommandOutput :=
  .ok (header ++ String.join (jobs.map jobLines))

end GridListing

end JobLaunch
