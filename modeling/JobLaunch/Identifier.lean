import JobLaunch.Json.Decode
import JobLaunch.Text.Decimal
import JobLaunch.Uuid

/-!
# Identifiers of launched work

* `TaskId` — a supervised process.
* `StepIdentifier` — what a launch hands back: a scheduler's job id or a task.
* `TrackingId` — how a registered step is followed.
-/

namespace JobLaunch

/-- The identifier of a supervised process. A supervisor draws a UUID of version 7 for each process that it starts, and
relies on what such UUIDs are made for: that no two draws are equal. Here the draws are told apart by their numbers, so
freshness is built in and does not have to be proved. Nothing else depends on the bits of a drawn UUID. -/
inductive TaskId where
  /-- What a supervisor has drawn; the draws are numbered from zero. -/
  | issued (serial : Nat)
  /-- An identifier that was read from text; no supervisor hands it out. -/
  | named (uuid : Uuid)
  deriving DecidableEq, Inhabited

namespace TaskId

def text : TaskId → String
  | issued n => "task:" ++ Decimal.text n
  | named u => u.text

/-- Reads a task identifier. -/
def parse? (s : String) : Option TaskId := (Uuid.parse? s).map named

/-- Reads a task identifier. -/
def ofJson? (j : Json) : Option TaskId := j.text?.bind parse?

def toJson (t : TaskId) : Json := Json.str t.text

end TaskId

/-- What a launch hands back. -/
inductive StepIdentifier where
  | scheduler (id : String)
  | task (id : TaskId)
  deriving DecidableEq, Inhabited

namespace StepIdentifier

def stepId? : StepIdentifier → Option String
  | scheduler id => some id
  | task _ => none

def taskId? : StepIdentifier → Option TaskId
  | scheduler _ => none
  | task id => some id

def text : StepIdentifier → String
  | scheduler id => id
  | task id => id.text

def toJson : StepIdentifier → Json
  | scheduler id => Json.obj [("Scheduler", Json.str id)]
  | task id => Json.obj [("Task", id.toJson)]

def ofJson? (j : Json) : Option StepIdentifier :=
  match j.variant? with
  | some ("Scheduler", some j) => j.text?.map scheduler
  | some ("Task", some j) => (TaskId.ofJson? j).map task
  | _ => none

end StepIdentifier

/-- How a registered step is followed. -/
inductive TrackingId where
  | step (id : String)
  | task (id : TaskId)
  deriving DecidableEq, Inhabited

namespace TrackingId

def text : TrackingId → String
  | step id => id
  | task id => id.text

def toJson : TrackingId → Json
  | step id => Json.obj [("Step", Json.str id)]
  | task id => Json.obj [("Task", id.toJson)]

end TrackingId

end JobLaunch
