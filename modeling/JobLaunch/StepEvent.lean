import JobLaunch.Identifier
import JobLaunch.Status

/-!
# Step events

* `StepEvent` — what can happen to a step.
* `StepEvent.toJson`, `StepEvent.ofJson?` — an event as an object whose only key names its kind.
-/

namespace JobLaunch

/-- What happened. -/
inductive StepEvent where
  | launched (name backend : String) (identifier : StepIdentifier)
  | cancelled (name : String) (managed : Bool)
  | taskExited (task : TaskId) (status : Status) (returnCode : Option Int)
  deriving DecidableEq, Inhabited

namespace StepEvent

def toJson : StepEvent → Json
  | launched name backend identifier =>
    Json.obj [("Launched", Json.obj [("name", Json.str name), ("backend", Json.str backend),
      ("identifier", identifier.toJson)])]
  | cancelled name managed =>
    Json.obj [("Cancelled", Json.obj [("name", Json.str name), ("managed", .bool managed)])]
  | taskExited task status returnCode =>
    Json.obj [("TaskExited", Json.obj [("task_id", task.toJson), ("status", status.toJson),
      ("returncode", Json.opt Json.int returnCode)])]

def fields? (names : List String) : Json → Option (List (String × Json))
  | .object ms => Json.record? (names.map .required) (.object ms)
  | _ => none

def ofJson? (j : Json) : Option StepEvent := do
  match j.variant? with
  | some ("Launched", some j) =>
    let fs ← fields? ["name", "backend", "identifier"] j
    let name ← Json.need "name" Json.text? fs
    let backend ← Json.need "backend" Json.text? fs
    let identifier ← Json.need "identifier" StepIdentifier.ofJson? fs
    some (launched name backend identifier)
  | some ("Cancelled", some j) =>
    let fs ← fields? ["name", "managed"] j
    let name ← Json.need "name" Json.text? fs
    let managed ← Json.need "managed" Json.bool? fs
    some (cancelled name managed)
  | some ("TaskExited", some j) =>
    let fs ← fields? ["task_id", "status", "returncode"] j
    let task ← Json.need "task_id" TaskId.ofJson? fs
    let status ← Json.need "status" Status.ofJson? fs
    let code ← Json.orElse "returncode" none (Json.nullable? Json.int32?) fs
    some (taskExited task status (code.map (·.toInt)))
  | _ => none

end StepEvent

end JobLaunch
