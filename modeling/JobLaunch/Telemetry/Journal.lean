import JobLaunch.Error
import JobLaunch.Telemetry.Level
import JobLaunch.Telemetry.Metrics

/-!
# The journal

What the launcher does is logged and counted.

* `Record` — a log record with its fields and the spans around it.
* `Journal` — the records since they were last taken, and the counts.
* `Journal.stepLaunched`, `Journal.submissionFailed`, … — log one fact and count it.
-/

namespace JobLaunch

structure Record where
  level : Level
  message : String
  fields : List (String × String)
  spans : List String
  deriving DecidableEq, Inhabited

/-- Log records and counts. -/
structure Journal where
  records : List Record := []
  metrics : Metrics := {}
  deriving DecidableEq, Inhabited

namespace Journal

def launcherSpan : String := "sortie.launcher"

def runSpans : List String := [launcherSpan, "sortie.run"]

def stopSpans : List String := [launcherSpan, "sortie.stop"]

def resolveSpans : List String := [launcherSpan, "sortie.resolve_id"]

def log (j : Journal) (r : Record) : Journal := { j with records := j.records ++ [r] }

def take (j : Journal) : List Record × Journal := (j.records, { j with records := [] })

def stepLaunched (j : Journal) (backend step kind identifier : String) : Journal :=
  { j.log ⟨.info, "step launched",
      [("backend", backend), ("step", step), ("kind", kind), ("identifier", identifier)],
      runSpans⟩ with
    metrics := j.metrics.stepLaunched backend kind }

def submissionFailed (j : Journal) (backend step : String) (code : Option Int) : Journal :=
  { j.log ⟨.error, "batch submission failed",
      [("backend", backend), ("step", step), ("code", LaunchError.codeText code)], runSpans⟩ with
    metrics := j.metrics.submissionFailed backend }

def cancelFailed (j : Journal) (backend step detail : String) : Journal :=
  j.log ⟨.warn, "unable to cancel job step",
    [("backend", backend), ("step", step), ("detail", detail)], stopSpans⟩

def stepCancelled (j : Journal) (backend step : String) (managed : Bool) : Journal :=
  { j.log ⟨.info, "step cancelled",
      [("backend", backend), ("step", step), ("managed", if managed then "true" else "false")],
      stopSpans⟩ with
    metrics := j.metrics.stepCancelled backend }

/-- A supervised process has ended. -/
def taskExited (j : Journal) (task status : String) (code : Option Int) : Journal :=
  { j.log ⟨.debug, "task exited",
      [("task_id", task), ("status", status), ("returncode", LaunchError.codeText code)], []⟩ with
    metrics := j.metrics.taskExited status }

/-- A search for a job id has ended. -/
def idResolution (j : Journal) (step : String) (attempts : Nat) (resolved : Bool) : Journal :=
  let fields := [("step", step), ("attempts", Decimal.text attempts)]
  let record : Record :=
    if resolved then ⟨.debug, "resolved step id from scheduler listing", fields, resolveSpans⟩
    else ⟨.error, "could not resolve step id from scheduler listing", fields, resolveSpans⟩
  { j.log record with metrics := j.metrics.idResolution attempts resolved }

end Journal

end JobLaunch
