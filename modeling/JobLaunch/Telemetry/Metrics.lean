import JobLaunch.Dict
import JobLaunch.Text.Decimal

/-!
# Metrics

* `Metrics` — counts of what has happened, by label.
* `Metrics.exposition` — the counts in the Prometheus text format: families in name order, and in a
  family the label values in order. A family without counts is left out.
-/

namespace JobLaunch

/-- How many steps of a kind a backend has launched. -/
structure LaunchCount where
  backend : String
  kind : String
  count : Nat
  deriving DecidableEq, Inhabited

/-- Counts of what has happened. -/
structure Metrics where
  /-- Launched steps by the texts of backend and kind, one after the other; the first backend and
  kind with the same texts name the count. -/
  launched : Dict LaunchCount := ∅
  submissionsFailed : Dict Nat := ∅
  cancelled : Dict Nat := ∅
  exited : Dict Nat := ∅
  /-- For each outcome of a search for a job id the numbers of listings that were looked at. -/
  resolutions : Dict (List Nat) := ∅
  deriving DecidableEq, Inhabited

namespace Metrics

/-- One more under a label value. -/
def increment (d : Dict Nat) (label : String) : Dict Nat :=
  d.insert label ((d.get? label).getD 0 + 1)

def stepLaunched (m : Metrics) (backend kind : String) : Metrics :=
  let known := (m.launched.get? (backend ++ kind)).getD ⟨backend, kind, 0⟩
  { m with launched :=
      m.launched.insert (backend ++ kind) { known with count := known.count + 1 } }

def submissionFailed (m : Metrics) (backend : String) : Metrics :=
  { m with submissionsFailed := increment m.submissionsFailed backend }

/-- Counts a stopped step. -/
def stepCancelled (m : Metrics) (backend : String) : Metrics :=
  { m with cancelled := increment m.cancelled backend }

/-- Counts an ended task. -/
def taskExited (m : Metrics) (status : String) : Metrics :=
  { m with exited := increment m.exited status }

def outcomeLabel (resolved : Bool) : String := if resolved then "resolved" else "exhausted"

/-- Notes how many listings a search looked at. -/
def idResolution (m : Metrics) (attempts : Nat) (resolved : Bool) : Metrics :=
  let label := outcomeLabel resolved
  { m with resolutions :=
      m.resolutions.insert label ((m.resolutions.get? label).getD [] ++ [attempts]) }

/-! ## Exposition -/

def labelChar (c : Char) : List Char :=
  if c = '\\' then ['\\', '\\']
  else if c = '"' then ['\\', '"']
  else if c = '\n' then ['\\', 'n']
  else [c]

def label (l : String × String) : String :=
  l.1 ++ "=\"" ++ String.ofList (l.2.toList.flatMap labelChar) ++ "\""

def sample (name : String) (labels : List (String × String)) (value : Nat) : String :=
  name ++ "\x7b" ++ ",".intercalate (labels.map label) ++ "\x7d " ++ Decimal.text value ++ "\n"

def family (name help type : String) (samples : List String) : String :=
  if samples.isEmpty then ""
  else "# HELP " ++ name ++ " " ++ help ++ "\n# TYPE " ++ name ++ " " ++ type ++ "\n" ++
    String.join samples

/-- The lines of a counter with one label. -/
def counterSamples (name key : String) (d : Dict Nat) : List String :=
  d.entries.map fun e => sample name [(key, e.1)] e.2

def bucketEnds : List Nat := (List.range 10).map (· + 1)

/-- The counts of launches in the order of backends, and of kinds for each backend. -/
def launchCounts (m : Metrics) : List LaunchCount :=
  (m.launched.entries.map (·.2)).mergeSort fun a b =>
    if a.backend = b.backend then a.kind ≤ b.kind else a.backend ≤ b.backend

def histogramSamples (name key value : String) (observed : List Nat) : List String :=
  bucketEnds.map (fun e => sample (name ++ "_bucket") [(key, value), ("le", Decimal.text e)]
      (observed.countP (· ≤ e))) ++
    [sample (name ++ "_bucket") [(key, value), ("le", "+Inf")] observed.length,
      sample (name ++ "_sum") [(key, value)] (observed.foldl (· + ·) 0),
      sample (name ++ "_count") [(key, value)] observed.length]

/-- The counts in the Prometheus text format. -/
def exposition (m : Metrics) : String :=
  family "sortie_id_resolution_attempts" "Listing queries needed to resolve a job id" "histogram"
      (m.resolutions.entries.flatMap fun e =>
        histogramSamples "sortie_id_resolution_attempts" "outcome" e.1 e.2) ++
    family "sortie_steps_cancelled_total" "Total number of steps stopped" "counter"
      (counterSamples "sortie_steps_cancelled_total" "backend" m.cancelled) ++
    family "sortie_steps_launched_total" "Total number of steps launched" "counter"
      (m.launchCounts.map fun c =>
        sample "sortie_steps_launched_total" [("backend", c.backend), ("kind", c.kind)] c.count) ++
    family "sortie_submissions_failed_total" "Total number of failed batch submissions" "counter"
      (counterSamples "sortie_submissions_failed_total" "backend" m.submissionsFailed) ++
    family "sortie_tasks_exited_total" "Total number of supervised processes that exited" "counter"
      (counterSamples "sortie_tasks_exited_total" "status" m.exited)

end Metrics

end JobLaunch
