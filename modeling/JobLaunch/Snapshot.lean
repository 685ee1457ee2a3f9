import JobLaunch.Status
import JobLaunch.Timestamp

/-!
# Snapshots of a step

* `Snapshot` — what one look at a step told.
* `Snapshot.supersede` — a new snapshot in the light of the last one: the first terminal status
  stays, and later terminal snapshots only add output.
* `Observation` — a snapshot with the time of the look.
-/

namespace JobLaunch

/-- What one look at a step told. -/
structure Snapshot where
  status : Status
  returnCode : Option Int := none
  /-- The scheduler's own word for the state. -/
  rawStatus : Option String := none
  output : Option String := none
  error : Option String := none
  deriving DecidableEq, Inhabited

namespace Snapshot

/-- The snapshot of a step that its scheduler no longer lists, which counts as done. -/
def notFound : Snapshot :=
  { status := .completed, returnCode := some 0, rawStatus := some "NOTFOUND" }

def unknown : Snapshot := { status := .unknown }

/-- What is known of a step after a new look, given what was known before. A terminal status is
final; a later terminal snapshot adds the output and the error text that are not known yet. -/
def supersede (previous : Option Snapshot) (fresh : Snapshot) : Snapshot :=
  match previous with
  | some kept =>
    if kept.status.isTerminal then
      if fresh.status.isTerminal then
        { kept with output := kept.output.or fresh.output, error := kept.error.or fresh.error }
      else kept
    else fresh
  | none => fresh

@[simp] theorem supersede_none (fresh : Snapshot) : supersede none fresh = fresh := rfl

theorem supersede_of_not_terminal {kept : Snapshot} (h : kept.status.isTerminal = false)
    (fresh : Snapshot) : supersede (some kept) fresh = fresh := by
  simp [supersede, h]

end Snapshot

structure Observation where
  snapshot : Snapshot
  observedAt : Timestamp
  deriving DecidableEq, Inhabited

namespace Observation

/-- What is known after a new look; the time is that of the new look. -/
def supersede (previous : Option Observation) (fresh : Observation) : Observation :=
  ⟨Snapshot.supersede (previous.map (·.snapshot)) fresh.snapshot, fresh.observedAt⟩

def toJson (o : Observation) : Json :=
  Json.obj [("status", o.snapshot.status.toJson),
    ("returncode", Json.opt Json.int o.snapshot.returnCode),
    ("raw_status", Json.opt Json.str o.snapshot.rawStatus),
    ("output", Json.opt Json.str o.snapshot.output),
    ("error", Json.opt Json.str o.snapshot.error),
    ("observed_at", Json.str o.observedAt.text)]

def fields : List Json.Field :=
  [.required "status", .required "returncode", .required "raw_status", .required "output",
    .required "error", .required "observed_at"]

def ofJson? (j : Json) : Option Observation := do
  let fs ← Json.record? fields j
  let status ← Json.need "status" Status.ofJson? fs
  let code ← Json.orElse "returncode" none (Json.nullable? Json.int32?) fs
  let rawStatus ← Json.orElse "raw_status" none (Json.nullable? Json.text?) fs
  let output ← Json.orElse "output" none (Json.nullable? Json.text?) fs
  let error ← Json.orElse "error" none (Json.nullable? Json.text?) fs
  let observedAt ← Json.need "observed_at" (fun j => j.text?.bind Timestamp.parse?) fs
  some ⟨{ status, returnCode := code.map (·.toInt), rawStatus, output, error }, observedAt⟩

end Observation

end JobLaunch
