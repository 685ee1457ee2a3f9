import JobLaunch.Dict
import JobLaunch.Error
import JobLaunch.Identifier
import JobLaunch.Snapshot

/-!
# The step registry

The registry maps step names to the work that was launched for them. A name can be reserved while
its launch is under way; committing the reservation registers the step.

* `Registry` — the registered entries and the reserved names.
* `Registry.add`, `Registry.reserve`, `Registry.commit`, `Registry.release`, `Registry.remove`.
* `Registry.idsOf` — the tracking ids of requested names, in request order.
* `Registry.observe` — merges a new snapshot into an entry.
-/

namespace JobLaunch

/-- What is registered under a name. -/
structure Entry where
  stepId : Option String
  taskId : Option TaskId
  /-- Does a scheduler own the step? -/
  managed : Bool
  /-- The last snapshot that was reported. -/
  last : Option Snapshot := none
  deriving DecidableEq, Inhabited

namespace Entry

/-- How the step is followed: by its scheduler if it is managed, as a task otherwise. -/
def trackingId? (e : Entry) : Option TrackingId :=
  if e.managed then e.stepId.map .step else e.taskId.map .task

/-- A new entry for a name; it needs the id it is followed by. -/
def make (name : String) (stepId : Option String) (taskId : Option TaskId) (managed : Bool) :
    Except LaunchError Entry :=
  if managed && stepId.isNone then
    .error (.configuration ("managed step `" ++ name ++ "` needs a step id"))
  else if !managed && taskId.isNone then
    .error (.configuration ("unmanaged step `" ++ name ++ "` needs a task id"))
  else .ok { stepId, taskId, managed }

end Entry

/-- Registered steps and reserved names. -/
structure Registry where
  entries : Dict Entry := ∅
  /-- The names whose launch is under way. -/
  reserved : List String := []
  deriving DecidableEq, Inhabited

namespace Registry

def names (r : Registry) : List String := r.entries.keys

/-- The number of registered names. -/
def size (r : Registry) : Nat := r.entries.size

def get? (r : Registry) (name : String) : Option Entry := r.entries.get? name

def contains (r : Registry) (name : String) : Bool := r.entries.contains name

def isReserved (r : Registry) (name : String) : Bool := r.reserved.contains name

/-- Registers a step at once, in place of one with the same name. -/
def add (r : Registry) (name : String) (stepId : Option String) (taskId : Option TaskId)
    (managed : Bool) : Except LaunchError Registry := do
  let e ← Entry.make name stepId taskId managed
  pure { r with entries := r.entries.insert name e }

def reserve (r : Registry) (name : String) : Except LaunchError Registry :=
  if r.contains name || r.isReserved name then .error (.duplicateStep name)
  else .ok { r with reserved := name :: r.reserved }

def release (r : Registry) (name : String) : Registry :=
  { r with reserved := r.reserved.filter (· ≠ name) }

/-- Ends a reservation by registering its step; if that fails the name is released. -/
def commit (r : Registry) (name : String) (stepId : Option String) (taskId : Option TaskId)
    (managed : Bool) : Except LaunchError Unit × Registry :=
  match Entry.make name stepId taskId managed with
  | .ok e => (.ok (), { r.release name with entries := r.entries.insert name e })
  | .error err => (.error err, r.release name)

def remove (r : Registry) (name : String) : Registry :=
  { r with entries := r.entries.erase name }

/-- The tracking id of a name, if its step is registered as managed or as unmanaged. -/
def idOf? (r : Registry) (managed : Bool) (name : String) : Option (String × TrackingId) :=
  (r.get? name).bind fun e =>
    if e.managed = managed then e.trackingId?.map fun id => (name, id) else none

/-- The requested names that are registered as managed or as unmanaged, with their tracking ids, in
request order and with repetitions. -/
def idsOf (r : Registry) (names : List String) (managed : Bool) : List (String × TrackingId) :=
  names.filterMap (r.idOf? managed)

/-- Merges a new snapshot into an entry and returns what is known then. -/
def observe (r : Registry) (name : String) (fresh : Snapshot) : Snapshot × Registry :=
  match r.get? name with
  | some e =>
    let merged := Snapshot.supersede e.last fresh
    (merged, { r with entries := r.entries.insert name { e with last := some merged } })
  | none => (fresh, r)

end Registry

end JobLaunch
