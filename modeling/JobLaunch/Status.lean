import JobLaunch.Json.Decode

/-!
# Step status

* `Status` — the states that every scheduler's own states are mapped to.
* `Status.isTerminal` — has the step ended?
* `exitCode?` — the exit code in a raw wait status; death by signal `n` counts as `-n`.
-/

namespace JobLaunch

inductive Status where
  | pending
  | running
  | completed
  | failed
  | cancelled
  | unknown
  deriving DecidableEq, Inhabited, Repr

namespace Status

def name : Status → String
  | pending => "Pending"
  | running => "Running"
  | completed => "Completed"
  | failed => "Failed"
  | cancelled => "Cancelled"
  | unknown => "Unknown"

def all : List Status := [pending, running, completed, failed, cancelled, unknown]

def ofName? (s : String) : Option Status := all.find? (·.name = s)

/-- Has a step with this status ended? -/
def isTerminal : Status → Bool
  | completed | failed | cancelled => true
  | pending | running | unknown => false

def ofExitCode (code : Int) : Status := if code = 0 then completed else failed

def toJson (s : Status) : Json := Json.str s.name

def ofJson? (j : Json) : Option Status := (Json.unitVariant? j).bind ofName?

theorem ofName?_name (s : Status) : ofName? s.name = some s := by cases s <;> decide

theorem mem_all (s : Status) : s ∈ all := by cases s <;> decide

end Status

/-- The exit code in a raw wait status: the code of a normal exit, `-n` for death by signal `n`,
and none for a process that is stopped or continued. -/
def exitCode? (raw : Int) : Option Int :=
  let low := raw % 128
  if low = 0 then some (raw / 256 % 256)
  else if low = 127 then none
  else some (-low)

end JobLaunch
