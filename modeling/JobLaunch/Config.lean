import JobLaunch.Json.Decode
import JobLaunch.Text.Decimal
import JobLaunch.Text.Inspect

/-!
# Configuration

* `SupervisorConfig` — how often tasks are looked at, and how long shutdown waits.
* `RetryConfig` — how often and how far apart a job id is searched for.
* `Config` — both together. Every field has a default and may be left out in JSON.
-/

namespace JobLaunch

/-- Settings of the task supervisor, in milliseconds. -/
structure SupervisorConfig where
  pollInterval : UInt64 := 100
  shutdownTimeout : UInt64 := 5000
  deriving DecidableEq, Inhabited

namespace SupervisorConfig

/-- The pause between two looks at the tasks, at least one millisecond. -/
def pause (c : SupervisorConfig) : Nat := max c.pollInterval.toNat 1

def toJson (c : SupervisorConfig) : Json :=
  Json.obj [("poll_interval_ms", Json.nat c.pollInterval.toNat),
    ("shutdown_timeout_ms", Json.nat c.shutdownTimeout.toNat)]

def ofJson? (j : Json) : Option SupervisorConfig := do
  let fs ← Json.record? [.defaulted "poll_interval_ms", .defaulted "shutdown_timeout_ms"] j
  let standard : SupervisorConfig := {}
  let pollInterval ← Json.orElse "poll_interval_ms" standard.pollInterval Json.uint64? fs
  let shutdownTimeout ← Json.orElse "shutdown_timeout_ms" standard.shutdownTimeout Json.uint64? fs
  some { pollInterval, shutdownTimeout }

def inspect (c : SupervisorConfig) : String :=
  Inspect.record "SupervisorConfig"
    [("poll_interval_ms", Decimal.text c.pollInterval.toNat),
      ("shutdown_timeout_ms", Decimal.text c.shutdownTimeout.toNat)]

end SupervisorConfig

/-- Settings of the search for a job id. -/
structure RetryConfig where
  attempts : UInt32 := 5
  /-- Milliseconds before each attempt. -/
  interval : UInt64 := 2000
  deriving DecidableEq, Inhabited

namespace RetryConfig

def toJson (c : RetryConfig) : Json :=
  Json.obj [("attempts", Json.nat c.attempts.toNat), ("interval_ms", Json.nat c.interval.toNat)]

def ofJson? (j : Json) : Option RetryConfig := do
  let fs ← Json.record? [.defaulted "attempts", .defaulted "interval_ms"] j
  let standard : RetryConfig := {}
  let attempts ← Json.orElse "attempts" standard.attempts Json.uint32? fs
  let interval ← Json.orElse "interval_ms" standard.interval Json.uint64? fs
  some { attempts, interval }

def inspect (c : RetryConfig) : String :=
  Inspect.record "RetryConfig"
    [("attempts", Decimal.text c.attempts.toNat), ("interval_ms", Decimal.text c.interval.toNat)]

end RetryConfig

/-- Settings of a launcher. -/
structure Config where
  supervisor : SupervisorConfig := {}
  idResolution : RetryConfig := {}
  deriving DecidableEq, Inhabited

namespace Config

def toJson (c : Config) : Json :=
  Json.obj [("supervisor", c.supervisor.toJson), ("id_resolution", c.idResolution.toJson)]

def ofJson? (j : Json) : Option Config := do
  let fs ← Json.record? [.defaulted "supervisor", .defaulted "id_resolution"] j
  let supervisor ← Json.orElse "supervisor" {} SupervisorConfig.ofJson? fs
  let idResolution ← Json.orElse "id_resolution" {} RetryConfig.ofJson? fs
  some { supervisor, idResolution }

def inspect (c : Config) : String :=
  Inspect.record "LauncherConfig"
    [("supervisor", c.supervisor.inspect), ("id_resolution", c.idResolution.inspect)]

end Config

end JobLaunch
