import JobLaunch.Error

/-!
# The machine

The launcher writes files, starts processes and kills them. It does so through a `Machine`, which
answers at once and may refuse; what the machine is like inside is left open.

* `Sink` — where a process writes one of its output streams.
* `Spawn` — a process to start.
* `Machine` — the three operations, over any type of machine states.
* `Exit` — how a process ended and what it wrote.
-/

namespace JobLaunch

/-- Where a process writes an output stream. -/
inductive Sink where
  /-- To a file, which is emptied before. -/
  | file (path : String)
  /-- To a pipe that is read to its end. -/
  | capture
  | discard
  deriving DecidableEq, Inhabited

/-- A process to start. -/
structure Spawn where
  program : String
  args : List String
  cwd : String
  stdout : Sink
  stderr : Sink
  deriving DecidableEq, Inhabited

/-- The number of a started process. -/
abbrev ProcessId := Nat

/-- The operations of a machine with states of type `μ`. -/
structure Machine (μ : Type) where
  writeFile : String → String → μ → Except OsError Unit × μ
  spawn : Spawn → μ → Except OsError ProcessId × μ
  /-- Kills a process if it still runs. -/
  kill : ProcessId → μ → μ

/-- How a process ended and what it wrote. -/
structure Exit where
  /-- The raw wait status. -/
  status : Int
  stdout : List UInt8
  stderr : List UInt8
  deriving DecidableEq, Inhabited

end JobLaunch
