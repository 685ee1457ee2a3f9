import JobLaunch.Command
import JobLaunch.Machine

/-!
# Waiting

A call on a launcher runs until it has to wait. Other calls, and the monitoring loop, may run
before it goes on.

* `Wait` — what a call waits for.
* `Reply` — what it is told when the wait is over.
* `Progress` — a call that has come to its end, or to its next wait.
-/

namespace JobLaunch

inductive Wait where
  /-- So many milliseconds. -/
  | pause (milliseconds : Nat)
  | command (command : Command)
  /-- The end of a process and of its output. -/
  | process (process : ProcessId)
  deriving DecidableEq, Inhabited

/-- What a call is told when its wait is over. -/
inductive Reply where
  | paused
  /-- What the command left, or why it could not be run. -/
  | answered (answer : Except String CommandOutput)
  | ended (exit : Exit)
  /-- The process could not be waited for, or its output not be read. -/
  | failed (source : OsError)

/-- How far a call has come: to its result, or to a wait. -/
inductive Progress (σ α : Type) where
  | done (result : α)
  | waiting (call : σ)

namespace Progress

variable {σ τ α β : Type}

def map (f : σ → τ) (g : α → β) : Progress σ α → Progress τ β
  | done result => done (g result)
  | waiting call => waiting (f call)

end Progress

end JobLaunch
