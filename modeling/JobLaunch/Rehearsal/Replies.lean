import JobLaunch.Command
import JobLaunch.Dict

/-!
# Scripted answers to commands

* `Replies` — answers that are prepared for scheduler commands, by program.
* `Replies.answer` — the next answer to a command: prepared answers are used once each, in order,
  and after them a standing answer is used again and again.
-/

namespace JobLaunch.Rehearsal

/-- Answers that are prepared for scheduler commands. -/
structure Replies where
  queued : List (String × Except String CommandOutput) := []
  standing : Dict CommandOutput := ∅
  calls : List Command := []
  deriving Inhabited

namespace Replies

def push (r : Replies) (program : String) (answer : Except String CommandOutput) : Replies :=
  { r with queued := r.queued ++ [(program, answer)] }

def setStanding (r : Replies) (program : String) (output : CommandOutput) : Replies :=
  { r with standing := r.standing.insert program output }

def callCount (r : Replies) (program : String) : Nat := r.calls.countP (·.program = program)

def answer (r : Replies) (c : Command) : Except String CommandOutput × Replies :=
  let r := { r with calls := r.calls ++ [c] }
  match r.queued.find? (·.1 = c.program) with
  | some (_, a) => (a, { r with queued := r.queued.eraseP (·.1 = c.program) })
  | none =>
    match r.standing.get? c.program with
    | some output => (.ok output, r)
    | none => (.error ("no scripted response for \x60" ++ c.text ++ "\x60"), r)

end Replies

end JobLaunch.Rehearsal
