import JobLaunch.Rehearsal.Program
import JobLaunch.Text.Decimal

/-!
# Utilities

A utility reads, prints and complains, and ends with an exit code. What it prints is collected and
written in larger parts.

* `Utility` — the state of a utility.
* `Utility.Work` — steps of a utility.
* `Utility.print`, `Utility.complain`, `Utility.leave` — what steps do.
* `Utility.program` — the program of a utility.
-/

namespace JobLaunch.Rehearsal

structure Utility where
  name : String
  environment : List (String × String)
  printed : List Bytes := []
  size : Nat := 0
  refusal : Option OsError := none
  code : Nat := 0
  deriving Inhabited

namespace Utility

abbrev Work := ExceptT Nat (StateT Utility Routine)

variable {α : Type}

def lift (r : Routine α) : Work α := ExceptT.lift (StateT.lift r)

def ask (c : Call) : Work c.Answer := lift (Routine.ask c)

def leave (code : Nat) : Work α := throw code

def setCode (code : Nat) : Work Unit := modify fun s => { s with code }

/-! ## Output -/

def flush : Work Unit := do
  let s ← get
  if !s.printed.isEmpty then
    set { s with printed := [], size := 0 }
    if s.refusal.isNone then
      match ← lift (Routine.write 1 s.printed.reverse.flatten) with
      | .ok () => pure ()
      | .error e => modify fun s => { s with refusal := some e }

def room : Nat := 4096

def print (bytes : Bytes) : Work Unit := do
  modify fun s => { s with printed := bytes :: s.printed, size := s.size + bytes.length }
  if room ≤ (← get).size then flush

def printText (text : String) : Work Unit := print (Bytes.ofText text)

def printLine (text : String) : Work Unit := printText (text ++ "\n")

def say (text : String) : Work Unit := do
  flush
  lift (Routine.say 2 text)

def complain (text : String) : Work Unit := do
  say ((← get).name ++ ": " ++ text ++ "\n")

def fail (code : Nat) (text : String) : Work α := do
  complain text
  leave code

def advise : Work Unit := do
  say ("Try '" ++ (← get).name ++ " --help' for more information.\n")

/-- Complains about the way in which it is used, and ends the utility. -/
def misused (code : Nat) (text : String) : Work α := do
  complain text
  advise
  leave code

/-! ## Programs -/

/-- Writes what is left to be written, and tells the exit code; it is another one if the output was
refused. -/
def close (refused code : Nat) : Work Nat := do
  flush
  match (← get).refusal with
  | none => pure code
  | some e =>
    complain ("write error: " ++ e.reason)
    pure refused

/-- The program of a utility, with the exit code for output that is refused. -/
def program (refused : Nat) (work : List String → Work Unit) (words : List String)
    (environment : List (String × String)) : Program :=
  let start : Utility := { name := words.headD "", environment }
  Routine.toProgram do
    let (r, s) ← (work words.tail).run.run start
    let code := match r with
      | .ok () => s.code
      | .error code => code
    let (r, _) ← (close refused code).run.run s
    pure (match r with
      | .ok code | .error code => code)

end Utility

end JobLaunch.Rehearsal
