import JobLaunch.Rehearsal.Files

/-!
# Programs

A running program computes, and from time to time asks the system for something. What it does next
depends on the answer.

* `Call`, `Call.Answer` — what can be asked for, and what is answered.
* `Program` — what a process does from now on.
* `Routine` — a part of a program that comes to a result.
-/

namespace JobLaunch.Rehearsal

abbrev Pid := Nat

/-- How a program ends. -/
inductive Outcome where
  | exit (code : Nat)
  | signal (number : Nat)
  deriving DecidableEq, Inhabited

namespace Outcome

def raw : Outcome → Int
  | exit code => Int.ofNat (code % 256 * 256)
  | signal number => Int.ofNat number

def shellCode : Outcome → Nat
  | exit code => code % 256
  | signal number => 128 + number

end Outcome

structure OpenMode where
  reads : Bool := false
  writes : Bool := false
  appends : Bool := false
  creates : Bool := false
  excludes : Bool := false
  truncates : Bool := false
  deriving DecidableEq, Inhabited

namespace OpenMode

def input : OpenMode := { reads := true }

def output : OpenMode := { writes := true, creates := true, truncates := true }

def appending : OpenMode := { writes := true, creates := true, appends := true }

def both : OpenMode := { reads := true, writes := true, creates := true }

end OpenMode

/-- What a process does when a signal arrives. -/
inductive Disposition where
  | standard
  | ignored
  | noted
  deriving DecidableEq, Inhabited

inductive Waited where
  | ended (child : Pid) (outcome : Outcome)
  | none
  | childless
  | interrupted
  deriving DecidableEq, Inhabited

/-- A file with its number, as it is seen from outside. -/
structure FileInfo where
  id : FileId
  node : FileNode
  links : Nat
  deriving DecidableEq, Inhabited

/-- What a program asks the system for. Streams are the numbers of what the process has open. -/
inductive Call where
  | openFile (path : String) (mode : OpenMode)
  | close (stream : Nat)
  | duplicate (stream target : Nat)
  /-- Lets the lowest free stream from a number on be the same as another one; programs that are
  started do not get it. -/
  | reserve (stream low : Nat)
  | pipe
  /-- Reads at most so many bytes; none means the end. -/
  | read (stream count : Nat)
  | write (stream : Nat) (bytes : Bytes)
  | goBack (stream count : Nat)
  | inspect (path : String) (follow : Bool)
  | inspectStream (stream : Nat)
  | list (path : String)
  | readLink (path : String)
  | makeDirectory (path : String) (mode : Nat)
  | makeSymlink (target path : String)
  | makeLink (old path : String)
  | unlink (path : String)
  | removeDirectory (path : String)
  | rename (old new : String)
  | changeMode (path : String) (mode : Nat)
  | touch (path : String) (time : Option Int)
  | truncate (path : String) (size : Nat)
  | changeDirectory (path : String)
  | directory
  /-- Takes bits from the modes of new files; tells which were taken before. -/
  | setMask (mask : Nat)
  | pid
  | parent
  | time
  | pause (duration : Nat)
  | wait (child : Option Pid) (stays : Bool)
  | kill (process : Pid) (signal : Nat)
  | killGroup (group : Option Pid) (signal : Nat)
  | lead
  /-- What is done when a signal arrives; tells what was done before. -/
  | handle (signal : Nat) (disposition : Disposition)
  | arrived
  deriving DecidableEq, Inhabited

def Call.Answer : Call → Type
  | openFile .. | reserve .. => Except OsError Nat
  | pipe => Except OsError (Nat × Nat)
  | read .. => Except OsError Bytes
  | close _ | duplicate .. | write .. | goBack .. | makeDirectory .. | makeSymlink .. | makeLink ..
  | unlink _ | removeDirectory _ | rename .. | changeMode .. | touch .. | truncate ..
  | changeDirectory _ | kill .. | killGroup .. => Except OsError Unit
  | inspect .. | inspectStream _ => Except OsError FileInfo
  | list _ => Except OsError (List String)
  | readLink _ => Except OsError String
  | directory => String
  | setMask _ | pid | parent | time => Nat
  | pause _ | lead => Unit
  | wait .. => Waited
  | handle .. => Disposition
  | arrived => List Nat

/-- A program to be started in place of another one. -/
structure Execution where
  path : String
  /-- Its words; the first one is the name under which it is started. -/
  words : List String
  environment : List (String × String)
  deriving DecidableEq, Inhabited

/-- What a process does from now on. -/
inductive Program where
  | finish (outcome : Outcome)
  | call (c : Call) (next : c.Answer → Program)
  | fork (child : Program) (next : Pid → Program)
  | execute (e : Execution) (refused : OsError → Program)

instance : Inhabited Program := ⟨.finish (.exit 0)⟩

def Routine (α : Type) : Type := (α → Program) → Program

namespace Routine

variable {α : Type}

instance : Monad Routine where
  pure a := fun k => k a
  bind m f := fun k => m fun a => f a k

instance : Inhabited (Routine α) := ⟨fun _ => default⟩

def ask (c : Call) : Routine c.Answer := fun k => .call c k

def fork (child : Program) : Routine Pid := fun k => .fork child k

/-- Starts another program; comes to a result only if that is refused. -/
def execute (e : Execution) : Routine OsError := fun k => .execute e k

def finish (o : Outcome) : Routine α := fun _ => .finish o

def exit (code : Nat) : Routine α := finish (.exit code)

def toProgram (r : Routine Nat) : Program := r fun code => .finish (.exit code)

/-! ## Streams -/

def chunk : Nat := 65536

def mostChunks : Nat := 1000000

def readAllWithin : Nat → Bytes → Nat → Routine (Except OsError Bytes)
  | 0, read, _ => pure (.ok read)
  | fuel + 1, read, stream => do
    match ← ask (.read stream chunk) with
    | .error e => pure (.error e)
    | .ok [] => pure (.ok read)
    | .ok bytes => readAllWithin fuel (read ++ bytes) stream

def readAll (stream : Nat) : Routine (Except OsError Bytes) := readAllWithin mostChunks [] stream

def write (stream : Nat) (bytes : Bytes) : Routine (Except OsError Unit) :=
  if bytes.isEmpty then pure (.ok ()) else ask (.write stream bytes)

def say (stream : Nat) (text : String) : Routine Unit := do
  let _ ← write stream (Bytes.ofText text)

def readFile (path : String) : Routine (Except OsError Bytes) := do
  match ← ask (.openFile path .input) with
  | .error e => pure (.error e)
  | .ok stream =>
    let bytes ← readAll stream
    let _ ← ask (.close stream)
    pure bytes

end Routine

end JobLaunch.Rehearsal
