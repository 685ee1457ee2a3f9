import JobLaunch.Dict
import JobLaunch.Rehearsal.Program
import JobLaunch.Rehearsal.Script.Source
import JobLaunch.Rehearsal.Script.Switch
import JobLaunch.Rehearsal.Script.Table
import JobLaunch.Rehearsal.Signal
import JobLaunch.Text.Case

/-!
# Running shells

* `Shell` — what a running shell knows.
* `Abort` — why a command is left before its end.
* `Sh` — steps of a shell.
* `Sh.complain`, `Sh.fail` — what it says about mistakes.
* `Sh.value?`, `Sh.assign` — its variables.
-/

namespace JobLaunch.Rehearsal.Script

/-- How the letters of a text are written. -/
inductive Casing where
  | upper
  | lower
  | capital
  deriving DecidableEq, Inhabited

def Casing.apply (c : Casing) (text : String) : String :=
  String.ofList (match c, text.toList with
    | .upper, cs => cs.map Text.capital
    | .lower, cs => cs.map Text.small
    | .capital, [] => []
    | .capital, first :: rest => Text.capital first :: rest.map Text.small)

structure Variable where
  value : Option String := none
  exported : Bool := false
  fixed : Bool := false
  table : Option Table := none
  isBare : Bool := false
  isInteger : Bool := false
  casing : Option Casing := none
  isReference : Bool := false
  deriving DecidableEq, Inhabited

namespace Variable

def written (v : Variable) (text : String) : String :=
  match v.casing with
  | some c => c.apply text
  | none => text

def withValue (v : Variable) (text : String) : Variable :=
  let text := v.written text
  { v with
    value := some text, table := v.table.map fun t => t.insert t.firstKey text, isBare := false }

def withTable (v : Variable) (t : Table) : Variable :=
  let t := if v.casing.isSome then t.map v.written else t
  { v with value := t.get? t.firstKey, table := some t, isBare := false }

def values? (v : Variable) : Option Table := v.table.or (v.value.map fun s => Table.ofList [s])

end Variable

/-- A command that was left running. -/
structure Errand where
  number : Nat
  pids : List Pid
  outcome : Option Outcome := none
  isWaited : Bool := false
  text : String := ""
  deriving DecidableEq, Inhabited

/-- A program that has been found. -/
structure Tracked where
  name : String
  path : String
  hits : Nat := 0
  isStale : Bool := false
  deriving DecidableEq, Inhabited

structure Function where
  body : Command
  title : Option String := none
  deriving Inhabited

/-- What a running function has changed, as it was before. -/
structure Frame where
  bindings : List (String × Option Variable) := []
  switches : Option (List String) := none
  deriving Inhabited

/-- What a running shell knows. -/
structure Shell where
  dialect : Dialect
  name : String
  title : Option String := none
  parameters : List String := []
  bindings : Dict Variable := ∅
  functions : Dict Function := ∅
  status : Nat := 0
  pipeCodes : List Nat := []
  outputStatus : Nat := 0
  line : Nat := 0
  builtin : Option String := none
  switches : List String := []
  origin : Option Char := none
  traps : List (Nat × String) := []
  pending : List Nat := []
  loops : Nat := 0
  calls : Nat := 0
  running : List String := []
  sources : Nat := 0
  locals : List Frame := []
  started : Nat := 0
  pid : Pid := 0
  lastBackground : Option Pid := none
  errands : List Errand := []
  optionPlace : Nat := 0
  aliases : Dict String := ∅
  documents : Array Word := #[]
  depth : Nat := 0
  streams : Nat := 0
  limits : List (Char × Option Nat × Option Nat) := []
  tracked : List Tracked := []
  deriving Inhabited

def Shell.failureEvent : Nat := 65

/-- What stands for commands that are about to run among the numbers of signals. -/
def Shell.commandEvent : Nat := 66

/-- What stands for functions that end among the numbers of signals. -/
def Shell.returnEvent : Nat := 67

def Shell.isInner (s : Shell) : Bool := 0 < s.depth

/-- Why a command is left before its end. -/
inductive Abort where
  | exit
  | failure
  | givenUp
  | leaveLoops (count : Nat)
  | nextRound (count : Nat)
  | leaveFunction
  deriving DecidableEq, Inhabited

abbrev Sh := ExceptT Abort (StateT Shell Routine)

namespace Sh

variable {α : Type}

def lift (r : Routine α) : Sh α := ExceptT.lift (StateT.lift r)

def ask (c : Call) : Sh c.Answer := lift (Routine.ask c)

def isExtended : Sh Bool := do return (← get).dialect = .extended

/-- Does something, and afterwards something else, even if the first is left before its end. -/
def ensuring (m : Sh α) (after : Sh Unit) : Sh α := do
  try
    let a ← m
    after
    pure a
  catch e =>
    after
    throw e

def attempt (m : Sh α) : Sh (Except Abort α) := do
  try
    return .ok (← m)
  catch e => return .error e

/-! ## Words of its own -/

/-- Writes to a stream and does not care whether that is possible. -/
def say (stream : Nat) (text : String) : Sh Unit := lift (Routine.say stream text)

def place : Sh String := do
  let s ← get
  let line := Decimal.text s.line
  match s.dialect with
  | .plain =>
    let builtin := match s.builtin with
      | some b => b ++ ": "
      | none => ""
    return s.name ++ ": " ++ line ++ ": " ++ builtin
  | .extended => return s.title.getD s.name ++ ": line " ++ line ++ ": "

def complain (text : String) : Sh Unit := do
  say 2 ((← place) ++ text ++ "\n")

def failureCode : Sh Nat := do return if ← isExtended then 1 else 2

def setStatus (code : Nat) : Sh Unit := modify fun s => { s with status := code }

def failWith (code : Nat) (text : String) : Sh α := do
  complain text
  setStatus code
  throw .failure

def fail (text : String) : Sh α := do failWith (← failureCode) text

/-- Fails; a large shell only gives up the command that was read last. -/
def giveUp (text : String) : Sh α := do
  if ← isExtended then
    complain text
    setStatus 1
    throw .givenUp
  else fail text

def lackCode : Sh Nat := do
  let s ← get
  return if s.isInner || s.origin ≠ some 'c' then 1 else 127

/-! ## Switches -/

def isOn (name : String) : Sh Bool := do return (← get).switches.contains name

def turn (name : String) (on : Bool) : Sh Unit :=
  modify fun s =>
    let others := s.switches.filter (· ≠ name)
    { s with switches := if on then name :: others else others }

/-! ## Variables -/

def referentWithin (bindings : Dict Variable) : Nat → String → String
  | 0, name => name
  | n + 1, name =>
    match bindings.get? name with
    | some v =>
      if v.isReference && v.value.any (!·.isEmpty) then
        referentWithin bindings n (v.value.getD "")
      else name
    | none => name

def referent (name : String) : Sh String := do return referentWithin (← get).bindings 8 name

def binding? (name : String) : Sh (Option Variable) := do
  let s ← get
  return s.bindings.get? (referentWithin s.bindings 8 name)

def value? (name : String) : Sh (Option String) := do return (← binding? name).bind (·.value)

def value (name : String) : Sh String := do return (← value? name).getD ""

def modifyVariable (name : String) (f : Variable → Variable) : Sh Unit :=
  modify fun s =>
    let old := (s.bindings.get? name).getD {}
    { s with bindings := s.bindings.insert name (f old) }

def refuseFixed (name : String) : Sh Unit := do
  if (← binding? name).any (·.fixed) then
    if ← isExtended then fail (name ++ ": readonly variable")
    else fail (name ++ ": is read only")

/-- Forgets where programs are if a variable tells where they are looked for. -/
def forgetPaths (name : String) : Sh Unit :=
  if name = "PATH" then modify fun s => { s with tracked := [] } else pure ()

def assign (name value : String) : Sh Unit := do
  refuseFixed name
  forgetPaths name
  let exports ← isOn "allexport"
  modifyVariable (← referent name) fun v =>
    let v := v.withValue value
    { v with exported := v.exported || exports }

def values? (name : String) : Sh (Option Table) := do
  let s ← get
  match name with
  | "PIPESTATUS" => return some (.ofList (s.pipeCodes.map Decimal.text))
  | "FUNCNAME" => return if s.running.isEmpty then none else some (.ofList s.running)
  | "BASH_SOURCE" =>
    return if s.origin.isNone || s.title.isSome then some (.ofList [s.title.getD s.name]) else none
  | _ => return (← binding? name).bind (·.values?)

def assignTable (name : String) (t : Table) : Sh Unit := do
  refuseFixed name
  modifyVariable (← referent name) (·.withTable t)

def assignElement (name : String) (key : Key) (value : String) : Sh Unit := do
  let old := ((← binding? name).bind (·.values?)).getD (.numbered [])
  assignTable name (old.insert key value)

def assignExported (name value : String) : Sh Unit := do
  assign name value
  modifyVariable (← referent name) fun v => { v with exported := true }

def unset (name : String) : Sh Unit := do
  refuseFixed name
  forgetPaths name
  let name ← referent name
  modify fun s => { s with bindings := s.bindings.erase name }

def restore (name : String) (old : Option Variable) : Sh Unit := do
  forgetPaths name
  modify fun s =>
    { s with bindings := match old with
      | some v => s.bindings.insert name v
      | none => s.bindings.erase name }

def exportPlace (d : Dialect) (name : String) : Nat :=
  match d with
  | .plain =>
    let codes := (Bytes.ofText name).map (·.toNat)
    codes.foldl (· + ·) (codes.headD 0 * 16) % 39
  | .extended => Table.place name

def environment : Sh (List (String × String)) := do
  let s ← get
  let exported := s.bindings.entries.filterMap fun (name, v) =>
    match v.exported, v.value, v.table with
    | true, some value, none => some (exportPlace s.dialect name, name, value)
    | _, _, _ => none
  return (exported.mergeSort fun a b => a.1 ≤ b.1).map (·.2)

def standardPath : String := "/usr/local/sbin:/usr/local/bin:/usr/sbin:/usr/bin:/sbin:/bin"

/-! ## Files -/

/-- What the small shell says when opening a file, making it or running it fails. -/
inductive FileAction where
  | opening
  | creating
  | running
  deriving DecidableEq, Inhabited

def errorText (e : OsError) (a : FileAction) : String :=
  let missing := e matches .notFound | .notADirectory
  match a, missing with
  | .opening, true => "No such file"
  | .creating, true => "Directory nonexistent"
  | .running, true => "not found"
  | _, false => e.reason

end Sh

end JobLaunch.Rehearsal.Script
