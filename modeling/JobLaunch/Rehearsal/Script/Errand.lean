import JobLaunch.Rehearsal.Script.Values

/-!
# Commands that were left running

* `Sh.remember` — keeps such a command.
* `Sh.errand?` — the one that is meant by words like `%1`.
* `Sh.wait`, `Sh.listErrands`, `Sh.resume` — the builtin commands for them.
-/

namespace JobLaunch.Rehearsal.Script

def Command.text : Command → String
  | .simple _ assignments words _ =>
    " ".intercalate (assignments.map (fun (.mk x _ _ w) => x ++ "=" ++ wordText w) ++
      words.map wordText)
  | .pipeline commands => " | ".intercalate (commands.map fun c => c.text)
  | _ => ""

def Errand.state (e : Errand) : String :=
  match e.outcome with
  | none => "Running"
  | some (.exit 0) => "Done"
  | some (.exit n) => "Done(" ++ Decimal.text n ++ ")"
  | some (.signal n) => ((Signal.find? n).map (·.notice)).getD ("Signal " ++ Decimal.text n)

namespace Sh

/-- Keeps a command that was left running, with its processes. In a small shell one that has ended
and for which somebody has waited may give it its number; a large one counts on from those that
run. -/
def remember (pids : List Pid) (c : Command) : Sh Unit := do
  match pids.getLast? with
  | none => pure ()
  | some last =>
    modify fun s =>
      let isFree (n : Nat) : Bool :=
        s.errands.all fun e => e.number ≠ n || (e.isWaited && e.outcome.isSome)
      let errands (number : Nat) (others : List Errand) : List Errand :=
        ⟨number, pids, none, false, c.text⟩ :: others
      { s with
        lastBackground := some last
        errands := match s.dialect with
          | .plain =>
            let number := (((List.range (s.errands.length + 1)).map (· + 1)).find? isFree).getD 1
            errands number (s.errands.filter (·.number ≠ number))
          | .extended =>
            let number := s.errands.foldl (fun n e => if e.outcome.isNone then max n e.number else n)
              0 + 1
            errands number (s.errands.map fun e =>
              if e.number = number then { e with number := 0 } else e) }

/-- The commands that were left running, as far as they can still be named by number. A large shell
only keeps the exit codes of those that have ended. -/
def namedErrands : Sh (List Errand) := do
  let errands := (← get).errands
  pure (if ← isExtended then errands.filter fun e => e.outcome.isNone else errands)

/-- The command that is meant by a percent sign and more; complains if there is none. -/
def errand? (builtin text : String) : Sh (Option Errand) := do
  let errands ← namedErrands
  let extended ← isExtended
  let refuse (reason : String) : Sh (Option Errand) := do
    if extended then
      complain (builtin ++ ": " ++ text ++ ": no such job")
      pure none
    else fail reason
  match text.toList with
  | ['%'] | ['%', '+'] | ['%', '%'] =>
    match errands.head? with
    | some e => pure (some e)
    | none => refuse "No current job"
  | ['%', '-'] =>
    match errands[1]? with
    | some e => pure (some e)
    | none => refuse "No previous job"
  | _ :: digits =>
    let n := if digits.all Text.isDigit then Decimal.value digits else 0
    match errands.find? (·.number = n) with
    | some e => pure (some e)
    | none => refuse ("No such job: " ++ text)
  | [] => refuse ("No such job: " ++ text)

/-! ## Waiting -/

/-- Waits until a command ends that was left running; the exit code is that of its last process. -/
def waitForErrand (e : Errand) : Sh Nat := do
  modifyErrand e.number fun e => { e with isWaited := true }
  let mut outcome := e.outcome
  for p in e.pids do
    if let some o ← awaitWithin p 1000000 [] then
      if some p = e.pids.getLast? then
        match o with
        | .signal n => if !(← isExtended) then notice n
        | .exit _ => pure ()
        modifyErrand e.number fun e => { e with outcome := some o }
        outcome := some o
  match outcome.or (((← get).errands.find? (·.number = e.number)).bind (·.outcome)) with
  | some o => pure o.shellCode
  | none => pure 127

def waitForAll : Sh Unit := do
  for e in (← get).errands do
    for p in e.pids do
      match ← awaitWithin p 1000000 [] with
      | some o =>
        if some p = e.pids.getLast? then
          modifyErrand e.number fun e => { e with outcome := some o }
      | none => pure ()
    modifyErrand e.number fun e => { e with isWaited := true }
  -- A large shell forgets what has ended.
  if ← isExtended then modify fun s => { s with errands := [] }

def wait (args : List String) : Sh Nat := do
  let extended ← isExtended
  if args.isEmpty then
    waitForAll
    pure 0
  else
    let mut status := 0
    for arg in args do
      let cs := arg.toList
      if cs.head? == some '%' then
        match ← errand? "wait" arg with
        | some e => status ← waitForErrand e
        | none => status := 127
      else if !cs.isEmpty && cs.all Text.isDigit then
        let p := Decimal.value cs
        match (← get).errands.find? (·.pids.getLast? == some p) with
        | some e => status ← waitForErrand e
        | none =>
          if extended then
            complain ("wait: pid " ++ Decimal.text p ++ " is not a child of this shell")
          status := 127
      else if extended then
        complain ("wait: \x60" ++ arg ++ "': not a pid or valid job spec")
        status := 1
      else fail ("Illegal number: " ++ arg)
    pure status

/-! ## Lists -/

def toColumn (n : Nat) (text : String) : String :=
  text ++ String.ofList (List.replicate (n - text.length) ' ')

/-- The lines about a command that was left running; `mark` tells if it is the latest one. -/
def errandText (d : Dialect) (withPid : Bool) (mark : String) (e : Errand) : String :=
  let number := "[" ++ Decimal.text e.number ++ "]"
  let pid (p : Pid) : String := Decimal.text p ++ " "
  let first := if withPid then pid (e.pids.headD 0) else ""
  match d with
  | .plain =>
    let line := toColumn 33 (number ++ " " ++ mark ++ " " ++ first ++ e.state)
    if withPid then
      let others := e.pids.tail.map fun p => " |\n" ++ toColumn 33 ("      " ++ Decimal.text p)
      line ++ "".intercalate others ++ "\n"
    else line ++ "".intercalate (e.pids.tail.map fun _ => " | ") ++ "\n"
  | .extended =>
    let ends := if e.outcome.isNone then " &" else ""
    number ++ mark ++ " " ++ (if withPid then first else " ") ++ toColumn 24 (e.state) ++
      e.text ++ ends ++ "\n"

/-- Shows commands that were left running, the latest first; those that have ended are forgotten.
The number counts those before that are still known. -/
def showErrands (withPid : Bool) : Nat → List Errand → Sh (List String)
  | _, [] => pure []
  | before, e :: rest => do
    let mark := if before = 0 then "+" else if before = 1 then "-" else " "
    let line := errandText (← get).dialect withPid mark e
    let before ← if e.outcome.isNone then pure (before + 1)
      else do
        modify fun s => { s with errands := s.errands.filter (·.number ≠ e.number) }
        pure before
    return line :: (← showErrands withPid before rest)

def listErrands (given : Givens) (names : List String) : Sh Nat := do
  let extended ← isExtended
  noteEnded
  let mut chosen := []
  let mut status := 0
  for name in names do
    match ← errand? "jobs" name with
    | some e => chosen := chosen ++ [e]
    | none => status := 1
  if status = 0 then
    let all ← if names.isEmpty then namedErrands else pure chosen
    let format := ((given.filter fun g => g.letter = 'l' || g.letter = 'p').map
      (·.letter)).getLast?
    if format = some 'p' then
      emitText ("".intercalate (all.map fun e => Decimal.text (e.pids.headD 0) ++ "\n"))
    else
      let lines ← showErrands (format = some 'l') 0 all
      emitText ("".intercalate (if extended then lines.reverse else lines))
  else pure status

/-- Would bring a command to the foreground, or let it go on, if the shell could do that. -/
def resume (builtin : String) (args : List String) : Sh Nat := do
  if ← isExtended then
    complain (builtin ++ ": no job control")
    pure 1
  else
    let _ ← errand? builtin (args.headD "%")
    fail ("job " ++ args.headD "(null)" ++ " not created under job control")

end Sh

end JobLaunch.Rehearsal.Script
