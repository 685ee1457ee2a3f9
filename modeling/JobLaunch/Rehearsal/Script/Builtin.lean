import JobLaunch.Rehearsal.Script.Meaning

/-!
# Builtin commands

* `Sh.runTraps`, `Sh.checkFailure` — what is done about signals and failures.
* `Sh.callFunction` — calls of functions.
* `Sh.runBuiltin?` — the builtin commands that run no others.
* `Sh.runNamed`, `Sh.runOrdinary`, `Sh.runBare` — commands by their names.
-/

namespace JobLaunch.Rehearsal.Script.Sh

/-! ## Signals and failures -/

def runTraps (nested : Runner) : Sh Unit := do
  let now : List Nat ← ask .arrived
  let arrived := (← get).pending ++ now
  modify fun s => { s with pending := [] }
  for signal in arrived do
    match (← get).traps.lookup signal with
    | some action =>
      let status := (← get).status
      let _ ← runText nested false false "" action
      setStatus status
    | none => pure ()

def runBefore (nested : Runner) : Sh Unit := do
  let s ← get
  if s.calls = 0 || (← isOn "functrace") then
    match s.traps.lookup Shell.commandEvent with
    | some action =>
      modify fun s => { s with traps := s.traps.filter (·.1 ≠ Shell.commandEvent) }
      let _ ← runText nested false true "" action s.line
      -- Unless it has been given up meanwhile it is to be done again.
      modify fun now => { now with
        traps := if now.traps.any (·.1 = Shell.commandEvent) then now.traps else
          (Shell.commandEvent, action) :: now.traps
        line := s.line, status := s.status }
    | none => pure ()

/-- Does the shell do something when signals arrive, or at its end? -/
def hasTraps : Sh Bool := do return (← get).traps.any (!·.2.isEmpty)

/-- Does what is to be done about a failure, and ends the shell, if it is to end. -/
def checkFailure (nested : Runner) (tested : Bool) (code : Nat) : Sh Unit := do
  if code ≠ 0 && !tested then
    let s ← get
    if s.calls = 0 || (← isOn "errtrace") then
      match s.traps.lookup Shell.failureEvent with
      | some action =>
        modify fun s => { s with traps := s.traps.filter (·.1 ≠ Shell.failureEvent) }
        let _ ← runText nested false true "" action s.line
        modify fun now => { now with traps := s.traps, line := s.line }
        setStatus code
      | none => pure ()
    if ← isOn "errexit" then
      setStatus code
      throw .exit

/-! ## Functions -/

def endLocals : Sh Unit := do
  match (← get).locals with
  | frame :: rest =>
    modify fun s => { s with locals := rest }
    for (name, old) in frame.bindings do restore name old
    match frame.switches with
    | some switches => modify fun s => { s with switches }
    | none => pure ()
  | [] => pure ()

def callFunction (nested : Runner) (name : String) (f : Function) (args : List String)
    (tested : Bool) : Sh Nat := do
  let s ← get
  if 1000 < s.calls then fail "Maximum function recursion depth (1000) reached"
  set { s with
    parameters := args, loops := 0, calls := s.calls + 1, locals := {} :: s.locals
    running := name :: s.running, title := f.title }
  let r ← attempt (nested.run f.body false tested)
  endLocals
  modify fun now => { now with
    parameters := s.parameters, loops := s.loops, calls := s.calls, running := s.running
    title := s.title }
  match r with
  | .ok code => pure code
  | .error .leaveFunction => return (← get).status
  | .error e => throw e

/-! ## Builtin commands that run others -/

def exitCode (command : String) (args : List String) : Sh Nat := do
  let extended ← isExtended
  match if extended && args.head? = some "--" then args.tail else args with
  | [] => return (← get).status
  | arg :: more =>
    if extended then
      let (negative, ds) := match arg.toList with
        | '-' :: ds => (true, ds)
        | ds => (false, ds)
      if ds.isEmpty || !ds.all Text.isDigit then
        complain (command ++ ": " ++ arg ++ ": numeric argument required")
        pure 2
      else if !more.isEmpty then giveUp (command ++ ": too many arguments")
      else
        let n := Decimal.value ds % 256
        pure (if negative then (256 - n) % 256 else n)
    else natural arg

def leave (command : String) (abort : Nat → Abort) (args : List String) : Sh Nat := do
  let extended ← isExtended
  let loops := (← get).loops
  if extended && loops = 0 then
    complain (command ++ ": only meaningful in a \x60for', \x60while', or \x60until' loop")
    return 0
  let n ← match args with
    | [] => pure 1
    | arg :: _ =>
      if extended then
        if arg.toList.all Text.isDigit then pure (Decimal.value arg.toList)
        else failWith 128 (command ++ ": " ++ arg ++ ": numeric argument required")
      else natural arg
  if n = 0 then
    if extended then
      complain (command ++ ": 0: loop count out of range")
      setStatus 1
      throw (.leaveLoops loops)
    else fail ("Illegal number: " ++ args.headD "0")
  if loops = 0 then pure 0
  else
    setStatus 0
    throw (abort (min n loops))

def leaveFunction (args : List String) : Sh Nat := do
  let s ← get
  let code ← exitCode "return" args
  if s.dialect = .extended && s.calls = 0 && s.sources = 0 then
    complain "return: can only \x60return' from a function or sourced script"
    return 2
  setStatus code
  throw .leaveFunction

def findScript (name : String) : Sh (Option String) := do
  if hasSlash name then pure (some name)
  else
    let rec search : List String → Sh (Option String)
      | [] => pure none
      | dir :: rest => do
        let path := inDirectory dir name
        match ← ask (.inspect path true) with
        | .ok ⟨_, node, _⟩ => if node.content matches .regular _ then pure (some path) else search rest
        | .error _ => search rest
    let dirs ← searchPath
    search (if ← isExtended then dirs ++ [""] else dirs)

def readScript (nested : Runner) (command : String) (args : List String) (tested : Bool) :
    Sh Nat := do
  let extended ← isExtended
  match args with
  | [] =>
    if extended then
      complain (command ++ ": filename argument required")
      misuse command (command ++ " filename [arguments]")
    else pure 0
  | name :: parameters =>
    let refused (e : OsError) : Sh Nat := do
      if extended then
        complain (name ++ ": " ++ e.reason)
        pure 1
      else fail ("cannot open " ++ name ++ ": " ++ errorText e .opening)
    match ← findScript name with
    | none => if extended then refused .notFound else fail (name ++ ": not found")
    | some path =>
      match ← lift (Routine.readFile path) with
      | .error e => refused e
      | .ok bytes =>
        let s ← get
        set { s with
          sources := s.sources + 1, builtin := some path
          title := some name
          parameters := if extended && !parameters.isEmpty then parameters else s.parameters }
        let r ← attempt (runText nested false tested "" (Bytes.text bytes))
        modify fun now => { now with
          sources := s.sources, builtin := s.builtin, title := s.title
          parameters := if extended && !parameters.isEmpty then s.parameters else now.parameters }
        match r with
        | .ok code => pure code
        | .error .leaveFunction => return (← get).status
        | .error e => throw e

/-! ## Builtin commands -/

def exit (args : List String) : Sh Nat := do
  setStatus (← exitCode "exit" args)
  throw .exit

def evaluate (args : List String) : Sh Nat := do
  if args.isEmpty then complain "let: expression expected"
  let mut last := none
  for arg in args do last ← calculate? arg.toList "let: "
  pure (if last.getD 0 = 0 then 1 else 0)

def runBuiltin? (name : String) (given : Givens) (args : List String) : Option (Sh Nat) :=
  match name with
  | ":" | "true" => some (pure 0)
  | "false" => some (pure 1)
  | "echo" => some (echo args)
  | "printf" => some (printf given args)
  | "test" | "[" => some (test (name :: args))
  | "read" => some (readLine given args)
  | "mapfile" | "readarray" => some (readLines given args)
  | "export" => some (exportNames given args)
  | "readonly" => some (fixNames given args)
  | "local" => some do
      if ← isExtended then declareNames name given args else localNames args
  | "declare" | "typeset" => some (declareNames name given args)
  | "unset" => some (unsetNames given args)
  | "set" => some (setWords args)
  | "shift" => some (shift args)
  | "getopts" => some (getopts args)
  | "cd" | "chdir" => some (changeDirectory given args)
  | "pwd" => some (printDirectory given)
  | "umask" => some (umask given args)
  | "kill" => some (kill args)
  | "trap" => some (trap given args)
  | "wait" => some (wait args)
  | "type" => some (tellTypes given args)
  | "hash" => some (hash given args)
  | "alias" => some (nameCommands given args)
  | "unalias" => some (forgetNames given args)
  | "times" => some do
      let zero := if ← isExtended then "0m0.000s" else "0m0.000000s"
      let line := zero ++ " " ++ zero ++ "\n"
      emitText (line ++ line)
  | "ulimit" => some (limit given args)
  | "shopt" => some (turnOptions given args)
  | "jobs" => some (listErrands given args)
  | "fg" | "bg" => some (resume name args)
  | "break" => some (leave "break" .leaveLoops args)
  | "continue" => some (leave "continue" .nextRound args)
  | "return" => some (leaveFunction args)
  | "exit" => some (exit args)
  | "let" => some (evaluate args)
  | _ => none

def asBuiltin (name : String) (m : Sh Nat) : Sh Nat := do
  let old := (← get).builtin
  modify fun s => { s with builtin := some name }
  ensuring m (modify fun s => { s with builtin := old })

/-- Starts a program as a child and waits for it, or puts it in the place of the shell. -/
def runProgram (nested : Runner) (words : List String) (last : Bool) : Sh Nat := do
  let name := words.headD ""
  match ← findProgram name with
  | none =>
    match (← get).functions.get? "command_not_found_handle", ← isExtended with
    | some f, true =>
      await (← forkInner nested (callFunction nested "command_not_found_handle" f words false))
    | _, _ =>
      complain (← refusalText name .notFound)
      pure 127
  | some path =>
    if (← isExtended) && !hasSlash name && !path.isEmpty then track name path true
    if last && !(← hasTraps) then executeProgram words id
    else
      let p ← forkInner nested (executeProgram words id)
      await p

def replaceShell (given : Givens) (words : List String) : Sh Nat := do
  let extended ← isExtended
  match words with
  | [] => pure 0
  | name :: _ =>
    if given.has 'c' then
      for (x, _) in ← environment do
        modifyVariable x fun v => { v with exported := false }
    executeProgram words fun t =>
      if !extended then t
      else if t = name ++ ": command not found" then "exec: " ++ name ++ ": not found"
      else "exec: " ++ t

def runNamed (nested : Runner) (words : List String) (last tested : Bool) : Sh Nat := do
  let name := words.headD ""
  if !isBuiltin (← get).dialect name then runProgram nested words last
  else asBuiltin (if name = "source" then "." else name) do
    let (given, args) ← match ← attempt (options name words.tail) with
      | .ok r => pure r
      | .error e =>
        -- A large shell goes on if `exec` is misused.
        if name = "exec" && (← isExtended) then return (← get).status else throw e
    match name with
    | "eval" => runText nested false tested "eval: " (" ".intercalate args)
    | "." | "source" => readScript nested name args tested
    | "exec" => replaceShell given args
    | _ => (runBuiltin? name given args).getD (pure 0)

def tolerating (m : Sh Nat) : Sh Nat := do
  match ← attempt m with
  | .ok code => pure code
  | .error .failure => return (← get).status
  | .error e => throw e

/-- Runs a command by its name; mistakes in it do not end the shell. -/
def runOrdinary (nested : Runner) (words : List String) (last tested : Bool) : Sh Nat := do
  let m := runNamed nested words last tested
  -- A program that takes the place of the shell cannot fail to do so and go on.
  if last && !(isBuiltin (← get).dialect (words.headD "")) then m else tolerating m

/-- Runs what comes after `command` or `builtin`, or tells what it means. These words may follow
each other, at most so often. -/
def runBareWithin (nested : Runner) (last tested : Bool) : Nat → String → List String → Sh Nat
  | 0, _, _ => pure 0
  | n + 1, command, args => do
    match ← attempt (do
      modify fun s => { s with builtin := some command }
      let r ← options command args
      modify fun s => { s with builtin := none }
      pure r) with
    | .error .failure =>
      modify fun s => { s with builtin := none }
      return (← get).status
    | .error e => throw e
    | .ok (given, words) =>
      let extended ← isExtended
      let name := words.headD ""
      if given.has 'v' || given.has 'V' then asBuiltin command (tellCommands given words)
      else if words.isEmpty then pure 0
      else if command = "builtin" && !isBuiltin (← get).dialect name then
        complain ("builtin: " ++ name ++ ": not a shell builtin")
        pure 1
      else if name = "command" || (extended && name = "builtin") then
        runBareWithin nested last tested n name words.tail
      else runOrdinary nested words last tested

/-- Runs what comes after `command` or `builtin`, or tells what it means. -/
def runBare (nested : Runner) (command : String) (args : List String) (last tested : Bool) :
    Sh Nat :=
  runBareWithin nested last tested (args.length + 1) command args

end JobLaunch.Rehearsal.Script.Sh
