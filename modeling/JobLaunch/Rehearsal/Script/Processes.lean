import JobLaunch.Rehearsal.Script.Errand

/-!
# Builtin commands for processes and directories

* `Sh.findProgram`, `Sh.executeProgram` — where programs are, and starting one.
* `Sh.changeDirectory`, `Sh.printDirectory`, `Sh.umask`, `Sh.limit` — what programs inherit.
* `Sh.kill`, `Sh.trap` — signals.
-/

namespace JobLaunch.Rehearsal.Script.Sh

/-! ## Programs -/

def searchPath : Sh (List String) := do
  let path ← value "PATH"
  return (path.toList.splitOn ':').map String.ofList

def inDirectory (dir name : String) : String := if dir.isEmpty then name else dir ++ "/" ++ name

def hasSlash (name : String) : Bool := name.toList.contains '/'

def programIn (dir name : String) : Sh String := do
  let path := inDirectory dir name
  pure (if (← isExtended) && path.toList.head? ≠ some '/' then "./" ++ path else path)

def findIn (name : String) : List String → Sh (Option String)
  | [] => pure none
  | dir :: rest => do
    let path ← programIn dir name
    match ← ask (.inspect path true) with
    | .ok ⟨_, node, _⟩ =>
      let isFile := (node.content matches .regular _) || (node.content matches .program _)
      if isFile && (node.isExecutable || !(← isExtended)) then pure (some path)
      else findIn name rest
    | .error _ => findIn name rest

def track (name path : String) (starts : Bool) : Sh Unit :=
  modify fun s =>
    let hits := if starts then 1 else 0
    { s with tracked :=
        if s.tracked.any (·.name = name) then
          s.tracked.map fun t =>
            if t.name = name then { t with path, hits := t.hits + hits, isStale := false } else t
        else s.tracked ++ [{ name, path, hits }] }

def findProgram (name : String) : Sh (Option String) := do
  if hasSlash name || name.isEmpty then pure (some name)
  else
    let path ← findIn name (← searchPath)
    if let some p := path then
      if !(← isExtended) then track name p false
    pure path

/-- Starts a program from one of several paths. A file that is no program is a script. -/
def executeFrom (words : List String) (environment : List (String × String)) (reader : String)
    (error : OsError) : List String → Sh OsError
  | [] => pure error
  | path :: rest => do
    let last := if ← isExtended then [("_", path)] else []
    let environment := environment.filter (fun e => last.all (·.1 ≠ e.1)) ++ last
    match ← lift (Routine.execute ⟨path, words, environment⟩) with
    | .badFormat => lift (Routine.execute ⟨reader, reader :: path :: words.tail, environment⟩)
    | .notFound | .notADirectory => executeFrom words environment reader error rest
    | e => executeFrom words environment reader e rest

def refusalCode (e : OsError) : Nat :=
  if e matches .notFound | .notADirectory | .nameTooLong | .linkLoop then 127 else 126

def refusalText (name : String) (e : OsError) : Sh String := do
  if ← isExtended then
    match e with
    | .notFound =>
      if !hasSlash name then pure (name ++ ": command not found")
      else match ← ask (.inspect name true) with
        | .ok _ => pure (name ++ ": cannot execute: required file not found")
        | .error _ => pure (name ++ ": " ++ e.reason)
    | .permissionDenied =>
      match ← ask (.inspect name true) with
      | .ok ⟨_, node, _⟩ =>
        pure (name ++ ": " ++ (if node.isDirectory then OsError.isADirectory else e).reason)
      | .error _ => pure (name ++ ": " ++ e.reason)
    | _ => pure (name ++ ": " ++ e.reason)
  else if name.isEmpty then pure ": Permission denied"
  else pure (name ++ ": " ++ errorText e .running)

/-- Starts a program in place of the shell; fails if that is not possible. -/
def executeProgram {α : Type} (words : List String) (message : String → String) : Sh α := do
  let name := words.headD ""
  let extended ← isExtended
  let paths ← if hasSlash name || name.isEmpty then pure [name]
    else (← searchPath).mapM (programIn · name)
  let environment ← environment
  let reader := if extended then "/bin/bash" else "/bin/sh"
  let e ← executeFrom words environment reader .notFound paths
  let code := if (extended && e = .notADirectory) || (!extended && name.isEmpty) then 126
    else refusalCode e
  failWith code (message (← refusalText name e))

/-! ## Directories -/

def simplified (path : String) : String :=
  -- Two slashes at the start, but no more, are kept.
  let root := match path.toList with
    | '/' :: '/' :: '/' :: _ => "/"
    | '/' :: '/' :: _ => "//"
    | _ => "/"
  let parts := ((path.toList.splitOn '/').filter fun p => !p.isEmpty && p ≠ ['.']).foldl
    (fun (done : List (List Char)) p => if p = ['.', '.'] then done.drop 1 else p :: done) []
  root ++ "/".intercalate (parts.reverse.map String.ofList)

def directory : Sh String := ask .directory

/-- The path of the working directory as the shell has come there. -/
def here : Sh String := do
  match ← value? "PWD" with
  | some p => if p.toList.head? == some '/' then pure p else directory
  | none => directory

def changeDirectory (given : Givens) (rest : List String) : Sh Nat := do
  let extended ← isExtended
  let physical := given.isPhysical
  if extended && 1 < rest.length then
    complain "cd: too many arguments"
    return 1
  let target ← match rest with
    | [] => value? "HOME"
    | "-" :: _ => do
      match ← value? "OLDPWD" with
      | some p => pure (some p)
      | none =>
        if extended then
          complain "cd: OLDPWD not set"
          return 1
        else here
    | path :: _ => pure (some path)
  match target with
  | none =>
    if extended then
      complain "cd: HOME not set"
      pure 1
    else pure 0
  | some target =>
    let old ← here
    let isAbsolute := target.toList.head? == some '/'
    -- Directories that are named relative to others than this one.
    let searched ← if isAbsolute || target.isEmpty || target.toList.head? == some '.' then pure none
      else do
        let dirs := ((← value "CDPATH").toList.splitOn ':').map String.ofList
        let mut found := none
        for dir in dirs do
          if found.isNone && !dir.isEmpty then
            let path := if extended && dir = "/" then dir ++ target else inDirectory dir target
            match ← ask (.inspect path true) with
            | .ok ⟨_, node, _⟩ => if node.isDirectory then found := some path
            | .error _ => pure ()
        pure found
    let path := searched.getD target
    let whole := if path.toList.head? == some '/' then path else old ++ "/" ++ path
    let logical := simplified whole
    -- Without a name the directory stays.
    let chosen := if target.isEmpty then "." else if physical then path else logical
    match ← ask (.changeDirectory chosen) with
    | .ok () =>
      let new ← if physical then directory else pure (if target.isEmpty then old else logical)
      if extended then
        assign "OLDPWD" old
        assign "PWD" new
      else
        assignExported "OLDPWD" old
        assignExported "PWD" new
        modify fun s => { s with tracked := s.tracked.map fun t => { t with isStale := true } }
      if searched.isSome || rest.head? = some "-" then emitText (new ++ "\n") else pure 0
    | .error e =>
      if extended then
        complain ("cd: " ++ target ++ ": " ++ e.reason)
        pure 1
      else fail ("can't cd to " ++ target)

def printDirectory (given : Givens) : Sh Nat := do
  if given.isPhysical then
    emitText ((← directory) ++ "\n")
  else emitText ((← here) ++ "\n")

def octalText (n : Nat) : String :=
  let ds := Nat.toDigits 8 n
  String.ofList (List.replicate (4 - ds.length) '0' ++ ds)

def letters (n : Nat) : String :=
  (if n / 4 % 2 = 1 then "r" else "") ++ (if n / 2 % 2 = 1 then "w" else "") ++
    (if n % 2 = 1 then "x" else "")

def applyClause (mode : Nat) (clause : List Char) : Option Nat :=
  let (who, rest) := clause.span "ugoa".toList.contains
  let who := if who.isEmpty || who.contains 'a' then ['u', 'g', 'o'] else who
  match rest with
  | operator :: rights =>
    if !("+-=".toList.contains operator) || !rights.all "rwxX".toList.contains then none
    else
      let bits := (if rights.contains 'r' then 4 else 0) + (if rights.contains 'w' then 2 else 0) +
        (if rights.contains 'x' || rights.contains 'X' then 1 else 0)
      some (who.foldl (fun mode c =>
        let factor := if c = 'u' then 64 else if c = 'g' then 8 else 1
        let old := mode / factor % 8
        let new := match operator with
          | '+' => old ||| bits
          | '-' => old - (old &&& bits)
          | _ => bits
        mode - old * factor + new * factor) mode)
  | [] => none

def applyClauses (mode : Nat) (text : String) : Option Nat :=
  (text.toList.splitOn ',').foldl (fun m c => m.bind (applyClause · c)) (some mode)

def umask (given : Givens) (args : List String) : Sh Nat := do
  let now : Nat ← ask (.setMask 0)
  let _ ← ask (.setMask now)
  let extended ← isExtended
  match args with
  | [] =>
    let rights := 511 - now % 512
    let text := if given.has 'S' then
        "u=" ++ letters (rights / 64 % 8) ++ ",g=" ++ letters (rights / 8 % 8) ++ ",o=" ++
          letters (rights % 8)
      else octalText now
    emitText ((if !given.has 'p' then "" else if given.has 'S' then "umask -S " else "umask ") ++
      text ++ "\n")
  | arg :: _ =>
    let cs := arg.toList
    if extended && cs.isEmpty then
      complain "umask: \x60\x00': invalid symbolic mode operator"
      pure 1
    else if cs.all Text.isDigit then
      if cs.all (· < '8') then
        let _ ← ask (.setMask (cs.foldl (fun n c => n * 8 + (c.toNat - 48)) 0 % 512))
        pure 0
      else if extended then
        complain ("umask: " ++ arg ++ ": octal number out of range")
        pure 1
      else fail ("Illegal number: " ++ arg)
    else match applyClauses (511 - now % 512) arg with
      | some rights =>
        let _ ← ask (.setMask (511 - rights))
        pure 0
      | none =>
        if extended then
          complain ("umask: \x60" ++ String.ofList (cs.take 1) ++
            "': invalid symbolic mode operator")
          pure 1
        else fail ("Illegal mode: " ++ arg)

/-! ## Signals -/

/-- The number of a signal that is given by number or by name; names may begin with `SIG`. -/
def signal? (extended : Bool) (text : String) : Option Nat :=
  let upper := String.ofList (text.toList.map Char.toUpper)
  let bare := match upper.toList with
    | 'S' :: 'I' :: 'G' :: rest => if extended then String.ofList rest else upper
    | _ => upper
  if bare = "EXIT" then some 0
  else if extended && upper = "ERR" then some Shell.failureEvent
  else if extended && upper = "DEBUG" then some Shell.commandEvent
  else if extended && upper = "RETURN" then some Shell.returnEvent
  else Signal.number? bare

def signalName (n : Nat) : String :=
  if n = 0 then "EXIT"
  else if n = Shell.failureEvent then "ERR"
  else if n = Shell.commandEvent then "DEBUG"
  else if n = Shell.returnEvent then "RETURN"
  else ((Signal.find? n).map (·.name)).getD (Decimal.text n)

def shownSignal (n : Nat) : String :=
  (if n ≠ 0 && n < Shell.failureEvent then "SIG" else "") ++ signalName n

def signalTable : String :=
  let entries := Signal.known.map fun s =>
    let number := Decimal.text s.number
    (if s.number < 10 then " " else "") ++ number ++ ") SIG" ++ s.name
  let rec lines : Nat → List String → String
    | 0, _ => ""
    | _, [] => ""
    | n + 1, es =>
      "\t".intercalate (es.take 5) ++ (if es.length < 5 then "\t\n" else "\n") ++
        lines n (es.drop 5)
  lines entries.length entries

def killUsage : Sh Nat := do
  if ← isExtended then
    misuse "kill" "kill [-s sigspec | -n signum | -sigspec] pid | jobspec ... or kill -l [sigspec]"
  else fail ("Usage: kill [-s sigspec | -signum | -sigspec] [pid | job]... or\n" ++
    "kill -l [exitstatus]")

def signalAll (signal : Nat) (targets : List String) : Sh Nat := do
  let extended ← isExtended
  -- A large shell knows at once which of its children have ended.
  if extended then noteEnded
  let mut status := 0
  let mut hasSent := false
  for target in targets do
    if target.toList.head? == some '%' then
      match ← errand? "kill" target with
      | none => status := 1
      | some e =>
        -- Errands have no processes of their own that could be meant all together.
        if !extended then
          complain (OsError.noSuchProcess.reason ++ "\n")
          status := 1
        else for p in e.pids do
          match ← ask (.kill p signal) with
          | .ok () => hasSent := true
          | .error e =>
            complain ("kill: (" ++ Decimal.text p ++ ") - " ++ e.reason)
            status := 1
    else if !extended && target.toList.head? == some '-' then
      let _ ← natural (String.ofList (target.toList.drop 1))
      complain (OsError.noSuchProcess.reason ++ "\n")
      status := 1
    else if target.isEmpty || !target.toList.all Text.isDigit then
      if extended then
        complain (if target.isEmpty then "kill: \x60': not a pid or valid job spec"
          else "kill: " ++ target ++ ": arguments must be process or job IDs")
        status := 1
      else fail ("Illegal number: " ++ target)
    else
      match ← ask (.kill (Decimal.value target.toList) signal) with
      | .ok () => hasSent := true
      | .error e =>
        if extended then complain ("kill: (" ++ target ++ ") - " ++ e.reason)
        else complain (e.reason ++ "\n")
        status := 1
  -- A large shell is content if one of them could get it.
  pure (if extended && hasSent then 0 else status)

def refuseSignal (text : String) : Sh Nat := do
  if ← isExtended then
    complain ("kill: " ++ text ++ ": invalid signal specification")
    pure 1
  else fail ("invalid signal number or name: " ++ text)

/-- Names signals, given by numbers or by the exit codes they cause. -/
def nameSignals (args : List String) : Sh Nat := do
  let name (n : Nat) : String := signalName (if 128 < n then n - 128 else n)
  let isKnown (n : Nat) : Bool := (if 128 < n then n - 128 else n) ≤ Signal.greatest
  if ← isExtended then
    if args.isEmpty then return ← emitText signalTable
    let mut status := 0
    for arg in args do
      if !arg.isEmpty && arg.toList.all Text.isDigit && isKnown (Decimal.value arg.toList) then
        let n := Decimal.value arg.toList
        if n = 0 || (Signal.find? (if 128 < n then n - 128 else n)).isSome then
          let _ ← emitText (name n ++ "\n")
      else match (signal? true arg).filter (· < Shell.failureEvent) with
        | some n =>
          let _ ← emitText (Decimal.text n ++ "\n")
        | none => status ← refuseSignal arg
    pure status
  else match args with
    | [] => emitText ("0\n" ++ "".intercalate ((List.range Signal.greatest).map fun n =>
        signalName (n + 1) ++ "\n"))
    | arg :: _ =>
      let n ← natural arg
      if n = 0 || n = 128 || !isKnown n then
        fail ("invalid signal number or exit status: " ++ arg)
      else emitText (name n ++ "\n")

def killPlainly (args : List String) : Sh Nat := do
  let send (signal : Nat) (rest : List String) : Sh Nat :=
    if rest.isEmpty then killUsage else signalAll signal rest
  match args with
  | [] => killUsage
  | arg :: rest =>
    let number := match arg.toList with
      | '-' :: cs => (signal? false (String.ofList cs)).filter fun n => n ≠ 0 || cs = ['0']
      | _ => none
    match number with
    | some n => send n rest
    | none =>
      let (given, operands) ← optionsBy ⟨"ls:", "", false⟩ "kill" args
      if given.has 'l' then nameSignals operands
      else match given.argument? 's' with
        | some name =>
          match signal? false name with
          | some n => send n operands
          | none => refuseSignal name
        | none => send 15 operands

def kill (args : List String) : Sh Nat := do
  if !(← isExtended) then killPlainly args
  else
    let send (signal : Nat) (rest : List String) : Sh Nat :=
      if rest.isEmpty then killUsage else signalAll signal rest
    let sendNamed (name : String) (rest : List String) : Sh Nat := do
      match (signal? true name).filter (· < Shell.failureEvent) with
      | some n => send n (if rest.head? = some "--" then rest.tail else rest)
      | none => refuseSignal name
    match args with
    | [] => killUsage
    | "-l" :: rest | "-L" :: rest => nameSignals rest
    | "--" :: rest => send 15 rest
    | "-s" :: rest | "-n" :: rest =>
      match rest with
      | name :: rest => sendNamed name rest
      | [] =>
        complain ("kill: " ++ args.headD "" ++ ": option requires an argument")
        pure 1
    | arg :: rest =>
      match arg.toList with
      | ['-', '?'] => killUsage
      | ['-'] => refuseSignal ""
      | '-' :: c :: cs =>
        if (c = 's' || c = 'n') && (signal? true (String.ofList (c :: cs))).isNone then
          sendNamed (String.ofList cs) rest
        else sendNamed (String.ofList (c :: cs)) rest
      | _ => send 15 args

def trapLines : Sh String := do
  let s ← get
  let order := (s.traps.filter (·.1 = 0)) ++
    (List.range (Shell.returnEvent + 1)).flatMap fun n =>
      s.traps.filter fun t => t.1 = n && n ≠ 0
  pure ("".intercalate (order.map fun (n, action) =>
    "trap -- " ++ quotedText s.dialect action ++ " " ++
      (if s.dialect = .extended then shownSignal n else signalName n) ++ "\n"))

def trap (given : Givens) (args : List String) : Sh Nat := do
  let extended ← isExtended
  if given.has 'l' then return ← emitText signalTable
  match args with
  | [] => emitText (← trapLines)
  | first :: rest =>
    if given.has 'p' then
      let lines ← trapLines
      for arg in args do
        if (signal? true arg).isNone then
          complain ("trap: " ++ arg ++ ": invalid signal specification")
          return 1
      let wanted := args.filterMap (signal? true)
      let chosen := (lines.splitOn "\n").filter fun line =>
        wanted.any fun n => (" " ++ shownSignal n).toList.isSuffixOf line.toList
      return ← emitText ("".intercalate (chosen.map (· ++ "\n")))
    let isNumber := !first.isEmpty && first.toList.all Text.isDigit &&
      (Decimal.value first.toList ≤ 64)
    let resets := first = "-" || rest.isEmpty || isNumber
    if extended && rest.isEmpty && (signal? true first).isNone then
      say 2 "trap: usage: trap [-lp] [[arg] signal_spec ...]\n"
      return 2
    let names := if rest.isEmpty || (resets && first ≠ "-") then args else rest
    let mut status := 0
    for name in names do
      match signal? extended name with
      | none =>
        if extended then complain ("trap: " ++ name ++ ": invalid signal specification")
        else say 2 ("trap: " ++ name ++ ": bad trap\n")
        status := 1
        if !extended then return 1
      | some n =>
        let others := (← get).traps.filter (·.1 ≠ n)
        modify fun s => { s with traps := if resets then others else (n, first) :: others }
        if n ≠ 0 && n < Shell.failureEvent then
          let d : Disposition :=
            if resets then .standard else if first.isEmpty then .ignored else .noted
          let _ ← ask (.handle n d)
    pure status

/-! ## Limits -/

/-- A limit of what a process may use. -/
structure Limit where
  letter : Char
  title : String
  name : String
  factor : Nat := 1
  /-- What holds now; nothing if there is no limit. -/
  soft : Option Nat := none
  hard : Option Nat := none

def Limit.initial : List Limit :=
  [{ letter := 't', title := "time(seconds)", name := "cpu time" },
    { letter := 'f', title := "file(blocks)", name := "file size", factor := 512 },
    { letter := 'd', title := "data(kbytes)", name := "data seg size", factor := 1024 },
    { letter := 's', title := "stack(kbytes)", name := "stack size", factor := 1024
      soft := some 8388608 },
    { letter := 'c', title := "coredump(blocks)", name := "core file size", factor := 512
      soft := some 0 },
    { letter := 'm', title := "memory(kbytes)", name := "max memory size", factor := 1024 },
    { letter := 'l', title := "locked memory(kbytes)", name := "max locked memory"
      factor := 1024, soft := some 8388608, hard := some 8388608 },
    { letter := 'p', title := "process", name := "max user processes" },
    { letter := 'n', title := "nofiles", name := "open files", soft := some 1048576
      hard := some 1048576 },
    { letter := 'v', title := "vmemory(kbytes)", name := "virtual memory", factor := 1024 },
    { letter := 'w', title := "locks", name := "file locks" },
    { letter := 'r', title := "rtprio", name := "real-time priority", soft := some 0
      hard := some 0 }]

def Limit.text (l : Limit) (value : Option Nat) : String :=
  match value with
  | some n => Decimal.text (n / l.factor)
  | none => "unlimited"

def Limit.exceeds : Option Nat → Option Nat → Bool
  | _, none => false
  | none, some _ => true
  | some a, some b => b < a

def limit (given : Givens) (values : List String) : Sh Nat := do
  let extended ← isExtended
  let hard := given.has 'H'
  let soft := given.has 'S' || !hard
  let chosen (l : Limit) : Option Nat := if soft then l.soft else l.hard
  let known := (← get).limits
  let limits : List Limit := Limit.initial.map fun l =>
    match known.lookup l.letter with
    | some (soft, hard) => { l with soft, hard }
    | none => l
  let letter := (((given.map (·.letter)).filter fun c =>
    limits.any (·.letter = (if c = 'u' then 'p' else c))).getLast?).getD 'f'
  let some l := limits.find? (·.letter = (if letter = 'u' then 'p' else letter)) | return 0
  if given.has 'a' && values.isEmpty then
    let line (l : Limit) : String :=
      l.title ++ String.ofList (List.replicate (20 - l.title.length) ' ') ++ " " ++
        l.text (chosen l) ++ "\n"
    return ← emitText ("".intercalate (limits.map line))
  match values with
  | [] => emitText (l.text (chosen l) ++ "\n")
  | value :: more =>
    if (!more.isEmpty || given.has 'a') && !extended then fail "too many arguments"
    let isNumber := value.toList.all Text.isDigit
    let wanted ← if value = "unlimited" then pure none
      else if extended && value = "hard" then pure l.hard
      else if extended && value = "soft" then pure l.soft
      else if isNumber then pure (some (Decimal.value value.toList * l.factor))
      else if extended then
        complain ("ulimit: " ++ value ++ ": invalid number")
        return 1
      else fail "bad number"
    let both := !given.has 'H' && !given.has 'S'
    let new : Limit :=
      { l with
        soft := if soft then wanted else l.soft
        hard := if hard || both then wanted else l.hard }
    let refuse (e : OsError) : Sh Nat := do
      if extended then
        complain ("ulimit: " ++ l.name ++ ": cannot modify limit: " ++ e.reason)
        pure 1
      else fail ("error setting limit (" ++ e.reason ++ ")")
    if Limit.exceeds new.soft new.hard then refuse .invalidArgument
    else if Limit.exceeds new.hard l.hard then refuse .notPermitted
    else
      modify fun s => { s with
        limits := (l.letter, new.soft, new.hard) :: s.limits.filter (·.1 ≠ l.letter) }
      pure 0

end JobLaunch.Rehearsal.Script.Sh
