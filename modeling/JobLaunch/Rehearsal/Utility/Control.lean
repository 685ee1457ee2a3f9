import JobLaunch.Rehearsal.Format
import JobLaunch.Rehearsal.Signal
import JobLaunch.Rehearsal.Utility.Options
import JobLaunch.Rehearsal.Utility.Quoting

/-!
# Utilities that start others

* `Utility.executeFound` — starts a program that is looked for.
* `Utility.sleep` — lets time pass.
* `Utility.env`, `Utility.nohup` — start a program in place of themselves.
* `Utility.timeout` — starts a program and waits for it.
-/

namespace JobLaunch.Rehearsal.Utility

/-! ## Starting programs -/

def standardPath : String := "/bin:/usr/bin"

/-- A name in a directory; the empty one is the working directory. -/
def inDirectory (directory name : String) : String :=
  if directory.isEmpty then name
  else if directory.toList.getLast? == some '/' then directory ++ name
  else directory ++ "/" ++ name

/-- Starts a program from one of several paths. A file that is no program is a script. -/
def executeFrom (words : List String) (environment : List (String × String)) (error : OsError) :
    List String → Routine OsError
  | [] => pure error
  | path :: rest => do
    match ← Routine.execute ⟨path, words, environment⟩ with
    | .badFormat => Routine.execute ⟨"/bin/sh", "/bin/sh" :: path :: words.tail, environment⟩
    | .notFound | .notADirectory => executeFrom words environment error rest
    | .permissionDenied => executeFrom words environment .permissionDenied rest
    | e => pure e

/-- Starts a program that is looked for where the environment says. -/
def executeFound (words : List String) (environment : List (String × String)) : Routine OsError :=
  let name := words.headD ""
  if name.toList.contains '/' || name.isEmpty then executeFrom words environment .notFound [name]
  else
    let path := (environment.lookup "PATH").getD standardPath
    executeFrom words environment .notFound
      (((path.toList.splitOn ':').map String.ofList).map (inDirectory · name))

def refusalCode (e : OsError) : Nat := if e = .notFound then 127 else 126

/-! ## Time -/

/-- The microseconds of a duration, which is a number with a unit. -/
def duration? (text : String) : Option Nat :=
  let cs := text.toList
  let unit? (c : Char) : Option Nat := match c with
    | 's' => some 1
    | 'm' => some 60
    | 'h' => some 3600
    | 'd' => some 86400
    | _ => none
  let (number, unit) := match cs.getLast?.bind unit? with
    | some u => (cs.dropLast, u)
    | none => (cs, 1)
  let word := String.ofList (number.map Char.toLower)
  if word = "inf" || word = "infinity" then some (Format.tens 15)
  else
    match Format.places {} (String.ofList number) with
    | (v, none) =>
      if number.isEmpty || (v.negative && v.digits ≠ 0) then none
      else
        let n := v.digits * unit * 1000000
        let d := Format.tens v.places
        some ((n + d - 1) / d)
    | (_, some _) => none

def sleep (args : List String) : Work Unit := do
  let (_, operands) ← options [] true 1 args
  if operands.isEmpty then misused 1 "missing operand"
  let mut total := 0
  let mut isRight := true
  for operand in operands do
    match duration? operand with
    | some d => total := total + d
    | none =>
      complain ("invalid time interval " ++ Quoting.typographic operand)
      isRight := false
  if !isRight then
    say ("Try '" ++ (← get).name ++ " --help' for more information.\n")
    leave 1
  ask (.pause total)

/-! ## Environments -/

/-- Splits a text into words at blanks; quotes and escapes are understood, and names of variables in
braces. The word that is under way is reversed. -/
def splitWords (environment : List (String × String)) :
    Nat → List Char → Option Char → Option (List Char) → List (List Char)
  | 0, _, _, word => word.toList.map List.reverse
  | _, [], _, word => word.toList.map List.reverse
  | n + 1, c :: cs, quote, word =>
    let add (ds : List Char) : Option (List Char) := some (ds.reverse ++ word.getD [])
    match c, quote with
    | '\'', some '\'' | '"', some '"' => splitWords environment n cs none (add [])
    | '\'', none | '"', none => splitWords environment n cs (some c) (add [])
    | '\\', _ =>
      match cs with
      | [] => splitWords environment n [] quote (add ['\\'])
      | d :: rest =>
        if quote = some '\'' && d != '\'' && d != '\\' then
          splitWords environment n cs quote (add ['\\'])
        else
          let meant := match d with
            | '_' => if quote.isSome then [' '] else []
            | 'f' => ['\x0c']
            | 'n' => ['\n']
            | 'r' => ['\r']
            | 't' => ['\t']
            | 'v' => ['\x0b']
            | d => [d]
          if d == 'c' then splitWords environment n [] quote word
          else if d == '_' && quote.isNone then
            word.toList.map List.reverse ++ splitWords environment n rest none none
          else splitWords environment n rest quote (add meant)
    | '$', some '\'' => splitWords environment n cs quote (add ['$'])
    | '$', _ =>
      match cs with
      | '\x7b' :: rest =>
        let name := rest.takeWhile (· ≠ '\x7d')
        let value := (environment.lookup (String.ofList name)).getD ""
        splitWords environment n (rest.drop (name.length + 1)) quote (add value.toList)
      | _ => splitWords environment n cs quote (add ['$'])
    | c, none =>
      if c == ' ' || c == '\t' || c == '\n' || c == '\x0b' || c == '\x0c' || c == '\r' then
        word.toList.map List.reverse ++ splitWords environment n cs none none
      else if c == '#' && word.isNone then []
      else splitWords environment n cs none (add [c])
    | c, some _ => splitWords environment n cs quote (add [c])

def wordsOf (environment : List (String × String)) (text : String) : List String :=
  (splitWords environment (text.length + 1) text.toList none none).map String.ofList

/-- Puts words in the place of an option that holds them in one text. -/
def splitOptions (environment : List (String × String)) : Nat → List String → List String
  | 0, args => args
  | _, [] => []
  | n + 1, arg :: rest =>
    match arg.toList with
    | '-' :: '-' :: text =>
      match Text.afterStart? "split-string=".toList text with
      | some text => splitOptions environment n (wordsOf environment (String.ofList text) ++ rest)
      | none =>
        if text = "split-string".toList then
          match rest with
          | text :: rest => splitOptions environment n (wordsOf environment text ++ rest)
          | [] => [arg]
        else if text.isEmpty then arg :: rest
        else if text = "unset".toList || text = "chdir".toList then
          arg :: rest.take 1 ++ splitOptions environment n (rest.drop 1)
        else arg :: splitOptions environment n rest
    | '-' :: letters =>
      let before := letters.takeWhile "iv0".toList.contains
      match letters.drop before.length with
      | 'S' :: text =>
        let kept := if before.isEmpty then [] else [String.ofList ('-' :: before)]
        let (text, rest) := if text.isEmpty then (rest.headD "", rest.drop 1)
          else (String.ofList text, rest)
        kept ++ splitOptions environment n (wordsOf environment text ++ rest)
      | ['u'] | ['C'] => arg :: rest.take 1 ++ splitOptions environment n (rest.drop 1)
      | _ => arg :: splitOptions environment n rest
    | _ => arg :: rest

def envForms : List OptionForm :=
  [.flag 'i' "ignore-environment", .flag '0' "null", .taking 'u' "unset", .taking 'C' "chdir",
    .named 'd' "default-signal" .optional, .named 'I' "ignore-signal" .optional,
    .named 'b' "block-signal" .optional, .named 'l' "list-signal-handling" .none,
    .flag 'v' "debug", .taking 'S' "split-string", .named 'h' "help" .none,
    .named 'V' "version" .none]

def withVariable (environment : List (String × String)) (name value : String) :
    List (String × String) :=
  if environment.any (·.1 = name) then
    environment.map fun v => if v.1 = name then (name, value) else v
  else environment ++ [(name, value)]

def assignment? (word : String) : Option (String × String) :=
  let name := word.toList.takeWhile (· ≠ '=')
  if name.length < word.length then
    some (String.ofList name, String.ofList (word.toList.drop (name.length + 1)))
  else none

def env (args : List String) : Work Unit := do
  let old := (← get).environment
  let (given, operands) ← options envForms true 125
    (splitOptions old (args.length + 100) args)
  let own := (← get).name
  let tell (text : String) : Work Unit := if isGiven given 'v' then say (text ++ "\n") else pure ()
  let bare := operands.head? = some "-"
  let operands := if bare then operands.tail else operands
  let isZero := isGiven given '0'
  let cleans := isGiven given 'i' || bare
  if cleans then tell "cleaning environ"
  let mut environment := if cleans then [] else old
  for (c, arg) in given do
    if c == 'u' then
      let name := arg.getD ""
      if !cleans then
        tell ("unset:    " ++ name)
        if name.isEmpty || name.toList.contains '=' then
          fail 125 ("cannot unset " ++ Quoting.typographic name ++ ": " ++
            OsError.invalidArgument.reason)
        environment := environment.filter (·.1 ≠ name)
  let settings := operands.takeWhile fun w => w.toList.contains '='
  for setting in settings do
    match assignment? setting with
    | some (name, value) =>
      tell ("setenv:   " ++ setting)
      environment := withVariable environment name value
    | none => pure ()
  let command := operands.drop settings.length
  if isZero && !command.isEmpty then misused 125 "cannot specify --null (-0) with command"
  match argument? given 'C' with
  | some directory =>
    if command.isEmpty then misused 125 "must specify command with --chdir (-C)"
    tell ("chdir:    " ++ Quoting.shell directory)
    match ← ask (.changeDirectory directory) with
    | .ok () => pure ()
    | .error e =>
      fail 125 ("cannot change directory to " ++ Quoting.shell directory ++ ": " ++ e.reason)
  | none => pure ()
  match command with
  | [] =>
    for (name, value) in environment do
      printText (name ++ "=" ++ value ++ if isZero then "\x00" else "\n")
  | program :: _ =>
    tell ("executing: " ++ program)
    for (word, i) in command.zipIdx do
      tell ("   arg[" ++ Decimal.text i ++ "]= " ++ Quoting.typographic word)
    let e ← lift (executeFound command environment)
    complain (Quoting.typographic program ++ ": " ++ e.reason)
    if e = .notFound && program.toList.contains ' ' then
      say (own ++ ": use -[v]S to pass options in shebang lines\n")
    leave (refusalCode e)

/-- Starts a program that does not end when its terminal is closed. -/
def nohup (args : List String) : Work Unit := do
  let (_, operands) ← options [] true 125 args
  match operands with
  | [] => misused 125 "missing operand"
  | program :: _ =>
    let _ ← ask (.handle 1 .ignored)
    let e ← lift (executeFound operands (← get).environment)
    complain ("failed to run command " ++ Quoting.shell program ++ ": " ++ e.reason)
    leave (refusalCode e)

/-! ## Children -/

def child (words : List String) (environment : List (String × String)) (text : OsError → String) :
    Program :=
  Routine.toProgram do
    let e ← executeFound words environment
    Routine.say 2 (text e)
    pure (refusalCode e)

/-- Waits for a child, but not longer than until a time; looks once in a millisecond. -/
def awaitUntil (p : Pid) (limit : Option Nat) : Nat → Routine (Option Outcome)
  | 0 => pure none
  | n + 1 => do
    match ← Routine.ask (.wait (some p) limit.isNone) with
    | .ended _ o => pure (some o)
    | .childless => pure none
    | .none | .interrupted =>
      let now : Nat ← Routine.ask .time
      if limit.any (· ≤ now) then pure none
      else
        Routine.ask (.pause 1000)
        awaitUntil p limit n

/-- How a program runs under `timeout`. -/
structure Watch where
  words : List String
  process : Pid
  signal : Nat
  later : Option Nat
  deadline : Option Nat
  isLate : Bool := false
  isVerbose : Bool
  isForeground : Bool

/-- What happens to a program that is watched. -/
inductive WatchEvent where
  | ended (outcome : Outcome)
  | late
  | arrived (signal : Nat)

/-- Waits for what happens next; looks once in a millisecond if there is a time. -/
def Watch.next (w : Watch) : Nat → Routine WatchEvent
  | 0 => pure (.ended (.exit 0))
  | n + 1 => do
    match ← Routine.ask (.wait (some w.process) w.deadline.isNone) with
    | .ended _ o => pure (.ended o)
    | .childless => pure (.ended (.exit 0))
    | .interrupted =>
      let signals : List Nat ← Routine.ask .arrived
      match signals.find? (· ≠ Signal.childEnded) with
      | some s => pure (.arrived s)
      | none => w.next n
    | .none =>
      let now : Nat ← Routine.ask .time
      if w.deadline.any (· ≤ now) then pure .late
      else
        Routine.ask (.pause 1000)
        w.next n

/-- Passes a signal on to a program, and to the group to which its children belong. If it does not
end then it is killed later. -/
def Watch.pass (w : Watch) (signal : Nat) : Work Watch := do
  let now : Nat ← ask .time
  let next := match w.later with
    | some later =>
      { w with signal := Signal.kill, deadline := some (now + later), later := none }
    | none => if w.isLate then { w with deadline := none } else w
  if w.isVerbose then
    complain ("sending signal " ++ (((Signal.find? signal).map (·.name)).getD
      (Decimal.text signal)) ++ " to command " ++ Quoting.typographic (w.words.headD ""))
  let _ ← ask (.kill w.process signal)
  if !w.isForeground then
    let _ ← ask (.handle signal .ignored)
    let _ ← ask (.killGroup none signal)
    if signal ≠ Signal.kill && signal ≠ Signal.goOn then
      let _ ← ask (.kill w.process Signal.goOn)
      let _ ← ask (.killGroup none Signal.goOn)
  pure next

/-- Watches a program until it ends, and tells how it did and if it was late. -/
def Watch.run (w : Watch) : Nat → Work (Outcome × Bool)
  | 0 => pure (.exit 0, w.isLate)
  | n + 1 => do
    match ← lift (w.next 100000000) with
    | .ended o => pure (o, w.isLate)
    | .late => do
      let w ← { w with isLate := true }.pass w.signal
      w.run n
    | .arrived s => do
      let w ← w.pass s
      w.run n

def timeout (args : List String) : Work Unit := do
  let (given, operands) ← options
    [.taking 'k' "kill-after", .taking 's' "signal", .flag 'v' "verbose",
      .named 'p' "preserve-status" .none, .named 'f' "foreground" .none] true 125 args
  let time (text : String) : Work Nat := do
    match duration? text with
    | some d => pure d
    | none => misused 125 ("invalid time interval " ++ Quoting.typographic text)
  let signal ← match argument? given 's' with
    | none => pure 15
    | some name =>
      let upper := String.ofList (name.toList.map Char.toUpper)
      match (Signal.number? upper).or
          ((Text.afterStart? "SIG".toList upper.toList).bind fun cs =>
            Signal.named? (String.ofList cs))
      with
      | some n => pure n
      | none => misused 125 (Quoting.typographic name ++ ": invalid signal")
  let later ← (argument? given 'k').mapM time
  match operands with
  | limit :: program :: rest =>
    let limit ← time limit
    let { name := own, environment, .. } ← get
    let isForeground := isGiven given 'f'
    if !isForeground then ask .lead
    for s in [1, 2, 3, 15, signal, Signal.childEnded] do
      let _ ← ask (.handle s .noted)
    let words := program :: rest
    let process ← lift (Routine.fork (child words environment fun e =>
      own ++ ": failed to run command " ++ Quoting.typographic program ++ ": " ++ e.reason ++ "\n"))
    let now : Nat ← ask .time
    let (outcome, isLate) ← Watch.run
      { words, process, signal, later, isVerbose := isGiven given 'v', isForeground
        deadline := if limit = 0 then none else some (now + limit) } 1000000
    match outcome with
    | .signal n =>
      if !isLate then lift (Routine.finish outcome)
      else if n = Signal.kill || isGiven given 'p' then leave (128 + n)
      else leave 124
    | .exit code => if isLate && !isGiven given 'p' then leave 124 else leave code
  | _ =>
    advise
    leave 125

/-! ## Signals -/

def kill (args : List String) : Work Unit := do
  let named (text : String) : Option Nat :=
    let upper := String.ofList (text.toList.map Char.toUpper)
    (Signal.number? upper).or
      ((Text.afterStart? "SIG".toList upper.toList).bind fun cs => Signal.named? (String.ofList cs))
  let (signal, targets) ← match args with
    | "-s" :: name :: rest =>
      match named name with
      | some n => pure (n, rest)
      | none => fail 1 ("unknown signal name " ++ name)
    | arg :: rest =>
      match arg.toList with
      | '-' :: c :: cs =>
        match named (String.ofList (c :: cs)) with
        | some n => pure (n, rest)
        | none => fail 1 ("unknown signal name " ++ String.ofList (c :: cs))
      | _ => pure (15, args)
    | [] => fail 1 "not enough arguments"
  for target in targets do
    if target.isEmpty || !target.toList.all Text.isDigit then
      complain ("failed to parse argument: '" ++ target ++ "'")
      setCode 1
    else match ← ask (.kill (Decimal.value target.toList) signal) with
      | .ok () => pure ()
      | .error e =>
        complain ("(" ++ target ++ "): " ++ e.reason)
        setCode 1

end JobLaunch.Rehearsal.Utility
