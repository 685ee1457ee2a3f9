import JobLaunch.Rehearsal.Script.Check
import JobLaunch.Rehearsal.Script.Simple

/-!
# Running commands

* `Sh.runPipeline`, `Sh.runLoop`, … — compound commands.
* `Sh.runCommand` — any command.
* `Sh.perform` — does a job.
-/

namespace JobLaunch.Rehearsal.Script.Sh

/-! ## Compound commands -/

def withoutInput : Sh Unit := do
  let _ ← ask (.close 0)
  match ← ask (.openFile "/dev/null" .input) with
  | .ok n =>
    if n ≠ 0 then
      let _ ← ask (.duplicate n 0)
      let _ ← ask (.close n)
  | .error _ => pure ()

def startPipeline (nested : Runner) (left : Bool) :
    Option Nat → List Command → List Pid → Sh (List Pid)
  | _, [], started => pure started.reverse
  | input, c :: rest, started => do
    let pipe ← if rest.isEmpty then pure none
      else match ← ask .pipe with
        | .ok p => pure (some p)
        | .error e => fail e.reason
    let p ← forkInner nested do
      match input with
      | some r =>
        let _ ← ask (.duplicate r 0)
        let _ ← ask (.close r)
      | none => if left then withoutInput
      match pipe with
      | some (r, w) =>
        let _ ← ask (.close r)
        if w ≠ 1 then
          let _ ← ask (.duplicate w 1)
          let _ ← ask (.close w)
      | none => pure ()
      nested.run c true false
    match input with
    | some r =>
      let _ ← ask (.close r)
    | none => pure ()
    match pipe with
    | some (_, w) =>
      let _ ← ask (.close w)
    | none => pure ()
    startPipeline nested left (pipe.map (·.1)) rest (p :: started)

def awaitAll : List Pid → Sh (List Nat)
  | [] => pure []
  | p :: rest => do
    let code ← await p
    return code :: (← awaitAll rest)

def runIntoLast (nested : Runner) (cs : List Command) : Sh (List Nat) := do
  match cs.getLast?, ← ask .pipe with
  | some last, .ok (r, w) =>
    let first : Command := match cs.dropLast with
      | [c] => c
      | cs => .pipeline cs
    let p ← forkInner nested do
      let _ ← ask (.close r)
      let _ ← ask (.duplicate w 1)
      let _ ← ask (.close w)
      nested.run first true false
    let _ ← ask (.close w)
    let kept ← keep 0 []
    let _ ← ask (.duplicate r 0)
    let _ ← ask (.close r)
    let code ← ensuring (nested.run last false false) (putBack kept)
    return [← await p, code]
  | _, _ => pure []

def runPipeline (nested : Runner) (cs : List Command) : Sh Nat := do
  let codes ← if ← isOn "lastpipe" then runIntoLast nested cs
    else awaitAll (← startPipeline nested false none cs [])
  modify fun s => { s with pipeCodes := codes }
  if ← isOn "pipefail" then pure ((codes.filter (· ≠ 0)).getLastD 0)
  else pure (codes.getLastD 0)

def runBackground (nested : Runner) (c : Command) : Sh Nat := do
  let started ← match c with
    | .pipeline cs => startPipeline nested true none cs []
    | c => do
      let p ← forkInner nested do
        withoutInput
        nested.run c true false
      pure [p]
  remember started c
  pure 0

def runSubshell (nested : Runner) (line : Nat) (body : Command) (rs : List Redirection)
    (last tested : Bool) : Sh Nat := do
  modify fun s => { s with line }
  let os ← allOpenings nested rs
  let inner : Sh Nat := do
    match ← redirect false os with
    | .ok _ => nested.run body true tested
    | .error text => fail text
  if last && !(← hasTraps) then inner else await (← forkInner nested inner)

inductive Round where
  | goesOn (code : Nat)
  | ends (code : Option Nat)

def round (m : Sh Round) : Sh Round := do
  match ← attempt m with
  | .ok r => pure r
  | .error (.leaveLoops n) => if n ≤ 1 then pure (.ends (some 0)) else throw (.leaveLoops (n - 1))
  | .error (.nextRound n) => if n ≤ 1 then pure (.goesOn 0) else throw (.nextRound (n - 1))
  | .error e => throw e

def asLoop (m : Sh Nat) : Sh Nat := do
  modify fun s => { s with loops := s.loops + 1 }
  ensuring m (modify fun s => { s with loops := s.loops - 1 })

def mostRounds : Nat := 1000000000

def roundsWithin (m : Sh Round) : Nat → Nat → Sh Nat
  | 0, code => pure code
  | n + 1, code => do
    let _ ← ask .pid
    match ← round m with
    | .goesOn code => roundsWithin m n code
    | .ends own => pure (own.getD code)

def runLoop (nested : Runner) (stopsAt : Bool) (test body : Command) (tested : Bool) : Sh Nat :=
  asLoop (roundsWithin (do
    let code ← nested.run test false true
    if (code = 0) = stopsAt then pure (.ends none)
    else return .goesOn (← nested.run body false tested)) mostRounds 0)

def runEach (nested : Runner) (name : String) (body : Command) (tested : Bool) :
    List String → Nat → Sh Nat
  | [], code => pure code
  | field :: rest, _ => do
    runBefore nested
    match ← attempt (give name field false) with
    | .ok () => pure ()
    | .error e => if ← isExtended then return 1 else throw e
    match ← round (do return .goesOn (← nested.run body false tested)) with
    | .goesOn code => runEach nested name body tested rest code
    | .ends own => pure (own.getD 0)

/-! ## Menus -/

def menuText (words : List String) : String :=
  let count := words.length
  let digits (n : Nat) : Nat := (Decimal.text n).length
  let width := words.foldl (fun n w => max n w.length) 0 + digits count + 4
  let upward (a b : Nat) : Nat := (a + b - 1) / b
  let cols := max 1 (80 / width)
  let rows := max 1 (upward count cols)
  let cols := upward count rows
  let (rows, cols) := if rows = 1 then (cols, 1) else (rows, cols)
  let cell (place n : Nat) (isLast : Bool) : List Char :=
    let room := if place = 0 then digits rows else digits count
    let number := Decimal.text (n + 1)
    let text := List.replicate (room - number.length) ' ' ++ number.toList ++ ") ".toList ++
      (words[n]?.getD "").toList
    if isLast then text else text ++ gap (width + 1) (place + text.length) (place + width)
  "".intercalate ((List.range rows).map fun row =>
    String.ofList ((List.range cols).flatMap fun col =>
      let n := row + col * rows
      if n < count then cell (col * width) n (count ≤ n + rows) else []) ++ "\n")
where
  gap : Nat → Nat → Nat → List Char
    | 0, _, _ => []
    | n + 1, start, stop =>
      if stop ≤ start then []
      else if start / 8 < stop / 8 then '\t' :: gap n (start + 8 - start % 8) stop
      else ' ' :: gap n (start + 1) stop

/-- Lets somebody choose among words again and again, at most so often. -/
def chooseWithin (nested : Runner) (name : String) (words : List String) (body : Command)
    (tested : Bool) : Nat → Bool → Nat → Sh Nat
  | 0, _, code => pure code
  | n + 1, shows, code => do
    if shows then say 2 (menuText words)
    say 2 ((← value? "PS3").getD "#? ")
    if (← readLine [] []) ≠ 0 then
      let _ ← emitText "\n"
      pure 1
    else
      let reply ← value "REPLY"
      if reply.isEmpty then chooseWithin nested name words body tested n true code
      else
        let cs := (Text.trim reply.toList)
        let chosen := if !cs.isEmpty && cs.all Text.isDigit && 0 < Decimal.value cs then
            words[Decimal.value cs - 1]?
          else none
        give name (chosen.getD "") false
        match ← round (do return .goesOn (← nested.run body false tested)) with
        | .goesOn code =>
          chooseWithin nested name words body tested n (← value "REPLY").isEmpty code
        | .ends own => pure (own.getD code)

/-! ## Times -/

def timeText (time digits : Nat) (withMinutes : Bool) : String :=
  let seconds := time / 1000000
  let parts := Decimal.text (time % 1000000)
  let parts := List.replicate (6 - parts.length) '0' ++ parts.toList
  let rest := if digits = 0 then "" else "." ++ String.ofList (parts.take digits)
  if withMinutes then
    Decimal.text (seconds / 60) ++ "m" ++ Decimal.text (seconds % 60) ++ rest ++ "s"
  else Decimal.text seconds ++ rest

/-- What is told about the time that a command took, in a format. -/
def fillTimes (real : Nat) : Nat → List Char → List Char
  | 0, _ => []
  | n + 1, cs =>
    match cs with
    | [] => []
    | '%' :: '%' :: rest => '%' :: fillTimes real n rest
    | '%' :: 'P' :: rest => "0.00".toList ++ fillTimes real n rest
    | '%' :: rest =>
      let (digits, rest) := rest.span Text.isDigit
      let (minutes, rest) := match rest with
        | 'l' :: rest => (true, rest)
        | rest => (false, rest)
      let digits := if digits.isEmpty then 3 else min 3 (Decimal.value digits)
      match rest with
      | 'R' :: rest => (timeText real digits minutes).toList ++ fillTimes real n rest
      | 'U' :: rest | 'S' :: rest => (timeText 0 digits minutes).toList ++ fillTimes real n rest
      | rest => '%' :: fillTimes real n rest
    | c :: rest => c :: fillTimes real n rest

def tellTime (portable : Bool) (real : Nat) : Sh Unit := do
  let usual := "\nreal\t%3lR\nuser\t%3lU\nsys\t%3lS"
  let own ← value? "TIMEFORMAT"
  let format := if portable then "real %2R\nuser %2U\nsys %2S" else own.getD usual
  if !format.isEmpty then
    say 2 (String.ofList (fillTimes real (format.length + 1) format.toList) ++ "\n")

/-- Runs what belongs to a text; the first body may be done in any case. -/
def runCases (nested : Runner) (text : List Char) (last tested : Bool) :
    List Case → Bool → Nat → Sh Nat
  | [], _, code => pure code
  | .mk patterns body after :: rest, taken, code => do
    let rec matching : List Word → Sh Bool
      | [] => pure false
      | w :: ws => do
        let p ← patternOf nested (← withHome w)
        if p.accepts ((← get).dialect.units text) then pure true else matching ws
    let chosen ← if taken then pure true else matching patterns
    if chosen then
      let code ← if body matches .empty then pure 0
        else nested.run body (last && after = .stop) tested
      match after with
      | .stop => pure code
      | .goOn => runCases nested text last tested rest false code
      | .fall => runCases nested text last tested rest true code
    else runCases nested text last tested rest false code

/-! ## All commands -/

def chosenFields (nested : Runner) : Option (List Word) → Sh (List String)
  | none => do return (← get).parameters
  | some ws => do
    let mut fields := []
    for w in ws do fields := fields ++ (← fieldsOf nested w)
    pure fields

/-- Complains about the name of a loop variable, if a large shell knows that it cannot be one. -/
def refuseLoopName (name : String) : Sh Bool := do
  if isName name.toList then pure false
  else
    complain ("\x60" ++ name ++ "': not a valid identifier")
    pure true

def runCommand (nested : Runner) (c : Command) (last tested : Bool) : Sh Nat := do
  let checked (m : Sh Nat) : Sh Nat := do
    let code ← m
    setStatus code
    runTraps nested
    checkFailure nested tested code
    pure code
  match c with
  | .empty => return (← get).status
  | .simple line assignments words rs =>
    let streams := (← get).streams
    checked do
      modify fun s => { s with line }
      runBefore nested
      let code ← runSimple nested line assignments words rs last tested
      closeStreams streams
      modify fun s => { s with pipeCodes := [code] }
      pure code
  | .pipeline cs => checked (runPipeline nested cs)
  | .subshell line body rs => checked (runSubshell nested line body rs last tested)
  | .negated c => do
    let code ← nested.run c false true
    pure (if code = 0 then 1 else 0)
  | .sequence a b => do
    let _ ← nested.run a false tested
    nested.run b last tested
  | .both a b => do
    let code ← nested.run a false true
    if code = 0 then nested.run b last tested else pure code
  | .either a b => do
    let code ← nested.run a false true
    if code = 0 then pure code else nested.run b last tested
  | .background c => runBackground nested c
  | .redirected line c rs => do
    modify fun s => { s with line }
    let refused : Sh Nat := checked (do return if ← isExtended then 1 else 2)
    let streams := (← get).streams
    let code ← withStreams nested rs (nested.run c false tested) refused
    closeStreams streams
    pure code
  | .conditional test yes no => do
    let code ← nested.run test false true
    if code = 0 then nested.run yes last tested
    else if no matches .empty then pure 0
    else nested.run no last tested
  | .loop stopsAt test body => runLoop nested stopsAt test body tested
  | .each line name words body => do
    modify fun s => { s with line }
    if ← refuseLoopName name then return 1
    let fields ← chosenFields nested words
    asLoop (runEach nested name body tested fields 0)
  | .menu line name words body => do
    modify fun s => { s with line }
    if ← refuseLoopName name then return 1
    let fields ← chosenFields nested words
    if fields.isEmpty then pure 0
    else asLoop (chooseWithin nested name fields body tested mostRounds true 0)
  | .timed portable c => do
    let start : Nat ← ask .time
    let code ← nested.run c false tested
    let finish : Nat ← ask .time
    tellTime portable (finish - start)
    pure code
  | .select line word cases => do
    modify fun s => { s with line }
    runBefore nested
    let text ← textOf nested (← withHome word)
    runCases nested text.toList last tested cases false 0
  | .function _ name body => do
    modify fun s =>
      let standard := match s.origin with
        | some 'c' => some "environment"
        | some 's' => some "main"
        | _ => none
      { s with functions := s.functions.insert name ⟨body, s.title.or standard⟩ }
    pure 0
  | .calculation line expression => checked do
      modify fun s => { s with line }
      runBefore nested
      let v ← calculate? (← textOf nested expression).toList "((: "
      pure (if v.getD 0 = 0 then 1 else 0)
  | .counting line start test step body => do
    modify fun s => { s with line }
    let value? (w : Word) (otherwise : Int64) : Sh (Option Int64) := do
      let text ← textOf nested w
      if Text.isBlankText text then pure (some otherwise) else calculate? text.toList "((: "
    if (← value? start 0).isNone then return 1
    asLoop (roundsWithin (do
      match ← value? test 1 with
      | none => pure (.ends (some 1))
      | some 0 => pure (.ends none)
      | some _ =>
        match ← round (do return .goesOn (← nested.run body false tested)) with
        | .ends own => pure (.ends own)
        | .goesOn code =>
          if (← value? step 0).isNone then pure (.ends (some 1)) else pure (.goesOn code))
      mostRounds 0)
  | .check line words => checked do
      modify fun s => { s with line }
      runBefore nested
      let (b, _) ← checkWithin nested (8 * words.length + 8) .either true words
      pure (if b then 0 else 1)

def runAny (nested : Runner) (c : Command) (last tested : Bool) : Sh Nat := do
  if ← isOn "noexec" then pure 0
  else
    let code ← runCommand nested c last tested
    setStatus code
    pure code

def perform : Nat → Runner
  | 0, .run .. => fail "out of memory"
  | 0, .expand .. => fail "out of memory"
  | n + 1, .run c last tested => runAny (perform n) c last tested
  | n + 1, .expand w inParameter => expandParts (perform n) inParameter w

end JobLaunch.Rehearsal.Script.Sh
