import JobLaunch.Rehearsal.Script.Grammar
import JobLaunch.Rehearsal.Script.Pattern
import JobLaunch.Rehearsal.Script.Shell

/-!
# What a shell does

* `Job`, `Runner` — running commands and expanding words, each of which may need the other.
* `Item` — what a word becomes before it is cut into fields.
* `Sh.runText` — runs the commands of a text.
* `Sh.toProgram`, `Sh.forkInner` — a shell as a program, and shells inside shells.
-/

namespace JobLaunch.Rehearsal.Script

/-- What a word becomes before it is cut into fields. -/
inductive Item where
  | glyph (g : Glyph)
  | present
  | boundary
  deriving DecidableEq, Inhabited

inductive Job where
  /-- Runs a command. If it is the last one, a program may take the place of the shell; if it is
  tested, its failure is no mistake. -/
  | run (c : Command) (last tested : Bool)
  | expand (w : Word) (inParameter : Bool)

def Job.Result : Job → Type
  | run .. => Nat
  | expand .. => List Item

abbrev Runner := (j : Job) → Sh j.Result

def Runner.run (nested : Runner) (c : Command) (last tested : Bool) : Sh Nat :=
  nested (.run c last tested)

def Runner.expand (nested : Runner) (w : Word) (inParameter : Bool) : Sh (List Item) :=
  nested (.expand w inParameter)

namespace Sh

/-! ## Texts -/

def lineOf (whole : List Char) (line : Nat) : List Char :=
  ((whole.splitOn '\n').drop (line - 1)).headD []

def tokenBefore (text : List Char) (offset : Nat) : List Char :=
  let isBlank (c : Char) : Bool := c = ' ' || c = '\t'
  let before := ((text.take (offset + 1)).reverse.dropWhile isBlank)
  match before with
  | [] => []
  | last :: more =>
    let isSeparator (c : Char) : Bool := " \t;|&".toList.contains c
    if isSeparator last then [last]
    else (last :: more.takeWhile (!isSeparator ·)).reverse

/-- What a large shell says about a script that cannot be read. -/
def refusals (f : Fault) (whole : List Char) (s : Source) : List (Nat × String) :=
  let last := if whole.getLast? == some '\n' then s.line else s.line + 1
  match f with
  | .unexpected .ending _ => [(last, "syntax error: unexpected end of file")]
  | .unendingCommand => [(last, "unexpected EOF while looking for matching \x60)'")]
  | .unexpected t _ =>
    let raw := s.beforeToken.take (s.beforeToken.length - s.rest.length)
    let (line, shown) := match t with
      | .newline => (s.line - 1, "newline")
      | _ => (s.line, String.ofList raw)
    [(line, "syntax error near unexpected token \x60" ++ shown ++ "'"),
      (line, "\x60" ++ String.ofList (lineOf whole line) ++ "'")]
  | .unterminatedQuote q line =>
    [(line, "unexpected EOF while looking for matching \x60" ++ String.ofList [q] ++ "'")]
  | .missingBrace line => [(line, "unexpected EOF while looking for matching \x60\x7d'")]
  | .missingParens line => [(line, "unexpected EOF while looking for matching \x60)'")]
  | .unterminatedOutput line =>
    [(line, "unexpected EOF while looking for matching \x60\x60'")]
  | .loopVariable text | .functionName text =>
    [(s.line, "\x60" ++ text ++ "': not a valid identifier")]
  | .badTest reasons line =>
    let text := lineOf whole line
    let offset := (whole.length - s.rest.length) -
      ((whole.splitOn '\n').take (line - 1)).foldl (fun n l => n + l.length + 1) 0
    reasons.map (line, ·) ++
      [(line, "syntax error near \x60" ++ String.ofList (tokenBefore text offset) ++ "'"),
        (line, "\x60" ++ String.ofList text ++ "'")]
  | .tooDeep => [(s.line, "memory exhausted")]

def refuseSource {α : Type} (origin : String) (f : Fault) (whole : List Char) (s : Source) :
    Sh α := do
  modify fun h => { h with line := s.line }
  match s.dialect with
  | .plain => fail ("Syntax error: " ++ f.message)
  | .extended =>
    let name := (← get).name
    for (line, text) in refusals f whole s do
      say 2 (name ++ ": " ++ origin ++ "line " ++ Decimal.text line ++ ": " ++ text ++ "\n")
    setStatus 2
    throw .failure

def warn (warnings : List (Nat × String)) : Sh Unit := do
  let s ← get
  for (line, text) in warnings do
    say 2 (s.title.getD s.name ++ ": line " ++ Decimal.text line ++ ": warning: " ++ text ++ "\n")

/-- Runs the commands of a script, which are at most so many. The status is that of the last one. -/
def runSource (nested : Runner) (last tested : Bool) (origin : String) (whole : List Char) :
    Nat → Nat → Source → Sh Nat
  | 0, status, _ => pure status
  | n + 1, status, s =>
    match s.next? with
    | (.error f, s) => do
      warn s.warnings
      refuseSource origin f whole s
    | (.ok none, _) => pure status
    | (.ok (some c), s) => do
      warn s.warnings
      modify fun h => { h with documents := s.documents }
      let isEmpty := c matches .empty
      let status ← if isEmpty then pure status
        else match ← attempt (nested.run c (last && (s.pushed matches some .ending)) tested) with
          | .ok code => pure code
          | .error .givenUp =>
            -- Shells inside others end.
            if (← get).isInner then throw .givenUp else pure 1
          | .error e => throw e
      if !isEmpty then setStatus status
      runSource nested last tested origin whole n status { s with
        documents := (← get).documents, warnings := [] }

def runText (nested : Runner) (last tested : Bool) (origin text : String) (line : Nat := 1) :
    Sh Nat := do
  let s ← get
  let cs := text.toList
  runSource nested last tested origin cs (cs.length + 2) 0
    { dialect := s.dialect, rest := cs, line, documents := s.documents }

/-! ## Ends -/

def atEnd (nested : Runner) : Sh Unit := do
  match (← get).traps.lookup 0 with
  | none | some "" => pure ()
  | some action =>
    modify fun s => { s with traps := s.traps.filter (·.1 ≠ 0), loops := 0 }
    let status := (← get).status
    match ← attempt (runText nested false false "" action) with
    | .error .exit | .error .failure => pure ()
    | _ => setStatus status

def toProgram (nested : Runner) (m : Sh Nat) (s : Shell) : Program :=
  let whole : Sh Nat := do
    match ← attempt m with
    | .ok code => setStatus code
    | .error _ => pure ()
    atEnd nested
    return (← get).status
  (StateT.run (ExceptT.run whole) s) fun (r, _) =>
    .finish (.exit ((match r with
      | .ok code => code
      | .error _ => 2) % 256))

def forgetTraps : Sh Unit := do
  let kept := (← get).traps.filter (·.2.isEmpty)
  for (signal, action) in (← get).traps do
    if signal ≠ 0 && signal < Shell.failureEvent && !action.isEmpty then
      let _ ← ask (.handle signal .standard)
  modify fun s => { s with traps := kept }

def forkInner (nested : Runner) (m : Sh Nat) : Sh Pid := do
  let s ← get
  let inner : Sh Nat := do
    forgetTraps
    m
  lift (Routine.fork (toProgram nested inner { s with depth := s.depth + 1, errands := [] }))

/-! ## Waiting -/

def notice (signal : Nat) : Sh Unit := do
  if signal ≠ 2 && signal ≠ Signal.brokenPipe then
    match Signal.find? signal with
    | some s => say 2 (s.notice ++ "\n")
    | none => pure ()

def modifyErrand (number : Nat) (f : Errand → Errand) : Sh Unit :=
  modify fun s => { s with
    errands := s.errands.map fun e => if e.number = number then f e else e }

/-- Takes note of commands that were left running and have ended. -/
def noteEnded : Sh Unit := do
  for e in (← get).errands do
    if e.outcome.isNone || 1 < e.pids.length then
      for p in e.pids do
        match ← ask (.wait (some p) false) with
        | .ended _ o =>
          if some p = e.pids.getLast? then
            modifyErrand e.number fun e => { e with outcome := some o }
        | _ => pure ()

/-- Waits for a child, even if signals arrive, at most so often. Others that have ended meanwhile
are noted too. -/
def awaitWithin (p : Pid) : Nat → List Nat → Sh (Option Outcome)
  | 0, _ => pure none
  | n + 1, arrived => do
    match ← ask (.wait (some p) true) with
    | .ended _ o =>
      modify fun s => { s with pending := s.pending ++ arrived }
      noteEnded
      pure (some o)
    | .interrupted => do
      let more : List Nat ← ask .arrived
      awaitWithin p n (arrived ++ more)
    | .none | .childless =>
      modify fun s => { s with pending := s.pending ++ arrived }
      pure none

/-- Waits for a child, and says how it ended if that was unusual. -/
def await (p : Pid) : Sh Nat := do
  match ← awaitWithin p 1000000 [] with
  | some (.signal n) =>
    notice n
    pure (128 + n)
  | some o => pure o.shellCode
  | none => pure 0

end Sh

end JobLaunch.Rehearsal.Script
