import JobLaunch.Rehearsal.Utility.Reading

/-!
# Utilities that show parts of files

* `Utility.head` — the starts of files.
* `Utility.tail` — the ends of files, and what is written behind them.
-/

namespace JobLaunch.Rehearsal

structure FilePart where
  count : Nat := 10
  inBytes : Bool := false
  isOther : Bool := false
  titles : Option Bool := none
  stop : UInt8 := Utility.lineFeed
  deriving DecidableEq, Inhabited

namespace FilePart

open Utility

def forms : List OptionForm :=
  [.taking 'n' "lines", .taking 'c' "bytes", .flag 'q' "quiet", .named 'Q' "silent" .none,
    .flag 'v' "verbose", .flag 'z' "zero-terminated"] ++
  "0123456789".toList.map fun c => .flag c ""

def number (inBytes : Bool) (text : String) : Work Nat := do
  let wrong {α : Type} (why : String) : Work α :=
    fail 1 ("invalid number of " ++ (if inBytes then "bytes" else "lines") ++ ": " ++
      Quoting.typographic text ++ why)
  let cs := text.toList.dropWhile fun c => c == ' ' || ('\t' ≤ c && c ≤ '\r')
  let cs := if cs.head? = some '+' && (cs.drop 1).any Text.isDigit then cs.drop 1 else cs
  match count? (String.ofList cs) with
  | none => wrong ""
  | some n =>
    if 18446744073709551615 < n then wrong ": Value too large for defined data type" else pure n

def withOption (other : Char) (p : FilePart) : OptionForm.Given → Work FilePart
  | ('q', _) | ('Q', _) => pure { p with titles := some false }
  | ('v', _) => pure { p with titles := some true }
  | ('z', _) => pure { p with stop := 0 }
  | (c, _) => do
    if Text.isDigit c then
      if other = '-' then
        misused 1 ("invalid trailing option -- " ++ String.ofList [c])
      else fail 1 ("option used in invalid context -- " ++ String.ofList [c])
    pure p

/-- Which parts are shown after options; a sign says that they are counted from the other end. -/
def withOptions (other : Char) : List OptionForm.Given → FilePart → Work FilePart
  | [], p => pure p
  | (c, arg) :: given, p => do
    if c = 'n' || c = 'c' then
      let text := arg.getD ""
      let isOther := text.toList.head? = some other
      let digits := if text.toList.head? = some '-' then String.ofList (text.toList.drop 1)
        else text
      let count ← number (c == 'c') digits
      let isOther := isOther || (p.isOther && other = '+')
      withOptions other given { p with count, isOther, inBytes := (c = 'c') }
    else withOptions other given (← withOption other p (c, arg))

def title (isFirst : Bool) (file : String) : Work Unit := do
  printText ((if isFirst then "" else "\n") ++ "==> " ++
    (if file = "-" then "standard input" else file) ++ " <==\n")

def hasTitles (p : FilePart) (files : List String) : Bool := p.titles.getD (1 < files.length)

def inputName (file : String) : String :=
  Quoting.shell (if file = "-" then "standard input" else file)

/-! ## Starts -/

def firstLines (stop : UInt8) : Nat → Bytes → Bytes × Nat
  | 0, _ => ([], 0)
  | n + 1, bytes => go (n + 1) bytes []
where
  go : Nat → Bytes → Bytes → Bytes × Nat
    | n, [], done => (done.reverse, n)
    | n, b :: rest, done =>
      if b = stop then
        if n ≤ 1 then ((b :: done).reverse, 0) else go (n - 1) rest (b :: done)
      else go n rest (b :: done)

def withoutLast (p : FilePart) (bytes : Bytes) : Bytes :=
  if p.inBytes then bytes.take (bytes.length - p.count)
  else
    let lines := linesBy p.stop bytes
    (lines.take (lines.length - p.count)).flatten

def printStart (p : FilePart) (stream : Nat) : Work (Except OsError Unit) := do
  if p.isOther then
    match ← lift (Routine.readAll stream) with
    | .ok bytes =>
      print (p.withoutLast bytes)
      pure (.ok ())
    | .error e => pure (.error e)
  else
    let r ← readParts stream (0 < ·) (fun left bytes => do
      let (part, left, used) := if p.inBytes then
          (bytes.take left, left - bytes.length, min left bytes.length)
        else
          let (part, left) := firstLines p.stop left bytes
          (part, left, part.length)
      print part
      -- What is not needed is left to others.
      if left = 0 && used < bytes.length then
        let _ ← ask (.goBack stream (bytes.length - used))
      pure left) Routine.mostChunks p.count
    pure (r.map fun _ => ())

/-- The options of the old way to write them, which stand behind a hyphen and a number, and how the
number ends with them. -/
def oldLetters : List Char → FilePart → String → Except Char (FilePart × String)
  | [], p, unit => .ok (p, unit)
  | c :: cs, p, unit =>
    match c with
    | 'c' => oldLetters cs { p with inBytes := true } ""
    | 'b' | 'k' | 'm' => oldLetters cs { p with inBytes := true } (String.ofList [c])
    | 'l' => oldLetters cs { p with inBytes := false } unit
    | 'q' => oldLetters cs { p with titles := some false } unit
    | 'v' => oldLetters cs { p with titles := some true } unit
    | 'z' => oldLetters cs { p with stop := 0 } unit
    | c => .error c

/-- Which parts the words of `head` ask for at first, and the words that are left. -/
def startOf (args : List String) : Work (FilePart × List String) := do
  match args with
  | arg :: rest =>
    match arg.toList with
    | '-' :: c :: cs =>
      if Text.isDigit c then
        let (ds, letters) := (c :: cs).span Text.isDigit
        match oldLetters letters {} "" with
        | .ok (p, unit) =>
          let count ← number p.inBytes (String.ofList ds ++ unit)
          pure ({ p with count }, rest)
        | .error c => misused 1 ("invalid trailing option -- " ++ String.ofList [c])
      else pure ({}, args)
    | _ => pure ({}, args)
  | [] => pure ({}, args)

/-! ## Ends -/

def end? (p : FilePart) (bytes : Bytes) : Bytes :=
  if p.inBytes then
    if p.isOther then bytes.drop (p.count - 1) else bytes.drop (bytes.length - p.count)
  else
    let lines := linesBy p.stop bytes
    (if p.isOther then lines.drop (p.count - 1) else lines.drop (lines.length - p.count)).flatten

/-- Which parts the words of `tail` ask for in the old way, and if it goes on then. -/
def oldEnd? (args : List String) : Option (Nat → FilePart × Bool × String) :=
  match args with
  | [] => none
  | arg :: rest =>
    let fits := match rest with
      | [] => true
      | [file] => file = "-" || file.toList.head? ≠ some '-' || file = "--"
      | [dashes, _] => dashes = "--"
      | _ => false
    let read (isOther : Bool) (cs : List Char) : Option (Nat → FilePart × Bool × String) :=
      let (ds, cs) := cs.span Text.isDigit
      let (inBytes, unit, cs) := match cs with
        | 'b' :: cs => (true, 512, cs)
        | 'c' :: cs => (true, 1, cs)
        | 'l' :: cs => (false, 1, cs)
        | cs => (false, 1, cs)
      let (follows, cs) := if cs.head? = some 'f' then (true, cs.drop 1) else (false, cs)
      if cs.isEmpty then
        some fun usual =>
          ({ count := (if ds.isEmpty then usual else Decimal.value ds) * unit, inBytes, isOther },
            follows, String.ofList ds)
      else none
    if !fits then none
    else match arg.toList with
      | '+' :: cs => read true cs
      | '-' :: c :: cs => if c = 'c' && cs.isEmpty then none else read false (c :: cs)
      | _ => none

end FilePart

/-! ## Files that grow -/

structure Following where
  byName : Bool := false
  retries : Bool := false
  process : Option Pid := none
  deriving DecidableEq, Inhabited

structure Followed where
  file : String
  stream : Option (Nat × Option FileId)
  size : Nat := 0
  deriving Inhabited

namespace Following

open Utility

def interval : Nat := 10000

def lookAgain (w : Following) (f : Followed) : Work Followed := do
  if !w.byName || f.file = "-" then pure f
  else
    match f.stream, ← ask (.inspect f.file true) with
    | none, .error _ => pure f
    | some (s, _), .error e =>
      complain (Quoting.shell f.file ++ " has become inaccessible: " ++ e.reason)
      closeInput s
      pure { f with stream := none }
    | stream, .ok info =>
      if stream.any fun (_, id) => id = some info.id then pure f
      else
        match stream with
        | some (s, _) =>
          complain (Quoting.shell f.file ++ " has been replaced;  following new file")
          closeInput s
        | none => complain (Quoting.shell f.file ++ " has appeared;  following new file")
        match ← ask (.openFile f.file .input) with
        | .ok s => pure { f with stream := some (s, some info.id), size := 0 }
        | .error _ => pure { f with stream := none }

/-- Prints what has been written behind the end of a file; tells if there was something. -/
def printNew (titled : Bool) (f : Followed) : Work (Followed × Bool) := do
  match f.stream with
  | none => pure (f, false)
  | some (s, _) =>
    let isShorter ← match ← ask (.inspectStream s) with
      | .ok info => pure ((info.node.content matches .regular _) && info.node.size < f.size)
      | .error _ => pure false
    let mut size := f.size
    if isShorter then
      complain (Quoting.shellIfNeeded f.file ++ ": file truncated")
      let _ ← ask (.goBack s f.size)
      size := 0
    match ← lift (Routine.readAll s) with
    | .ok (b :: bytes) =>
      if titled then FilePart.title false f.file
      print (b :: bytes)
      flush
      pure ({ f with size := size + bytes.length + 1 }, true)
    | _ => pure ({ f with size }, false)

/-- Goes on to print what is written to files; the one that has been printed last has no new
title. -/
def go (w : Following) (titles : Bool) : Nat → List Followed → String → Work Unit
  | 0, _, _ => pure ()
  | n + 1, files, last => do
    let isLast ← match w.process with
      | none => pure false
      | some p =>
        match ← ask (.kill p 0) with
        | .error .noSuchProcess => pure true
        | _ => pure false
    let mut last := last
    let mut next := []
    for f in files do
      let f ← lookAgain w f
      let (f, isNew) ← printNew (titles && last ≠ f.file) f
      if isNew then last := f.file
      next := f :: next
    let files := next.reverse
    -- Without somebody who reads the output there is nothing left to do.
    match ← ask (.write 1 []) with
    | .error .brokenPipe => leave 1
    | _ => pure ()
    if isLast then pure ()
    else if !w.retries && files.all (·.stream.isNone) then fail 1 "no files remaining"
    else
      ask (.pause interval)
      go w titles n files last

end Following

namespace Utility

def head (args : List String) : Work Unit := do
  let (p, args) ← FilePart.startOf args
  let (given, operands) ← options FilePart.forms false 1 args
  let p ← p.withOptions '-' given
  let files := if operands.isEmpty then ["-"] else operands
  let mut isFirst := true
  for file in files do
    match ← openInput file with
    | .error e =>
      complain ("cannot open " ++ Quoting.shell file ++ " for reading: " ++ e.reason)
      setCode 1
    | .ok stream =>
      if p.hasTitles files then FilePart.title isFirst file
      isFirst := false
      match ← p.printStart stream with
      | .ok () => pure ()
      | .error e =>
        complain ("error reading " ++ FilePart.inputName file ++ ": " ++ e.reason)
        setCode 1
      closeInput stream

def followForms : List OptionForm :=
  [.flag 'f' "", .named 'w' "follow" .optional, .flag 'F' "", .taking 's' "sleep-interval",
    .named 'p' "pid" .required, .named 'r' "retry" .none,
    .named 'u' "max-unchanged-stats" .required]

def following : List OptionForm.Given → Following → Bool → Work (Following × Bool)
  | [], w, follows => pure (w, follows)
  | (c, arg) :: given, w, follows => do
    match c, arg with
    | 'f', _ | 'w', none => following given { w with byName := false } true
    | 'w', some word =>
      let how ← choiceOf 1 "--follow" word [["descriptor"], ["name"]]
      following given { w with byName := how = "name" } true
    | 'F', _ => following given { w with byName := true, retries := true } true
    | 'r', _ => following given { w with retries := true } follows
    | 'p', some text =>
      let n ← boundedNumber 0 2147483647 "invalid PID" text
      following given { w with process := some n.toNat } follows
    | 's', some text =>
      if ((Format.unsignedPlaces? false text.toList).filter (·.2.isEmpty)).isNone then
        fail 1 ("invalid number of seconds: " ++ Quoting.typographic text)
      following given w follows
    | _, _ => following given w follows

def tail (args : List String) : Work Unit := do
  let (p, w, follows, operands) ← match FilePart.oldEnd? args with
    | some part =>
      let (p, follows, digits) := part 10
      if 18446744073709551615 < Decimal.value digits.toList then
        fail 1 ("invalid number: " ++ Quoting.typographic (args.headD "") ++
          ": Numerical result out of range")
      pure (p, {}, follows, args.drop 1 |>.filter (· ≠ "--"))
    | none =>
      let (given, operands) ← options (FilePart.forms ++ followForms) false 1 args
      let p ← ({} : FilePart).withOptions '+' given
      let (w, follows) ← following given {} false
      pure (p, w, follows, operands)
  if !follows && w.retries then
    complain "warning: --retry ignored; --retry is useful only when following"
  if follows && w.retries && !w.byName then
    complain "warning: --retry only effective for the initial open"
  if !follows && w.process.isSome then
    complain "warning: PID ignored; --pid=PID is useful only when following"
  let files := if operands.isEmpty then ["-"] else operands
  if p.count = 0 && !p.isOther && !follows then leave 0
  let mut isFirst := true
  let mut followed : List Followed := []
  let mut last := ""
  for file in files do
    match ← openInput file with
    | .error e =>
      complain ("cannot open " ++ Quoting.shell file ++ " for reading: " ++ e.reason)
      setCode 1
      followed := ⟨file, none, 0⟩ :: followed
    | .ok stream =>
      if p.hasTitles files then FilePart.title isFirst file
      isFirst := false
      last := file
      let info ← ask (.inspectStream stream)
      match ← lift (Routine.readAll stream) with
      | .error e =>
        complain ("error reading " ++ FilePart.inputName file ++ ": " ++ e.reason)
        setCode 1
        if follows then
          complain (Quoting.shellIfNeeded file ++ ": cannot follow end of this type of file" ++
            (if w.retries then "" else "; giving up on this name"))
        closeInput stream
        followed := ⟨file, none, 0⟩ :: followed
      | .ok bytes =>
        print (p.end? bytes)
        -- Nothing is written behind the end of a pipe.
        match info with
        | .ok info =>
          if follows then followed := ⟨file, some (stream, some info.id), bytes.length⟩ :: followed
          else closeInput stream
        | .error _ => closeInput stream
  if follows && !followed.isEmpty then
    flush
    w.go (p.hasTitles files) 1000000000 followed.reverse last

end Utility

end JobLaunch.Rehearsal
