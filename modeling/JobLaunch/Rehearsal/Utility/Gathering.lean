import JobLaunch.Rehearsal.Utility.Control
import JobLaunch.Rehearsal.Utility.Reading

/-!
# Commands whose words come from the input

* `Gathering` — how `xargs` is used.
* `Gathering.Item`, `Gathering.words`, `Gathering.parts` — what is found in the input.
* `Gathering.Load` — the words that have been collected, and the commands that run.
* `Utility.xargs` — starts commands with words from the input.
-/

namespace JobLaunch.Rehearsal

structure Gathering where
  command : List String := ["echo"]
  most : Option Nat := none
  lines : Option Nat := none
  replaced : Option String := none
  stop : Option UInt8 := none
  last : Option String := none
  file : Option String := none
  limit : Nat := 131072
  isStrict : Bool := false
  shows : Bool := false
  asks : Bool := false
  skips : Bool := false
  /-- How many commands run at the same time; none is any number. -/
  parallel : Nat := 1
  slot : Option String := none
  deriving DecidableEq, Inhabited

namespace Gathering

/-! ## What the input has -/

/-- What is found in the input. -/
inductive Item where
  | word (bytes : Bytes)
  | pause (lines : Nat)
  | warning (text : String)
  | fault (text : String)
  deriving DecidableEq, Inhabited

/-- Where a byte of the input stands. -/
inductive Place where
  | gap
  | word
  | quote (q : UInt8)
  | escape
  deriving DecidableEq, Inhabited

/-- What is known on the way through the input. -/
structure Scan where
  place : Place := .gap
  before : Option UInt8 := none
  text : Bytes := []
  isFirst : Bool := true
  quoted : Bool := false
  warned : Bool := false
  deriving DecidableEq, Inhabited

def Scan.word (s : Scan) : Bytes := s.text.reverse

def unmatched (q : UInt8) : Item :=
  .fault ("unmatched " ++ (if q = 34 then "double" else "single") ++
    " quote; by default quotes are special to xargs unless you use the -0 option")

def tooLong : Item := .fault "argument line too long"

def zeroWarning : Item :=
  .warning ("WARNING: a NUL character occurred in the input.  It cannot be passed through in the " ++
    "argument list.  Did you mean to use the --null option?")

def isBlank (b : UInt8) : Bool := b = 32 || b = 9

def isLast (g : Gathering) (text : Bytes) : Bool :=
  g.last.any fun last => Bytes.ofText last = text.takeWhile (· ≠ 0)

def words (g : Gathering) (room : Nat) : Bytes → Scan → List Item
  | [], s =>
    if s.text.isEmpty then []
    else match s.place with
      | .quote q => [unmatched q]
      | _ => if s.isFirst && isLast g s.word then [] else [.word s.word, .pause 0]
  | b :: bs, s =>
    let before := s.before
    let s := { s with before := some b }
    let add (_ : Unit) : List Item :=
      let warns := b = 0 && !s.warned
      let s := { s with warned := s.warned || warns }
      (if warns then [zeroWarning] else []) ++
        if room ≤ s.text.length then [tooLong]
        else
          let place := match s.place with
            | .quote q => .quote q
            | _ => .word
          words g room bs { s with place, text := b :: s.text }
    match s.place with
    | .gap | .word =>
      if s.place = .gap && (isBlank b || b = 10) then words g room bs s
      else if b = 10 then
        if s.text.isEmpty && !s.quoted then words g room bs { s with place := .gap }
        else if isLast g s.word then if s.isFirst then [] else [.pause 0]
        else
          .word s.word :: .pause (if before.any isBlank then 0 else 1) ::
            words g room bs { warned := s.warned }
      else if g.replaced.isNone && isBlank b then
        if isLast g s.word then if s.isFirst then [] else [.pause 0]
        else .word s.word :: words g room bs { s with place := .gap, text := [], isFirst := false }
      else if b = 92 then words g room bs { s with place := .escape }
      else if b = 34 || b = 39 then words g room bs { s with place := .quote b, quoted := true }
      else add ()
    | .quote q =>
      if b = 10 then [unmatched q]
      else if b = q then words g room bs { s with place := .word }
      else add ()
    | .escape => add ()

def parts (room : Nat) (stop : UInt8) : Bytes → Bytes → List Item
  | [], text => if text.isEmpty then [] else [.word text.reverse, .pause 0]
  | b :: bs, text =>
    if b = stop then .word text.reverse :: .pause 1 :: parts room stop bs []
    else if room ≤ text.length then [tooLong]
    else parts room stop bs (b :: text)

/-! ## Commands -/

open Utility

/-- The words that have been collected, and the commands that run. -/
structure Load where
  words : List String := []
  size : Nat := 0
  lines : Nat := 0
  hasRun : Bool := false
  running : List (Pid × Nat) := []
  deriving DecidableEq, Inhabited

def sizeOf (words : List String) : Nat := words.foldl (fun n w => n + (Bytes.ofText w).length + 1) 0

def settle (command : String) : Outcome → Work Unit
  | .exit 0 => pure ()
  | .exit 255 => fail 124 (command ++ ": exited with status 255; aborting")
  | .exit _ => setCode 123
  | .signal n => fail 125 (command ++ ": terminated by signal " ++ Decimal.text n)

def await (command : String) (most : Nat) :
    Nat → List (Pid × Nat) → Work (List (Pid × Nat))
  | 0, running => pure running
  | n + 1, running => do
    if running.length ≤ most then pure running
    else match ← ask (.wait none true) with
      | .ended p o =>
        settle command o
        await command most n (running.filter (·.1 ≠ p))
      | .childless => pure []
      | .none | .interrupted => await command most n running

def patience : Nat := 100000000

def abort {α : Type} (g : Gathering) (load : Load) (code : Nat) : Work α := do
  let _ ← await (g.command.headD "") 0 patience load.running
  leave code

def start (g : Gathering) (load : Load) (words : List String) : Work Load := do
  let name := words.headD ""
  if g.asks then
    say (" ".intercalate (words.map Quoting.shellIfNeeded))
    complain "failed to open /dev/tty for reading: No such device or address"
    leave 1
  let most := if g.parallel = 0 then patience else g.parallel - 1
  let running ← await name most patience load.running
  if g.shows then say (" ".intercalate (words.map Quoting.shellIfNeeded) ++ "\n")
  let place := ((List.range (running.length + 1)).find? fun i =>
    running.all (·.2 ≠ i)).getD 0
  let { name := own, environment, .. } ← get
  let environment := match g.slot with
    | none => environment
    | some slot => withVariable environment slot (Decimal.text place)
  let (source, target) ← match ← ask .pipe with
    | .ok ends => pure ends
    | .error e => fail 1 ("could not create pipe before fork: " ++ e.reason)
  let p ← lift (Routine.fork (Routine.toProgram do
    let _ ← Routine.ask (.close source)
    let told ← match ← Routine.ask (.reserve target 10) with
      | .ok s => pure s
      | .error _ => pure target
    let _ ← Routine.ask (.close target)
    if g.file.isNone then
      let _ ← Routine.ask (.close 0)
      let _ ← Routine.ask (.openFile "/dev/null" .input)
    let e ← executeFound words environment
    Routine.say 2 (own ++ ": " ++ name ++ ": " ++ e.reason ++ "\n")
    Routine.say told "!"
    pure (refusalCode e)))
  let _ ← ask (.close target)
  let answer ← ask (.read source 1)
  let _ ← ask (.close source)
  match answer with
  | .ok (_ :: _) =>
    match ← lift (awaitUntil p none patience) with
    | some (.exit code) => abort g { load with running } code
    | _ => abort g { load with running } 126
  | _ => pure { load with running := (p, place) :: running, hasRun := true }

def dispatch (g : Gathering) (load : Load) : Work Load := do
  let load ← start g load (g.command ++ load.words.reverse)
  pure { load with words := [], size := sizeOf g.command }

/-- Ends it with an error, after the words that have been collected have been used. -/
def giveUp {α : Type} (g : Gathering) (load : Load) (text : String) : Work α := do
  let load ←
    if g.replaced.isSome || load.words.isEmpty || g.isStrict then pure load else dispatch g load
  complain text
  abort g load 1

def take (g : Gathering) (load : Load) (word : Bytes) : Work Load := do
  let size := word.length + 1
  let load ←
    if g.limit < load.size + size then
      if load.words.isEmpty then do
        complain "cannot fit single argument within argument list size limit"
        abort g load 1
      else if g.isStrict && (g.most.isSome || g.lines.isSome) then do
        complain "argument list too long"
        abort g load 1
      else dispatch g load
    else pure load
  let load := { load with
    words := Bytes.text (word.takeWhile (· ≠ 0)) :: load.words, size := load.size + size }
  if g.most = some load.words.length then dispatch g load else pure load

/-- A word of a command with a line put in all places, of which there are at most so many; it may
have so many bytes. -/
def replacing (old new : Bytes) (fuel room : Nat) (text : Bytes) : Option Bytes :=
  match fuel with
  | 0 => none
  | fuel + 1 =>
    let start := (List.range (text.length + 1)).find? fun i => old.isPrefixOf (text.drop i)
    match start with
    | none => if room ≤ text.length then none else some text
    | some i =>
      if room ≤ i + new.length + 1 then none
      else
        let rest := text.drop (i + old.length)
        if rest.isEmpty then some (text.take i ++ new)
        else (replacing old new fuel (room - i - new.length - 1) rest).map fun more =>
          text.take i ++ new ++ more

def place (g : Gathering) (load : Load) (old : String) (line : Bytes) : Work Load := do
  let mut words : List String := (g.command.take 1)
  let mut size := sizeOf words
  for word in g.command.drop 1 do
    match replacing (Bytes.ofText old) (line.takeWhile (· ≠ 0)) g.limit (g.limit - 1)
        (Bytes.ofText word) with
    | none =>
      complain "command too long"
      abort g load 1
    | some bytes =>
      if g.limit < size + bytes.length + 1 then
        complain "argument list too long"
        abort g load 1
      size := size + bytes.length + 1
      words := Bytes.text bytes :: words
  start g load words.reverse

def follow (g : Gathering) : List Item → Load → Work Load
  | [], load => pure load
  | item :: items, load => do
    match item with
    | .warning text =>
      complain text
      follow g items load
    | .fault text => giveUp g load text
    | .word bytes =>
      match g.replaced with
      | some old => do follow g items (← place g load old bytes)
      | none => do follow g items (← take g load bytes)
    | .pause n =>
      let lines := load.lines + n
      if g.replaced.isNone && g.lines.any (· ≤ lines) then do
        follow g items { (← dispatch g load) with lines := 0 }
      else follow g items { load with lines }

/-! ## Options -/

def forms : List OptionForm :=
  [.flag '0' "null", .taking 'a' "arg-file", .taking 'd' "delimiter", .taking 'E' "",
    { letter := 'e', long := "eof", arity := .optional }, .taking 'I' "",
    { letter := 'i', long := "replace", arity := .optional }, .taking 'L' "",
    { letter := 'l', long := "max-lines", arity := .optional }, .taking 'n' "max-args",
    .flag 'o' "open-tty", .taking 'P' "max-procs", .flag 'p' "interactive",
    .named 'v' "process-slot-var" .required, .flag 'r' "no-run-if-empty", .taking 's' "max-chars",
    .flag 't' "verbose", .flag 'x' "exit"]

def number (letter : Char) (least : Nat) (text : String) : Work (Option Nat) := do
  let option := " for -" ++ String.ofList [letter] ++ " option"
  let cs := text.toList.dropWhile fun c => c == ' ' || ('\t' ≤ c && c ≤ '\r')
  let (isNegative, digits) := match cs with
    | '-' :: ds => (true, ds)
    | '+' :: ds => (false, ds)
    | ds => (false, ds)
  if digits.isEmpty || !digits.all Text.isDigit then
    misused 1 ("invalid number \"" ++ text ++ "\"" ++ option)
  else
    let n := Decimal.value digits
    if n < least || (isNegative && n ≠ 0) then
      complain ("value " ++ text ++ option ++ " should be >= " ++ Decimal.text least)
      pure none
    else pure (some n)

def numberOr (letter : Char) (least : Nat) (text : String) : Work Nat := do
  match ← number letter least text with
  | some n => pure n
  | none =>
    advise
    leave 1

def stopOf (text : String) : Except String UInt8 :=
  let escape := "Invalid escape sequence " ++ text ++ " in input delimiter specification"
  let coded (base : Nat) (most : String) (cs : List Char) : Except String UInt8 :=
    let ds := cs.takeWhile fun c => (Escapes.hexDigit? c).any (· < base)
    let rest := cs.drop ds.length
    let n := ds.foldl (fun n d => n * base + (Escapes.hexDigit? d).getD 0) 0
    if 255 < n then .error (escape ++ "; character values must not exceed " ++ most ++ ".")
    else if rest.isEmpty then .ok n.toUInt8
    else .error (escape ++ "; trailing characters " ++ String.ofList rest ++ " not recognised.")
  match Bytes.ofText text, text.toList with
  | [b], _ => .ok b
  | _, '\\' :: c :: cs =>
    match c with
    | 'x' => coded 16 "ff" cs
    | 'a' => .ok 7
    | 'b' => .ok 8
    | 'f' => .ok 12
    | 'n' => .ok 10
    | 'r' => .ok 13
    | 't' => .ok 9
    | 'v' => .ok 11
    | '\\' => .ok 92
    | _ => if Text.isDigit c then coded 8 "377" (c :: cs) else .error (escape ++ ".")
  | _, _ => .error ("Invalid input delimiter specification " ++ text ++
      ": the delimiter must be either a single character or an escape sequence starting with \\.")

def replace (earlier later : String) (isGiven : Bool) : Work Unit := do
  if isGiven then
    complain ("warning: options --" ++ earlier ++ " and " ++ later ++
      " are mutually exclusive, ignoring previous --" ++ earlier ++ " value")

def withLines (g : Gathering) (letter : Char) (text : Option String) : Work Gathering := do
  let n ← match text with
    | none => pure 1
    | some text => numberOr letter 1 text
  let name := if letter = 'L' then "-L" else "--max-lines/-l"
  replace "max-args" name g.most.isSome
  replace "replace" name g.replaced.isSome
  pure { g with lines := some n, most := none, replaced := none }

def withOption (g : Gathering) : OptionForm.Given → Work Gathering
  | ('0', _) => pure { g with stop := some 0 }
  | ('a', file) => pure { g with file }
  | ('d', some text) =>
    match stopOf text with
    | .ok b => pure { g with stop := some b }
    | .error e => fail 1 e
  | ('E', text) | ('e', text) => pure { g with last := text.filter (!·.isEmpty) }
  | ('I', text) | ('i', text) => do
    replace "max-lines" "--replace/-I/-i" g.lines.isSome
    replace "max-args" "--replace/-I/-i" g.most.isSome
    pure { g with replaced := some (text.getD "\x7b\x7d"), lines := none, most := none }
  | ('L', text) => withLines g 'L' text
  | ('l', text) => withLines g 'l' text
  | ('o', _) => pure g
  | ('p', _) => pure { g with asks := true, shows := true }
  | ('r', _) => pure { g with skips := true }
  | ('t', _) => pure { g with shows := true }
  | ('v', slot) => pure { g with slot }
  | ('x', _) => pure { g with isStrict := true }
  | ('n', some text) => do
    let n ← numberOr 'n' 1 text
    replace "max-lines" "--max-args/-n" g.lines.isSome
    if n = 1 && g.replaced.isSome then pure { g with lines := none }
    else
      replace "replace" "--max-args/-n" g.replaced.isSome
      pure { g with most := some n, lines := none, replaced := none }
  | ('P', some text) => do
    let n ← numberOr 'P' 0 text
    if 2147483647 < n then
      misused 1 ("value " ++ text ++ " for -P option should be <= 2147483647")
    pure { g with parallel := n }
  | ('s', some text) => do
    let taken := (← get).environment.foldl (fun n (name, value) =>
      n + (Bytes.ofText name).length + (Bytes.ofText value).length + 2) 0
    let greatest := 2095104 - taken
    match ← number 's' 1 text with
    | none => pure { g with limit := 1 }
    | some n =>
      if greatest < n then
        complain ("value " ++ text ++ " for -s option should be <= " ++ Decimal.text greatest)
      pure { g with limit := min n greatest }
  | _ => pure g

def run (g : Gathering) : Work Unit := do
  let stream ← match g.file with
    | none => pure 0
    | some file =>
      if file = "-" then pure 0
      else match ← ask (.openFile file .input) with
        | .ok s => pure s
        | .error e =>
          fail 1 ("Cannot open input file " ++ Quoting.typographic file ++ ": " ++ e.reason)
  let size := sizeOf g.command
  if g.replaced.isNone && g.limit < size then
    fail 1 "cannot fit single argument within argument list size limit"
  let bytes ← match ← lift (Routine.readAll stream) with
    | .ok bytes => pure bytes
    | .error _ => pure []
  if stream ≠ 0 then
    let _ ← ask (.close stream)
  let room := g.limit - (if g.replaced.isSome then 0 else size) - 1
  let items := match g.stop with
    | some stop => parts room stop bytes []
    | none => words g room bytes {}
  let load ← follow g items { size }
  let load ←
    if g.replaced.isNone && (!load.words.isEmpty || (!load.hasRun && !g.skips)) then
      dispatch g load
    else pure load
  let _ ← await (g.command.headD "") 0 patience load.running

end Gathering

namespace Utility

def xargs (args : List String) : Work Unit := do
  let (given, operands) ← options Gathering.forms true 1 args
  let g ← given.foldlM Gathering.withOption {}
  if g.last.isSome && g.stop.isSome then
    complain "warning: the -E option has no effect if -0 or -d is used.\n"
  let g := if operands.isEmpty then g else { g with command := operands }
  Gathering.run g

end Utility

end JobLaunch.Rehearsal
