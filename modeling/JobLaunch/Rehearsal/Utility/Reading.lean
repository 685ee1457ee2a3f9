import JobLaunch.Rehearsal.Format
import JobLaunch.Rehearsal.Signal
import JobLaunch.Rehearsal.Utility.Options
import JobLaunch.Rehearsal.Utility.Quoting
import JobLaunch.Text.Blank

/-!
# Utilities that read files

* `Utility.openInput`, `Utility.readInput`, `Utility.readParts` — inputs.
* `Utility.cat`, `Utility.tee` — copy.
* `Utility.count?`, `Utility.boundedNumber` — numbers among the words.
-/

namespace JobLaunch.Rehearsal.Utility

/-! ## Inputs -/

def openInput (file : String) : Work (Except OsError Nat) :=
  if file = "-" then pure (.ok 0) else ask (.openFile file .input)

def closeInput (stream : Nat) : Work Unit := do
  if stream ≠ 0 then
    let _ ← ask (.close stream)

def readInput (file : String) : Work (Except OsError Bytes) := do
  match ← openInput file with
  | .error e => pure (.error e)
  | .ok stream =>
    let r ← lift (Routine.readAll stream)
    closeInput stream
    pure r

def lineFeed : UInt8 := 10

/-- The lines of bytes, each with its end; the last one may lack it. -/
def linesWithin (stop : UInt8) : Nat → Bytes → List Bytes
  | 0, _ => []
  | _, [] => []
  | n + 1, bytes =>
    let line := bytes.takeWhile (· ≠ stop)
    match bytes.drop line.length with
    | [] => [line]
    | c :: rest => (line ++ [c]) :: linesWithin stop n rest

/-- The lines of bytes that end with a byte, each with its end; the last one may lack it. -/
def linesBy (stop : UInt8) (bytes : Bytes) : List Bytes := linesWithin stop (bytes.length + 1) bytes

/-- The lines of bytes, each with its end; the last one may lack it. -/
def linesOf (bytes : Bytes) : List Bytes := linesBy lineFeed bytes

def withoutStop (stop : UInt8) (line : Bytes) : Bytes :=
  if line.getLast? = some stop then line.dropLast else line

def withoutEnd (line : Bytes) : Bytes := withoutStop lineFeed line

/-- Reads an input in parts, as long as something is to go on; the state may change with each. -/
def readParts {σ : Type} (stream : Nat) (goesOn : σ → Bool) (next : σ → Bytes → Work σ) :
    Nat → σ → Work (Except OsError σ)
  | 0, s => pure (.ok s)
  | n + 1, s => do
    if !goesOn s then pure (.ok s)
    else match ← ask (.read stream Routine.chunk) with
      | .error e => pure (.error e)
      | .ok [] => pure (.ok s)
      | .ok bytes => readParts stream goesOn next n (← next s bytes)

/-! ## Copies -/

/-- The signs of a byte that is shown though it is none of a text. -/
def shownByte (showsTabs : Bool) (b : UInt8) : Bytes :=
  let low (n : Nat) : List Char :=
    if n = 127 then ['^', '?'] else if n < 32 then ['^', Char.ofNat (n + 64)] else [Char.ofNat n]
  let n := b.toNat
  if b = lineFeed || (b = 9 && !showsTabs) then [b]
  else Bytes.ofChars (if n < 128 then low n else 'M' :: '-' :: low (n - 128))

/-- How far `cat` has come with its lines. -/
structure CatPlace where
  number : Nat := 0
  inLine : Bool := false
  empty : Nat := 0
  deriving Inhabited

def numberText (width n : Nat) : String :=
  let text := Decimal.text n
  String.ofList (List.replicate (width - text.length) ' ') ++ text

def catLines (has : Char → Bool) : List Bytes → CatPlace → Bytes × CatPlace
  | [], p => ([], p)
  | line :: rest, p =>
    let isEmpty := !p.inLine && line = [lineFeed]
    let empty := if isEmpty then p.empty + 1 else 0
    if isEmpty && has 's' && 1 < empty then catLines has rest { p with empty }
    else
      let counts := !p.inLine && (has 'n' || has 'b') && !(has 'b' && isEmpty)
      let number := if counts then p.number + 1 else p.number
      let start := if counts then Bytes.ofText (numberText 6 number ++ "\t") else []
      let body := withoutEnd line
      let body := if has 'v' then body.flatMap (shownByte false) else body
      let ends := line.getLast? = some lineFeed
      let body := if ends && has 'E' && body.getLast? = some 13 then body.dropLast ++ [94, 77]
        else body
      let body := if has 'T' then body.flatMap fun b => if b = 9 then [94, 73] else [b] else body
      let stop := if ends then if has 'E' then [36, lineFeed] else [lineFeed] else []
      let (more, p) := catLines has rest { number, inLine := !ends, empty }
      (start ++ body ++ stop ++ more, p)

def isSameFile (a b : Nat) : Work Bool := do
  match ← ask (.inspectStream a), ← ask (.inspectStream b) with
  | .ok a, .ok b => pure (a.id = b.id && (a.node.content matches .regular _))
  | _, _ => pure false

def isOutput (stream : Nat) : Work Bool := do
  match ← ask (.inspectStream stream) with
  | .ok a => pure ((← isSameFile stream 1) && 0 < a.node.size)
  | .error _ => pure false

def cat (args : List String) : Work Unit := do
  let (given, operands) ← options
    [.flag 'n' "number", .flag 'b' "number-nonblank", .flag 's' "squeeze-blank",
      .flag 'E' "show-ends", .flag 'T' "show-tabs", .flag 'v' "show-nonprinting",
      .flag 'A' "show-all", .flag 'e' "", .flag 't' "", .flag 'u' ""] false 1 args
  let has (c : Char) : Bool := isGiven given c || match c with
    | 'v' => "Aet".toList.any (isGiven given)
    | 'E' => "Ae".toList.any (isGiven given)
    | 'T' => "At".toList.any (isGiven given)
    | _ => false
  let isPlain := !"nbsETv".toList.any has
  let mut place : CatPlace := {}
  let mut isInputClosed := false
  for file in if operands.isEmpty then ["-"] else operands do
    match ← openInput file with
    | .error e =>
      complain (Quoting.shellIfNeeded file ++ ": " ++ e.reason)
      setCode 1
    | .ok stream =>
      if ← isOutput stream then
        complain (Quoting.shellIfNeeded file ++ ": input file is output file")
        setCode 1
      else
        let r ← readParts stream (fun _ => true) (fun (p : CatPlace) bytes => do
          let (out, p) := if isPlain then (bytes, p) else catLines has (linesOf bytes) p
          match ← lift (Routine.write 1 out) with
          | .ok () => pure p
          | .error e => fail 1 ("write error: " ++ e.reason)) Routine.mostChunks place
        match r with
        | .ok p => place := p
        | .error e =>
          complain (Quoting.shellIfNeeded file ++ ": " ++ e.reason)
          setCode 1
          isInputClosed := isInputClosed || (file = "-" && e matches .badDescriptor)
      closeInput stream
  if isInputClosed then fail 1 ("closing standard input: " ++ OsError.badDescriptor.reason)

def tee (args : List String) : Work Unit := do
  let (given, operands) ← options
    [.flag 'a' "append", .flag 'i' "ignore-interrupts",
      .flag 'p' "", .named 'o' "output-error" .optional] false 1 args
  -- What is done about output that is refused.
  let care ← match given.reverse.find? fun g => g.1 = 'p' || g.1 = 'o' with
    | none => pure none
    | some (_, none) => pure (some "warn-nopipe")
    | some (_, some word) =>
      some <$> choiceOf 1 "--output-error" word
        [["warn"], ["warn-nopipe"], ["exit"], ["exit-nopipe"]]
  if isGiven given 'i' then
    let _ ← ask (.handle 2 .ignored)
  if care.isSome then
    let _ ← ask (.handle Signal.brokenPipe .ignored)
  let mode : OpenMode := if isGiven given 'a' then .appending else .output
  let refused (file : String) (e : OsError) : Work Unit := do
    let forgiven := e matches .brokenPipe && (care = some "warn-nopipe" || care = some "exit-nopipe")
    if !forgiven then
      complain (Quoting.shellIfNeeded file ++ ": " ++ e.reason)
      setCode 1
      if care = some "exit" || care = some "exit-nopipe" then leave 1
  let mut streams : List (String × Nat) := [("standard output", 1)]
  for file in operands do
    match ← ask (.openFile file mode) with
    | .ok stream => streams := streams ++ [(file, stream)]
    | .error e => refused file e
  let _ ← readParts 0 (fun (targets : List (String × Nat)) => !targets.isEmpty)
    (fun targets bytes => do
      let mut left := []
      for (file, stream) in targets do
        match ← lift (Routine.write stream bytes) with
        | .ok () => left := (file, stream) :: left
        | .error e => refused file e
      pure left.reverse) Routine.mostChunks streams

/-! ## Numbers -/

def unit? : List Char → Option Nat
  | [] => some 1
  | ['b'] => some 512
  | c :: rest =>
    let power := match c with
      | 'k' | 'K' => 1
      | 'm' | 'M' => 2
      | 'G' => 3
      | 'T' => 4
      | 'P' => 5
      | 'E' => 6
      | 'Z' => 7
      | 'Y' => 8
      | _ => 0
    if power = 0 then none
    else match rest with
      | [] | ['i', 'B'] => some (Nat.pow 1024 power)
      | ['B'] | ['D'] => some (Nat.pow 1000 power)
      | _ => none

def count? (text : String) : Option Nat :=
  let (ds, rest) := text.toList.span Text.isDigit
  if ds.isEmpty && rest.isEmpty then none
  else (unit? rest).map fun unit => (if ds.isEmpty then 1 else Decimal.value ds) * unit

/-- A number with a unit, which may be hexadecimal or octal, or what is wrong with it. -/
def basedCount (text : String) : Except String Nat :=
  let (base, digits) := Format.basedDigits text.toList
  let (ds, rest) := digits.span fun c => (Escapes.hexDigit? c).any (· < base)
  let value := ds.foldl (fun n c => n * base + (Escapes.hexDigit? c).getD 0) 0
  if ds.isEmpty then .error "invalid"
  else match unit? rest with
    | some unit => .ok (value * unit)
    | none => .error "invalid suffix in"

def boundedNumber (low high : Int) (what text : String) : Work Int := do
  let wrong {α : Type} (why : String) : Work α := fail 1 (what ++ ": " ++ Quoting.typographic text ++ why)
  let cs := text.toList.dropWhile fun c => c == ' ' || ('\t' ≤ c && c ≤ '\r')
  let (isNegative, ds) := match cs with
    | '-' :: ds => (true, ds)
    | '+' :: ds => (false, ds)
    | ds => (false, ds)
  if ds.isEmpty || !ds.all Text.isDigit then wrong ""
  else
    let n := Int.ofNat (Decimal.value ds)
    let n := if isNegative then -n else n
    if low ≤ n && n ≤ high then pure n
    else if 1073741823 < n || n < -1073741824 then
      wrong ": Value too large for defined data type"
    else wrong ": Numerical result out of range"

end JobLaunch.Rehearsal.Utility
