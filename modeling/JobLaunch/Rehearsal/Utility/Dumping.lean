import JobLaunch.Rehearsal.Utility.Reading

/-!
# Files shown as numbers

* `DumpStyle` — how the bytes of a file are shown.
* `DumpStyle.readAll` — styles from their letters.
* `Utility.od` — shows files.
-/

namespace JobLaunch.Rehearsal

/-- How bytes become fields. -/
inductive DumpForm where
  | names
  | chars
  | signed
  | unsigned
  | octal
  | hexadecimal
  deriving DecidableEq, Inhabited

/-- How the bytes of a file are shown. -/
structure DumpStyle where
  form : DumpForm
  size : Nat := 1
  showsText : Bool := false
  isBigFirst : Bool := false
  deriving DecidableEq, Inhabited

namespace DumpStyle

/-! ## Fields -/

def width (s : DumpStyle) : Nat :=
  let pick (a b c d : Nat) : Nat :=
    if s.size = 1 then a else if s.size = 2 then b else if s.size = 4 then c else d
  match s.form with
  | .names | .chars => 3
  | .signed => pick 4 6 11 20
  | .unsigned => pick 3 5 10 20
  | .octal => pick 3 6 11 22
  | .hexadecimal => pick 2 4 8 16

def hiddenNames : List String :=
  ["nul", "soh", "stx", "etx", "eot", "enq", "ack", "bel", "bs", "ht", "nl", "vt", "ff", "cr", "so",
    "si", "dle", "dc1", "dc2", "dc3", "dc4", "nak", "syn", "etb", "can", "em", "sub", "esc", "fs",
    "gs", "rs", "us", "sp"]

def padded (sign : Char) (width : Nat) (cs : List Char) : List Char :=
  List.replicate (width - cs.length) sign ++ cs

def octalByte (b : UInt8) : List Char := padded '0' 3 (Nat.toDigits 8 b.toNat)

def charField (b : UInt8) : List Char :=
  match b with
  | 0 => ['\\', '0']
  | 7 => ['\\', 'a']
  | 8 => ['\\', 'b']
  | 9 => ['\\', 't']
  | 10 => ['\\', 'n']
  | 11 => ['\\', 'v']
  | 12 => ['\\', 'f']
  | 13 => ['\\', 'r']
  | b => if 32 ≤ b && b < 127 then [Char.ofNat b.toNat] else octalByte b

def nameField (b : UInt8) : List Char :=
  let n := b.toNat % 128
  if n = 127 then "del".toList
  else match hiddenNames[n]? with
    | some name => name.toList
    | none => [Char.ofNat n]

/-- The text of a field, given its bytes, of which the last one counts most. -/
def field (s : DumpStyle) (bytes : Bytes) : List Char :=
  let n := bytes.reverse.foldl (fun n b => n * 256 + b.toNat) 0
  match s.form with
  | .names => nameField (bytes.headD 0)
  | .chars => charField (bytes.headD 0)
  | .unsigned => Decimal.digits n
  | .octal => padded '0' s.width (Nat.toDigits 8 n)
  | .hexadecimal => padded '0' s.width (Nat.toDigits 16 n)
  | .signed =>
    let range := 1 <<< (8 * s.size)
    if range ≤ 2 * n then '-' :: Decimal.digits (range - n) else Decimal.digits n

/-! ## Lines -/

def textBeside (bytes : Bytes) : List Char :=
  "  >".toList ++ (bytes.map fun b => if 32 ≤ b && b < 127 then Char.ofNat b.toNat else '.') ++ ['<']

/-- A line of fields for so many bytes, of which some may be missing; fields are widened, so that a
full line has some more characters. -/
def line (s : DumpStyle) (count more : Nat) (bytes : Bytes) : List Char :=
  let fields := count / s.size
  let present := (bytes.length + s.size - 1) / s.size
  let parts := (List.range present).map fun i =>
    let part := (bytes.drop (i * s.size)).take s.size
    let part := part ++ List.replicate (s.size - part.length) 0
    let part := if s.isBigFirst then part.reverse else part
    let before := more * (fields - i) / fields
    let after := more * (fields - i - 1) / fields
    ' ' :: padded ' ' (s.width + (before - after)) (s.field part)
  let blank := fields - present
  parts.flatten ++ if !s.showsText then [] else
    List.replicate (blank * (s.width + 1) + more * blank / fields) ' ' ++ textBeside bytes

/-- The lines for bytes in several styles, after what comes before the first of them. -/
def block (styles : List DumpStyle) (count : Nat) (before : String) (bytes : Bytes) : String :=
  let total (s : DumpStyle) : Nat := (s.width + 1) * (count / s.size)
  let widest := styles.foldl (fun n s => max n (total s)) 0
  let gap := String.ofList (List.replicate before.length ' ')
  "".intercalate (styles.zipIdx.map fun (s, i) =>
    (if i = 0 then before else gap) ++
      String.ofList (s.line count (widest - total s) bytes) ++ "\n")

/-! ## Reading -/

def readWithin (text : String) : Nat → List Char → Except String (List DumpStyle)
  | 0, _ => .ok []
  | n + 1, cs => do
    let withText (s : DumpStyle) (rest : List Char) : Except String (List DumpStyle) := do
      let (showsText, rest) := match rest with
        | 'z' :: more => (true, more)
        | _ => (false, rest)
      .ok ({ s with showsText } :: (← readWithin text n rest))
    let sized (form : DumpForm) (rest : List Char) : Except String (List DumpStyle) :=
      match rest with
      | 'C' :: more => withText { form, size := 1 } more
      | 'S' :: more => withText { form, size := 2 } more
      | 'I' :: more => withText { form, size := 4 } more
      | 'L' :: more => withText { form, size := 8 } more
      | _ =>
        let ds := rest.takeWhile Text.isDigit
        let size := if ds.isEmpty then 4 else Decimal.value ds
        if size = 1 || size = 2 || size = 4 || size = 8 then
          withText { form, size } (rest.drop ds.length)
        else .error ("invalid type string " ++ Quoting.typographic text ++
          if 2 * Format.greatest + 1 < size then "" else
            ";\nthis system doesn't provide a " ++ Decimal.text size ++ "-byte integral type")
    match cs with
    | [] => .ok []
    | 'a' :: rest => withText { form := .names } rest
    | 'c' :: rest => withText { form := .chars } rest
    | 'd' :: rest => sized .signed rest
    | 'u' :: rest => sized .unsigned rest
    | 'o' :: rest => sized .octal rest
    | 'x' :: rest => sized .hexadecimal rest
    | c :: _ =>
      .error ("invalid character '" ++ String.ofList [c] ++ "' in type string " ++
        Quoting.typographic text)

def readAll (text : String) : Except String (List DumpStyle) :=
  readWithin text (text.length + 1) text.toList

def ofLetter? : Char → Option DumpStyle
  | 'a' => some { form := .names }
  | 'b' => some { form := .octal, size := 1 }
  | 'c' => some { form := .chars }
  | 'd' => some { form := .unsigned, size := 2 }
  | 'o' => some { form := .octal, size := 2 }
  | 'x' | 'h' => some { form := .hexadecimal, size := 2 }
  | 's' => some { form := .signed, size := 2 }
  | 'i' => some { form := .signed, size := 4 }
  | 'l' | 'I' | 'L' => some { form := .signed, size := 8 }
  | 'D' => some { form := .unsigned, size := 4 }
  | 'O' => some { form := .octal, size := 4 }
  | 'X' | 'H' => some { form := .hexadecimal, size := 4 }
  | _ => none

end DumpStyle

namespace Utility

def odForms : List OptionForm :=
  [.taking 'A' "address-radix", .taking 'j' "skip-bytes", .taking 'N' "read-bytes",
    .taking 't' "format", .flag 'v' "output-duplicates",
    { letter := 'w', long := "width", arity := .optional }, .named '1' "endian" .required] ++
  "abcdoxhsilILDOXH".toList.map (.flag · "")

def dumpStyles : List OptionForm.Given → List DumpStyle → Work (List DumpStyle)
  | [], styles => pure styles
  | (c, arg) :: rest, styles => do
    let more ← if c = 't' then
        match DumpStyle.readAll (arg.getD "") with
        | .ok more => pure more
        | .error text => fail 1 text
      else pure (DumpStyle.ofLetter? c).toList
    dumpStyles rest (styles ++ more)

/-- The bytes of files together; none if no file can be opened. -/
def joinedInputs : List String → Work (Option Bytes)
  | [] => pure none
  | file :: rest => do
    let bytes ← match ← readInput file with
      | .ok bytes => pure (some bytes)
      | .error e =>
        complain (Quoting.shellIfNeeded file ++ ": " ++ e.reason)
        setCode 1
        pure (if e = .isADirectory then some [] else none)
    match bytes, ← joinedInputs rest with
    | some bytes, more => return some (bytes ++ more.getD [])
    | none, more => return more

/-- Prints the blocks of bytes; of blocks that are equal to the one before only a star is left. -/
def dump (styles : List DumpStyle) (count : Nat) (isFull : Bool) (address : Nat → String) :
    Nat → Nat → Bytes → Option Bytes → Bool → Work Unit
  | 0, _, _, _, _ => pure ()
  | n + 1, place, bytes, last, isEqual => do
    let part := bytes.take count
    if part.isEmpty then
      let finish := address place
      if !finish.isEmpty then printLine finish
    else
      let next := place + part.length
      if !isFull && part.length = count && last = some part then
        if !isEqual then printLine "*"
        dump styles count isFull address n next (bytes.drop count) last true
      else
        printText (DumpStyle.block styles count (address place) part)
        dump styles count isFull address n next (bytes.drop count) (some part) false

def od (args : List String) : Work Unit := do
  let (given, operands) ← options odForms false 1 args
  let radix := (argument? given 'A').getD "o"
  if !(["d", "o", "x", "n"].contains radix) then
    fail 1 ("invalid output address radix '" ++ String.ofList (radix.toList.take 1) ++
      "'; it must be one character from [doxn]")
  let number (c : Char) : Work (Option Nat) := do
    match argument? given c with
    | none => pure none
    | some text =>
      match basedCount text with
      | .ok n => pure (some n)
      | .error problem =>
        fail 1 (problem ++ " -" ++ String.ofList [c] ++ " argument '" ++ text ++ "'")
  let skipped := (← number 'j').getD 0
  let most ← number 'N'
  let isBigFirst ← match argument? given '1' with
    | some word =>
      if word.toList.isPrefixOf "big".toList then pure true
      else if word.toList.isPrefixOf "little".toList then pure false
      else unknownWord 1 "--endian" word ["little", "big"]
    | none => pure false
  let styles ← dumpStyles given []
  let styles := styles.map fun s => { s with isBigFirst }
  let styles := if styles.isEmpty then [{ form := .octal, size := 2, isBigFirst }] else styles
  let unit := styles.foldl (fun n s => max n s.size) 1
  let asked ← if isGiven given 'w' then
      match argument? given 'w' with
      | none => pure 32
      | some _ => do pure ((← number 'w').getD 32)
    else pure 16
  let count := if 0 < asked && asked % unit = 0 then asked else unit
  if count ≠ asked then
    complain ("warning: invalid width " ++ Decimal.text asked ++ "; using " ++ Decimal.text count ++
      " instead")
  let bytes ← match ← joinedInputs (if operands.isEmpty then ["-"] else operands) with
    | some bytes => pure bytes
    | none => leave 1
  if bytes.length < skipped then fail 1 "cannot skip past end of combined input"
  let bytes := bytes.drop skipped
  let bytes := match most with
    | some n => bytes.take n
    | none => bytes
  let address (n : Nat) : String :=
    let digits (width base : Nat) : String :=
      String.ofList (DumpStyle.padded '0' width (Nat.toDigits base n))
    match radix with
    | "d" => digits 7 10
    | "o" => digits 7 8
    | "x" => digits 6 16
    | _ => ""
  dump styles count (isGiven given 'v') address (bytes.length + 2) skipped bytes none false

end Utility

end JobLaunch.Rehearsal
