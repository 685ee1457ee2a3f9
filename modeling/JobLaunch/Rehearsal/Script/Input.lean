import JobLaunch.Rehearsal.Script.Output

/-!
# Builtin commands that read

* `Sh.readLine` — variables from a line of input.
* `Sh.readLines` — a variable from all lines.
-/

namespace JobLaunch.Rehearsal.Script.Sh

/-- Reads characters up to the end of a line, one byte after the other, at most so many. A backslash
hides the next character. Tells whether the end of the line was there. -/
def readBytesWithin (stream : Nat) (raw : Bool) (stop : Option UInt8) :
    Nat → List (UInt8 × Bool) → Bool → Sh (List (UInt8 × Bool) × Bool)
  | 0, done, _ => pure (done.reverse, false)
  | n + 1, done, hidden => do
    match ← ask (.read stream 1) with
    | .ok [b] =>
      if hidden then
        if b = 10 then readBytesWithin stream raw stop n done false
        else readBytesWithin stream raw stop n ((b, true) :: done) false
      else if b = 92 && !raw then readBytesWithin stream raw stop n done true
      else if some b = stop then pure (done.reverse, true)
      else readBytesWithin stream raw stop n (if b = 0 then done else (b, false) :: done) false
    | _ => pure (done.reverse, false)

def glyphsOf (bytes : List (UInt8 × Bool)) : List Glyph :=
  let rec go : Nat → List (UInt8 × Bool) → List Glyph
    | 0, _ => []
    | _, [] => []
    | n + 1, (b, hidden) :: rest =>
      let same := rest.takeWhile (·.2 = hidden)
      let cs := Bytes.chars (b :: same.map (·.1))
      cs.map (fun c => ⟨c, if hidden then .quoted else .expanded⟩) ++ go n (rest.drop same.length)
  go (bytes.length + 1) bytes

def shareOut (separators : List Char) : Nat → List Glyph → List (List Glyph)
  | 0, _ => []
  | count + 1, gs =>
    let isBlank (g : Glyph) : Bool :=
      g.origin = .expanded && separators.contains g.char &&
        (g.char = ' ' || g.char = '\t' || g.char = '\n')
    let isSeparator (g : Glyph) : Bool := g.origin = .expanded && separators.contains g.char
    let gs := gs.dropWhile isBlank
    let trimmed := (gs.reverse.dropWhile isBlank).reverse
    if count = 0 then
      -- A single separator at the end of the last field is left out if it holds no other.
      let others := trimmed.filter (isSeparator ·)
      match trimmed.reverse with
      | g :: before =>
        if isSeparator g && !isBlank g && others.length = 1 then [before.reverse] else [trimmed]
      | [] => [trimmed]
    else
      let (field, rest) := gs.span (!isSeparator ·)
      let rest := rest.dropWhile isBlank
      let rest := match rest with
        | g :: more => if isSeparator g then more else rest
        | [] => rest
      field :: shareOut separators count rest

/-- How `read` reads. -/
structure LineOptions where
  raw : Bool := false
  stop : Option Char := some '\n'
  most : Option Nat := none
  table : Option String := none
  stream : Nat := 0

/-- The character that ends lines, given by an argument; the empty one stands for no character. -/
def stopOf (arg : String) : Char := arg.toList.headD '\x00'

def LineOptions.ofGivens (given : Givens) : LineOptions where
  raw := given.has 'r'
  stop := if given.has 'N' then none else some (stopOf ((given.argument? 'd').getD "\n"))
  most := ((given.argument? 'n').or (given.argument? 'N')).map fun t => Decimal.value t.toList
  table := given.argument? 'a'
  stream := ((given.argument? 'u').map fun t => Decimal.value t.toList).getD 0

def allFields (separators : List Char) (gs : List Glyph) : List String :=
  ((cutFields separators (gs.map .glyph))).map textOfGlyphs

def isReadable (command : String) (stream : Nat) : Sh Bool := do
  match ← ask (.read stream 0) with
  | .ok _ => pure true
  | .error e =>
    complain (command ++ ": " ++ Decimal.text stream ++ ": invalid file descriptor: " ++ e.reason)
    pure false

def readLine (given : Givens) (names : List String) : Sh Nat := do
  let o := LineOptions.ofGivens given
  let extended ← isExtended
  if names.isEmpty && !extended then fail "arg count"
  for name in names do
    if !isName (nameAndKey name).1.toList || (!extended && !isName name.toList) then
      if extended then
        complain ("read: \x60" ++ name ++ "': not a valid identifier")
        setStatus 1
        throw .failure
      else fail (name ++ ": bad variable name")
  if extended && given.argument? 't' = some "0" then return 0
  if given.has 'u' && !(← isReadable "read" o.stream) then return 1
  let (bytes, ended) ←
    readBytesWithin o.stream o.raw (o.stop.map (·.toNat.toUInt8)) (o.most.getD 10000000) [] false
  let gs := (← get).dialect.glyphs (glyphsOf bytes)
  match o.table, o.stop with
  | some name, _ => assignTable name (.ofList (allFields (← separators) gs))
  | none, none =>
    let texts := textOfGlyphs gs :: names.tail.map fun _ => ""
    for (name, text) in (if names.isEmpty then ["REPLY"] else names).zip texts do
      giveNamed name text
  | none, some _ =>
    if names.isEmpty then give "REPLY" (textOfGlyphs gs) false
    else
      for (name, field) in names.zip (shareOut (← separators) names.length gs) do
        giveNamed name (textOfGlyphs field)
  pure (if ended || o.most.any (· ≤ bytes.length) then 0 else 1)

def linesWithin (stream : Nat) (stop : Char) (keeps : Bool) : Nat → List String → Sh (List String)
  | 0, done => pure done.reverse
  | n + 1, done => do
    let (bytes, ended) ←
      readBytesWithin stream true (some stop.toNat.toUInt8) 10000000 [] false
    let text := String.ofList (Bytes.chars (bytes.map (·.1)))
    if ended then
      linesWithin stream stop keeps n ((if keeps then text.push stop else text) :: done)
    else pure (if text.isEmpty then done else text :: done).reverse

def readLines (given : Givens) (args : List String) : Sh Nat := do
  let name := args.headD "MAPFILE"
  let number (c : Char) (otherwise : Nat) : Nat :=
    ((given.argument? c).map fun t => Decimal.value t.toList).getD otherwise
  let stream := number 'u' 0
  if given.has 'u' && !(← isReadable "mapfile" stream) then return 1
  if !isName name.toList then
    complain ("mapfile: \x60" ++ name ++ "': not a valid identifier")
    return 1
  let stop := stopOf ((given.argument? 'd').getD "\n")
  let _ ← linesWithin stream stop false (number 's' 0) []
  let count := number 'n' 0
  let lines ← linesWithin stream stop (!given.has 't' && stop ≠ '\x00')
    (if count = 0 then 10000000 else count) []
  match given.argument? 'O' with
  | some _ =>
    for (line, n) in lines.zipIdx (number 'O' 0) do assignElement name (.number n) line
  | none => assignTable name (.ofList lines)
  pure 0

end JobLaunch.Rehearsal.Script.Sh
