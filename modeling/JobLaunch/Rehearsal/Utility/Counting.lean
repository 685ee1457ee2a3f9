import JobLaunch.Rehearsal.Regex
import JobLaunch.Rehearsal.Utility.Reading

/-!
# Utilities that count lines, number them, or turn them

* `Utility.wc` — counts of lines, words, characters and bytes.
* `Utility.nl` — lines with numbers.
* `Utility.tac`, `Utility.rev` — files and lines from the end to the start.
-/

namespace JobLaunch.Rehearsal

/-! ## Counts -/

structure TextCount where
  words : Nat := 0
  inWord : Bool := false
  widest : Nat := 0
  width : Nat := 0
  deriving DecidableEq, Inhabited

namespace TextCount

def isSpace (c : Char) : Bool :=
  [0xA0, 0x1680, 0x2028, 0x2029, 0x202F, 0x205F, 0x2060, 0x3000].contains c.toNat ||
    (0x2000 ≤ c.toNat && c.toNat ≤ 0x200A)

def wideRanges : List (Nat × Nat) :=
  [(0x1100, 0x115F), (0x2E80, 0x303E), (0x3041, 0xA4CF), (0xA960, 0xA97C), (0xAC00, 0xD7A3),
    (0xF900, 0xFAFF), (0xFE10, 0xFE19), (0xFE30, 0xFE6F), (0xFF01, 0xFF60), (0xFFE0, 0xFFE6),
    (0x1F300, 0x1F64F), (0x1F680, 0x1F6C5), (0x1F900, 0x1F9FF), (0x20000, 0x3FFFD)]

def flatRanges : List (Nat × Nat) :=
  [(0x300, 0x36F), (0x483, 0x489), (0x591, 0x5BD), (0x610, 0x61A), (0x64B, 0x65F),
    (0x200B, 0x200F), (0x202A, 0x202E), (0x20D0, 0x20F0), (0xFE00, 0xFE0F), (0xFE20, 0xFE2F),
    (0xE0100, 0xE01EF)]

def widthOf (c : Char) : Nat :=
  let isIn (ranges : List (Nat × Nat)) : Bool :=
    ranges.any fun (low, high) => low ≤ c.toNat && c.toNat ≤ high
  if isIn flatRanges then 0 else if isIn wideRanges then 2 else 1

def add (s : TextCount) (c : Char) : TextCount :=
  let gap (s : TextCount) : TextCount := { s with inWord := false }
  match c with
  | '\n' | '\r' | '\x0c' => gap { s with widest := max s.widest s.width, width := 0 }
  | '\t' => gap { s with width := s.width + (8 - s.width % 8) }
  | ' ' => gap { s with width := s.width + 1 }
  | '\x0b' => gap s
  | _ =>
    if isSpace c then gap { s with width := s.width + (if c.toNat = 0x2060 then 0 else widthOf c) }
    else if Quoting.isHidden c then s
    else { s with
      words := if s.inWord then s.words else s.words + 1
      inWord := true
      width := s.width + widthOf c }

def ofChars (cs : List Char) : TextCount :=
  let s := cs.foldl add {}
  { s with widest := max s.widest s.width }

end TextCount

namespace Utility

/-- The files that a list names, where a zero stands behind each name. -/
def listedFiles (list : String) (operands : List String) : Work (List String) := do
  match operands with
  | [] => pure ()
  | operand :: _ =>
    misused 1 ("extra operand " ++ Quoting.shell operand ++
      "\nfile operands cannot be combined with --files0-from")
  match ← readInput list with
  | .error e => fail 1 ("cannot open " ++ Quoting.shell list ++ " for reading: " ++ e.reason)
  | .ok bytes => pure ((linesBy 0 bytes).map fun name => Bytes.text (withoutStop 0 name))

def wc (args : List String) : Work Unit := do
  let (given, operands) ← options
    [.flag 'l' "lines", .flag 'w' "words", .flag 'm' "chars", .flag 'c' "bytes",
      .flag 'L' "max-line-length", .named 'f' "files0-from" .required] false 1 args
  let list := argument? given 'f'
  let shown := "lwmcL".toList.filter fun c =>
    if given.all (·.1 = 'f') then "lwc".toList.contains c else isGiven given c
  let files ← match list with
    | some list => listedFiles list operands
    | none => pure (if operands.isEmpty then ["-"] else operands)
  let mut rows : List (List Nat × String × String) := []
  let mut total : List Nat := shown.map fun _ => 0
  let mut isRegular := true
  let mut size := 0
  for (file, i) in files.zipIdx 1 do
    if file.isEmpty then
      rows := rows ++ [([], file, Quoting.shellIfNeeded (list.getD "") ++ ":" ++ Decimal.text i ++
        ": invalid zero-length file name")]
      setCode 1
    else match ← openInput file with
      | .error e =>
        rows := rows ++ [([], file, Quoting.shellIfNeeded file ++ ": " ++ e.reason)]
        setCode 1
      | .ok stream =>
        match ← ask (.inspectStream stream) with
        | .ok ⟨_, node, _⟩ =>
          if node.content matches .regular _ then size := size + node.size else isRegular := false
        | .error _ => isRegular := false
        let (bytes, error) ← match ← lift (Routine.readAll stream) with
          | .ok bytes => pure (bytes, "")
          | .error e =>
            setCode 1
            pure ([], Quoting.shellIfNeeded (if file = "-" then "standard input" else file) ++
              ": " ++ e.reason)
        closeInput stream
        let cs := Bytes.chars bytes
        let text := TextCount.ofChars cs
        let counts := shown.map fun c => match c with
          | 'l' => bytes.countP (· = lineFeed)
          | 'w' => text.words
          | 'm' => cs.countP fun c => !(Bytes.firstStandIn ≤ c.toNat)
          | 'c' => bytes.length
          | _ => text.widest
        rows := rows ++ [(counts, file, error)]
        -- The widest line of all is the widest one of some file.
        total := (List.zip shown (List.zip total counts)).map fun (c, old, new) =>
          if c = 'L' then max old new else old + new
  -- A single number is not widened. Otherwise the sizes of the files tell how wide numbers may be.
  let isSingle := shown.length = 1 && files.length = 1
  let width := if isSingle || list = some "-" then 1
    else max (if isRegular then 1 else 7) (Decimal.digits size).length
  let row (counts : List Nat) (file : String) : String :=
    " ".intercalate (counts.map (numberText width)) ++
      (if file.isEmpty then "" else " " ++ Quoting.shellIfNeeded file) ++ "\n"
  for (counts, file, error) in rows do
    if !error.isEmpty then complain error
    if !counts.isEmpty then
      printText (row counts (if operands.isEmpty && list.isNone then "" else file))
  if 1 < files.length then printText (row total "total")

end Utility

/-! ## Numbers -/

/-- Which lines get numbers. -/
inductive LineChoice where
  | all
  | full
  | none
  | found (r : Regex)
  deriving Inhabited

inductive PagePart where
  | head
  | body
  | foot
  deriving DecidableEq, Inhabited

structure Numbering where
  head : LineChoice := .none
  body : LineChoice := .full
  foot : LineChoice := .none
  delimiter : Bytes := [92, 58]
  first : Int := 1
  step : Int := 1
  restarts : Bool := true
  blanks : Int := 1
  separator : String := "\t"
  width : Nat := 6
  form : String := "rn"
  deriving Inhabited

namespace Numbering

open Utility

def choice (n : Numbering) : PagePart → LineChoice
  | .head => n.head
  | .body => n.body
  | .foot => n.foot

def partOf (n : Numbering) (line : Bytes) : Option PagePart :=
  if n.delimiter.length < 2 || line.length < 2 then none
  else
    let d := n.delimiter
    if line = d ++ d ++ d then some .head
    else if line = d ++ d then some .body
    else if line = d then some .foot
    else none

def text (n : Numbering) (number : Int) : String :=
  let ds := Decimal.text number.natAbs
  let sign := if number < 0 then "-" else ""
  let pad (c : Char) (length : Nat) : String := String.ofList (List.replicate (n.width - length) c)
  let length := sign.length + ds.length
  match n.form with
  | "ln" => sign ++ ds ++ pad ' ' length
  | "rz" => sign ++ pad '0' length ++ ds
  | _ => pad ' ' length ++ sign ++ ds

/-- How far the numbers have come. -/
structure Place where
  part : PagePart := .body
  number : Int
  empty : Int := 0
  deriving Inhabited

def line (n : Numbering) (p : Place) (line : Bytes) : Bytes × Place :=
  match n.partOf line with
  | some part =>
    ([lineFeed], { p with part, number := if n.restarts then n.first else p.number })
  | none =>
    let (isNumbered, empty) : Bool × Int := match n.choice p.part with
      | .all =>
        if n.blanks ≤ 1 then (true, p.empty)
        else if !line.isEmpty then (true, 0)
        else if p.empty + 1 = n.blanks then (true, 0)
        else (false, p.empty + 1)
      | .full => (!line.isEmpty, p.empty)
      | .none => (false, p.empty)
      | .found r => (r.isFound { chars := (Bytes.chars line).toArray }, p.empty)
    if isNumbered then
      (Bytes.ofText (n.text p.number ++ n.separator) ++ line ++ [lineFeed],
        { p with number := p.number + n.step, empty })
    else
      (List.replicate (n.width + (Bytes.ofText n.separator).length) 32 ++ line ++ [lineFeed],
        { p with empty })

def forms : List OptionForm :=
  [.taking 'h' "header-numbering", .taking 'b' "body-numbering", .taking 'f' "footer-numbering",
    .taking 'v' "starting-line-number", .taking 'i' "line-increment", .flag 'p' "no-renumber",
    .taking 'l' "join-blank-lines", .taking 's' "number-separator", .taking 'w' "number-width",
    .taking 'n' "number-format", .taking 'd' "section-delimiter"]

def choiceOf (part style : String) : Work (Option LineChoice) := do
  match style.toList with
  | 'a' :: _ => pure (some .all)
  | 't' :: _ => pure (some .full)
  | 'n' :: _ => pure (some .none)
  | 'p' :: cs =>
    match Regex.read .basic (String.ofList cs) with
    | .ok (r, _) => pure (some (.found r))
    | .error e => fail 1 e.message
  | _ =>
    complain ("invalid " ++ part ++ " numbering style: " ++ Quoting.typographic style)
    pure none

def greatest : Int := 9223372036854775807

/-- How lines are numbered, after one more option; none if the option is not right. -/
def withOption (n : Numbering) : OptionForm.Given → Work (Option Numbering)
  | ('h', some style) => do
    pure ((← choiceOf "header" style).map fun head => { n with head })
  | ('b', some style) => do
    pure ((← choiceOf "body" style).map fun body => { n with body })
  | ('f', some style) => do
    pure ((← choiceOf "footer" style).map fun foot => { n with foot })
  | ('v', some text) => do
    let first ← boundedNumber (-greatest - 1) greatest "invalid starting line number" text
    pure (some { n with first })
  | ('i', some text) => do
    let step ← boundedNumber (-greatest - 1) greatest "invalid line number increment" text
    pure (some { n with step })
  | ('p', _) => pure (some { n with restarts := false })
  | ('l', some text) => do
    let blanks ← boundedNumber 1 greatest "invalid line number of blank lines" text
    pure (some { n with blanks })
  | ('s', some separator) => pure (some { n with separator })
  | ('w', some text) => do
    let width ← boundedNumber 1 2147483647 "invalid line number field width" text
    pure (some { n with width := width.toNat })
  | ('n', some form) => do
    if ["ln", "rn", "rz"].contains form then pure (some { n with form })
    else
      complain ("invalid line numbering format: " ++ Quoting.typographic form)
      pure none
  | ('d', some text) =>
    let delimiter := Bytes.ofText text
    pure (some { n with
      delimiter := if delimiter.length = 1 then delimiter ++ n.delimiter.drop 1 else delimiter })
  | _ => pure (some n)

def withOptions : List OptionForm.Given → Numbering → Bool → Work (Numbering × Bool)
  | [], n, isRight => pure (n, isRight)
  | g :: given, n, isRight => do
    match ← withOption n g with
    | some n => withOptions given n isRight
    | none => withOptions given n false

end Numbering

namespace Utility

def nl (args : List String) : Work Unit := do
  let (given, operands) ← options Numbering.forms false 1 args
  let (n, isRight) ← Numbering.withOptions given {} true
  if !isRight then
    advise
    leave 1
  let mut p : Numbering.Place := { number := n.first }
  for file in if operands.isEmpty then ["-"] else operands do
    match ← readInput file with
    | .error e =>
      complain (Quoting.shellIfNeeded file ++ ": " ++ e.reason)
      setCode 1
    | .ok bytes =>
      for line in linesOf bytes do
        let (out, next) := n.line p (withoutEnd line)
        let isBeyond := p.number < -Numbering.greatest - 1 || Numbering.greatest < p.number
        if isBeyond && next.number ≠ p.number then fail 1 "line number overflow"
        print out
        p := next

/-! ## Turned files -/

/-- The places where a separator stands, the last one first; they do not overlap, and the last ones
are taken. What is searched is turned, as is the separator. -/
def lastPlaces (separator : Bytes) : Nat → Bytes → List Nat
  | 0, _ => []
  | _, [] => []
  | n + 1, b :: bs =>
    if separator.isPrefixOf (b :: bs) then
      let rest := (b :: bs).drop separator.length
      rest.length :: lastPlaces separator n rest
    else lastPlaces separator n bs

/-- The places where an expression is found before a place, and how long what is found is, the last
one first. -/
def lastMatches (r : Regex) (chars : Array Char) : Nat → Nat → List (Nat × Nat)
  | 0, _ => []
  | n + 1, stop =>
    let f : Regex.Field := { chars := chars.extract 0 stop }
    match (List.range stop).reverse.findSome? fun i =>
        (r.matchAt? f i).map fun m => (i, m.finish - i) with
    | none => []
    | some (i, length) => (i, length) :: lastMatches r chars n i

/-- The parts of something between places, of which the last one comes first. -/
def pieces {α : Type} (xs : List α) : List Nat → List (List α)
  | [] => [xs]
  | i :: places => xs.drop i :: pieces (xs.take i) places

/-- Prints the parts of files from the last one to the first one. -/
def tac (args : List String) : Work Unit := do
  let (given, operands) ← options
    [.flag 'b' "before", .flag 'r' "regex", .taking 's' "separator"] false 1 args
  let separator := (argument? given 's').getD "\n"
  let expression ←
    if !isGiven given 'r' then pure none
    else if separator.isEmpty then fail 1 "separator cannot be empty"
    else match Regex.read .basic separator with
      | .ok (r, _) => pure (some r)
      | .error e => fail 1 e.message
  let bytes := if separator.isEmpty then [0] else Bytes.ofText separator
  for file in if operands.isEmpty then ["-"] else operands do
    match ← readInput file with
    | .error e =>
      complain (if e = .isADirectory then Quoting.shellIfNeeded file ++ ": read error: " ++ e.reason
        else "failed to open " ++ Quoting.shell file ++ " for reading: " ++ e.reason)
      setCode 1
    | .ok content =>
      match expression with
      | some r =>
        let cs := Bytes.chars content
        let places := (lastMatches r cs.toArray (cs.length + 1) cs.length).map
          fun (i, length) => if isGiven given 'b' then i else i + length
        print ((pieces cs places).map Bytes.ofChars).flatten
      | none =>
        let places := (lastPlaces bytes.reverse (content.length + 1) content.reverse).map fun i =>
          if isGiven given 'b' then i else i + bytes.length
        print (pieces content places).flatten

def rev (args : List String) : Work Unit := do
  let (_, operands) ← options [] false 1 args
  for file in if operands.isEmpty then ["-"] else operands do
    match ← readInput file with
    | .error e =>
      complain ("cannot open " ++ file ++ ": " ++ e.reason)
      setCode 1
    | .ok bytes =>
      for line in linesOf bytes do
        let body := Bytes.ofChars (Bytes.chars (withoutEnd line)).reverse
        print (if line.getLast? = some lineFeed then body ++ [lineFeed] else body)

end Utility

end JobLaunch.Rehearsal
