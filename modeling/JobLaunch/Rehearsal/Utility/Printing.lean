import JobLaunch.Rehearsal.Format
import JobLaunch.Rehearsal.Utility.Options
import JobLaunch.Rehearsal.Utility.Quoting

/-!
# Utilities that print

* `Utility.echo`, `Utility.printf`, `Utility.yes`, `Utility.seq` — print texts and numbers.
-/

namespace JobLaunch.Rehearsal.Utility

/-! ## Texts -/

def echoEscapes : Escapes :=
  { octal := true, zeroOctal := true, hexadecimal := true, stops := true }

def echoLetters? (arg : String) : Option (List Char) :=
  match arg.toList with
  | '-' :: c :: cs => if (c :: cs).all "neE".toList.contains then some (c :: cs) else none
  | _ => none

def echo (args : List String) : Work Unit := do
  let letters := (args.takeWhile fun arg => (echoLetters? arg).isSome).map
    fun arg => (echoLetters? arg).getD []
  let text := " ".intercalate (args.drop letters.length)
  let letters := letters.flatten
  let (cs, stops) :=
    if (letters.filter (· ≠ 'n')).getLast? = some 'e' then echoEscapes.resolve text.toList
    else (text.toList, false)
  print (Bytes.ofChars (if stops || letters.contains 'n' then cs else cs ++ ['\n']))

def printStyle : Format.Style :=
  { format :=
      { octal := true, hexadecimal := true, stops := true, own := ['"'], characters := true }
    argument := {
      octal := true, zeroOctal := true, hexadecimal := true, stops := true, own := ['"']
      characters := true }
    machine := ⟨64, 16384⟩, quotation := { notesRest := true }
    modifiers := "hjlLtz".toList, quoted := some Quoting.shellIfNeeded }

def problemText : Format.Problem → String
  | .notNumber t => Quoting.typographic t ++ ": expected a numeric value"
  | .partly t => Quoting.typographic t ++ ": value not completely converted"
  | .tooLarge t => Quoting.typographic t ++ ": Numerical result out of range"
  | .directive t => t ++ ": invalid conversion specification"
  | .ignored t =>
    "warning: " ++ t ++ ": character(s) following character constant have been ignored"

/-- A format up to the first escape that lacks its hexadecimal digits, and whether there is one. -/
def beforeEmptyEscape : List Char → List Char × Bool
  | [] => ([], false)
  | '\\' :: c :: rest =>
    let least := if c = 'x' then 1 else if c = 'u' then 4 else if c = 'U' then 8 else 0
    let digits := (rest.take least).takeWhile fun d => (Escapes.hexDigit? d).isSome
    if digits.length < least then ([], true)
    else
      let (cs, found) := beforeEmptyEscape rest
      ('\\' :: c :: cs, found)
  | c :: rest =>
    let (cs, found) := beforeEmptyEscape rest
    (c :: cs, found)

def printf (args : List String) : Work Unit := do
  let (_, operands) ← options [] true 1 args
  match operands with
  | [] => misused 1 "missing operand"
  | format :: args =>
    let (usable, isBroken) := beforeEmptyEscape format.toList
    let r := if isBroken then Format.useWithin printStyle (usable.length + 1) usable { args }
      else Format.render printStyle format args
    -- Numbers are complained about before the output that they are in is written.
    for p in r.problems do
      let isDirective := p matches .directive _
      if isDirective then print (Bytes.ofChars r.output.reverse)
      complain (problemText p)
      if !(p matches .ignored _) then setCode 1
      if isDirective then leave 1
    print (Bytes.ofChars r.output.reverse)
    if isBroken && !r.ended then fail 1 "missing hexadecimal number in escape"
    if r.args.length = args.length && !r.ended then
      match args with
      | first :: _ =>
        complain ("warning: ignoring excess arguments, starting with " ++ Quoting.typographic first)
      | [] => pure ()

def repeatWithin (part : Bytes) : Nat → Work Unit
  | 0 => pure ()
  | n + 1 => do
    match ← lift (Routine.write 1 part) with
    | .ok () => repeatWithin part n
    | .error e => fail 1 ("standard output: " ++ e.reason)

def yes (args : List String) : Work Unit := do
  let (_, operands) ← options [] false 1 args
  let line := Bytes.ofText ((if operands.isEmpty then "y" else " ".intercalate operands) ++ "\n")
  let count := 8192 / line.length + 1
  repeatWithin (List.replicate count line).flatten 10000000

/-! ## Numbers -/

/-- A number that begins or ends a sequence, or is its step. -/
inductive SeqNumber where
  | finite (value : Format.Places) (width : Int) (places : Option Nat)
  | infinite (negative : Bool)

namespace SeqNumber

def shape (cs : List Char) : Option Nat × Int :=
  let width := Int.ofNat cs.length
  let whole := cs.takeWhile (· ≠ '.')
  let hasPoint := whole.length < cs.length
  if cs.any fun c => c = 'x' || c = 'X' then
    (if hasPoint || cs.contains 'p' then none else some 0, width)
  else
    let isE (c : Char) : Bool := c = 'e' || c = 'E'
    let fraction := (cs.drop (whole.length + 1)).takeWhile (!isE ·)
    let places := if hasPoint then fraction.length else 0
    let width := if !hasPoint then width
      else if places = 0 then width - 1
      else if whole.getLast?.all (!Text.isDigit ·) then width + 1 else width
    match cs.dropWhile (!isE ·) with
    | [] => (some places, width)
    | _ :: ds =>
      let (n, _) := Format.exponent 'e' ('e' :: ds)
      let places' := if n < 0 then places + n.natAbs else places - min places n.toNat
      let width := width - (ds.length + 1)
      let width := if n < 0 then if !hasPoint || places = 0 then width + 1 else width else width
      (some places', width + n.natAbs)

def read (text : String) : Work SeqNumber := do
  let cs := text.toList.dropWhile fun c => Text.isBlank c || c = '+'
  let word := String.ofList (cs.map Char.toLower)
  let plain := if cs.head? = some '-' then String.ofList (word.toList.drop 1) else word
  if plain = "inf" || plain = "infinity" then pure (.infinite (cs.head? = some '-'))
  else if plain = "nan" then
    misused 1 ("invalid " ++ Quoting.typographic "not-a-number" ++ " argument: " ++
      Quoting.typographic text)
  else match Format.places {} (if text.toList.head? = some '\'' then "" else text) with
    | (v, none) =>
      if cs.isEmpty then
        misused 1 ("invalid floating point argument: " ++ Quoting.typographic text)
      else pure (.finite v (shape cs).2 (shape cs).1)
    | (_, some _) => misused 1 ("invalid floating point argument: " ++ Quoting.typographic text)

def one : SeqNumber := .finite ⟨false, 1, 0⟩ 1 (some 0)

end SeqNumber

def scaledBy (v : Format.Places) (places : Nat) : Int :=
  let n := Int.ofNat (v.digits * Format.tens (places - v.places))
  if v.negative then -n else n

def placesText (places : Nat) (n : Int) : List Char :=
  (if n < 0 then ['-'] else []) ++ Format.withPoint places n.natAbs

/-- Prints the numbers from one to another one with separators between them, at most so many. -/
def countUp (text : Int → List Char) (separator : String) (step : Int) (last : Option Int) :
    Nat → Int → Work Unit
  | 0, _ => pure ()
  | fuel + 1, n => do
    print (Bytes.ofChars (text n))
    let next := n + step
    if last.any fun l => (0 < step && l < next) || (step < 0 && next < l) then printText "\n"
    else
      printText separator
      countUp text separator step last fuel next

/-- Marks where the numbers begin, if the first one is negative: it is no option. -/
def markNumbers : List String → List String
  | [] => []
  | arg :: rest =>
    match arg.toList, rest with
    | ['-', 's'], value :: rest | ['-', 'f'], value :: rest => arg :: value :: markNumbers rest
    | '-' :: c :: _, rest =>
      if Text.isDigit c || c == '.' then "--" :: arg :: rest
      else if arg = "--" then arg :: rest
      else arg :: markNumbers rest
    | _, rest => arg :: rest

def afterDirective : Nat → List Char → Option (List Char)
  | 0, _ => none
  | _, [] => none
  | n + 1, '%' :: '%' :: rest => afterDirective n rest
  | _, '%' :: rest => some rest
  | n + 1, _ :: rest => afterDirective n rest

def formatFault? (format : String) : Option String :=
  let named := "format " ++ Quoting.typographic format
  match afterDirective (format.length + 1) format.toList with
  | none => some (named ++ " has no % directive")
  | some cs =>
    let cs := (cs.dropWhile "-+#0 '".toList.contains).dropWhile Text.isDigit
    let cs := match cs with
      | '.' :: more => more.dropWhile Text.isDigit
      | cs => cs
    let cs := match cs with
      | 'L' :: more => more
      | cs => cs
    match cs with
    | [] => some (named ++ " ends in %")
    | c :: rest =>
      if !("efgaEFGA".toList.contains c) then
        some (named ++ " has unknown %" ++ String.ofList [c] ++ " directive")
      else if (afterDirective (rest.length + 1) rest).isSome then
        some (named ++ " has too many % directives")
      else none

/-- How the numbers of a sequence with so many places are written. -/
def seqText (format : Option String) (scale : Nat) (places : Option Nat) (width : Nat) (n : Int) :
    List Char :=
  let formatted (format : String) : List Char :=
    let kept := format.toList.flatMap fun c => if c = '\\' then ['\\', '\\'] else [c]
    (Format.render printStyle (String.ofList kept)
      [String.ofList (placesText scale n)]).output.reverse
  match format, places with
  | some format, _ => formatted format
  | none, none => formatted "%Lg"
  | none, some places =>
    let t := placesText places (n / Int.ofNat (Format.tens (scale - places)))
    let zeros := List.replicate (width - t.length) '0'
    match t with
    | '-' :: rest => '-' :: zeros ++ rest
    | t => zeros ++ t

def equalWidth (places : Nat) (first last : SeqNumber) : Nat :=
  match first, last with
  | .finite _ firstWidth (some firstPlaces), .finite _ lastWidth (some lastPlaces) =>
    let wider (width : Int) (own : Nat) : Int := width + (Int.ofNat places - Int.ofNat own)
    let l := wider lastWidth lastPlaces
    let l := if lastPlaces ≠ 0 && places = 0 then l - 1
      else if lastPlaces = 0 && places ≠ 0 then l + 1 else l
    let f := wider firstWidth firstPlaces
    let f := if firstPlaces = 0 && places ≠ 0 then f + 1 else f
    (max f l).toNat
  | _, _ => 0

def seq (args : List String) : Work Unit := do
  let (given, operands) ← options
    [.flag 'w' "equal-width", .taking 's' "separator", .taking 'f' "format"] true 1
    (markNumbers args)
  match operands with
  | [] => misused 1 "missing operand"
  | _ :: _ :: _ :: extra :: _ => misused 1 ("extra operand " ++ Quoting.typographic extra)
  | _ => pure ()
  let format := argument? given 'f'
  match format.bind formatFault? with
  | some text => fail 1 text
  | none => pure ()
  if format.isSome && isGiven given 'w' then
    misused 1 "format string may not be specified when printing equal width strings"
  let a ← SeqNumber.read (operands.headD "")
  let b ← operands[1]?.mapM SeqNumber.read
  let isZero := match b with
    | some (.finite v _ _) => v.digits = 0
    | _ => false
  if operands.length = 3 && isZero then
    misused 1 ("invalid Zero increment value: " ++ Quoting.typographic (operands[1]?.getD ""))
  let c ← operands[2]?.mapM SeqNumber.read
  let (first, step, last) := match b, c with
    | none, _ => (SeqNumber.one, SeqNumber.one, a)
    | some b, none => (a, .one, b)
    | some b, some c => (a, b, c)
  let separator := (argument? given 's').getD "\n"
  match first, step with
  | .finite f _ firstPlaces, .finite s _ stepPlaces =>
    let lastValue := match last with
      | .finite l _ _ => some l
      | .infinite _ => none
    let scale := max (max f.places s.places) ((lastValue.map (·.places)).getD 0)
    let places := match firstPlaces, stepPlaces, last with
      | some m, some n, .finite _ _ (some _) | some m, some n, .infinite _ => some (max m n)
      | _, _, _ => none
    let width := if isGiven given 'w' then equalWidth (places.getD 0) first last else 0
    let start := scaledBy f scale
    let by' := scaledBy s scale
    let stop := lastValue.map (scaledBy · scale)
    let isOver := match last with
      | .infinite negative => negative != decide (by' < 0)
      | _ => stop.any fun l => (0 < by' && l < start) || (by' < 0 && start < l)
    let isMinusZero := f.negative && f.digits = 0
    let text (n : Int) : List Char :=
      let t := seqText format scale places width n
      if isMinusZero && n = 0 && format.isNone then
        if isGiven given 'w' then '-' :: t.drop 1 ++ (if t.length = 1 then t else [])
        else '-' :: t
      else t
    if !isOver then countUp text separator by' stop 1000000000 start
  | .finite f _ firstPlaces, .infinite negative =>
    let isOver := match last with
      | .finite l _ _ => negative != decide (scaledBy l (max f.places l.places) <
          scaledBy f (max f.places l.places))
      | .infinite n => n != negative
    if !isOver then
      print (Bytes.ofChars (seqText format f.places firstPlaces 0 (scaledBy f f.places)))
      printText "\n"
  | .infinite _, _ => pure ()

end JobLaunch.Rehearsal.Utility
