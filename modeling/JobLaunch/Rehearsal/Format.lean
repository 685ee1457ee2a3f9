import JobLaunch.Rehearsal.Escapes
import JobLaunch.Text.Decimal

/-!
# Formatted output

* `Format.integer`, `Format.places` — the numbers that arguments stand for.
* `Format.render` — arguments put into a format, which is used again as long as arguments remain.
-/

namespace JobLaunch.Rehearsal

/-! ## Numbers -/

namespace Format

/-- Why a format or an argument is not as it should be. -/
inductive Problem where
  | notNumber (text : String)
  | partly (text : String)
  | tooLarge (text : String)
  | directive (text : String)
  | ignored (text : String)
  deriving DecidableEq, Inhabited

def greatest : Nat := 9223372036854775807

def basedDigits (cs : List Char) : Nat × List Char :=
  match cs with
  | '0' :: x :: c :: rest =>
    if (x = 'x' || x = 'X') && (Escapes.hexDigit? c).isSome then (16, c :: rest) else (8, cs)
  | '0' :: _ => (8, cs)
  | _ => (10, cs)

/-- How the number of a character is asked for. -/
structure Quotation where
  byBytes : Bool := false
  notesRest : Bool := false
  deriving DecidableEq, Inhabited

def Quotation.value (q : Quotation) (c : Char) (rest : List Char) : Nat × Option Problem :=
  (if q.byBytes then ((Bytes.ofChar c).headD 0).toNat else c.toNat,
    if q.notesRest && !rest.isEmpty then some (.ignored (String.ofList rest)) else none)

/-- The whole number that an argument stands for, and what is wrong with it. -/
def integer (q : Quotation) (text : String) (unsigned : Bool := false) : Int × Option Problem :=
  match text.toList with
  | [] => (0, none)
  | '\'' :: c :: rest | '"' :: c :: rest =>
    let (n, problem) := q.value c rest
    (Int.ofNat n, problem)
  | cs =>
    let (negative, number) := match cs.dropWhile Text.isBlank with
      | '-' :: rest => (true, rest)
      | '+' :: rest => (false, rest)
      | rest => (false, rest)
    let (base, digits) := basedDigits number
    let (used, rest) := digits.span fun c => (Escapes.hexDigit? c).any (· < base)
    let n := used.foldl (fun n c => n * base + (Escapes.hexDigit? c).getD 0) 0
    let most := if negative then greatest + 1
      else if unsigned then 2 * greatest + 1 else greatest
    let value := Int.ofNat (min n most)
    let problem := if used.isEmpty then some (.notNumber text)
      else if !rest.isEmpty then some (.partly text)
      else if most < n then some (.tooLarge text)
      else none
    (if negative then -value else value, problem)

def digitsIn (base : Nat) (upper : Bool) (n : Nat) : List Char :=
  let ds := Nat.toDigits base n
  if upper then ds.map Char.toUpper else ds

/-! ### Numbers with places -/

/-- A number: a whole number divided by a power of ten. -/
structure Places where
  negative : Bool
  digits : Nat
  places : Nat
  deriving Inhabited

def tens (n : Nat) : Nat := (List.replicate n 10).foldl (· * ·) 1

def fives (n : Nat) : Nat := tens n >>> n

def exponent (letter : Char) (cs : List Char) : Int × List Char :=
  match cs with
  | c :: more =>
    if c.toLower ≠ letter then (0, cs)
    else
    let (negative, digits) := match more with
      | '-' :: m => (true, m)
      | '+' :: m => (false, m)
      | m => (false, m)
    let (ds, after) := digits.span Text.isDigit
    let n := Int.ofNat (min (Decimal.value ds) 5000)
    if ds.isEmpty then (0, cs) else (if negative then -n else n, after)
  | [] => (0, cs)

/-- The number with places at the start of a text without a sign, if there is one. -/
def unsignedPlaces? (negative : Bool) (cs : List Char) : Option (Places × List Char) :=
  let based := match cs with
    | '0' :: x :: '.' :: c :: rest =>
      if (x = 'x' || x = 'X') && (Escapes.hexDigit? c).isSome then (16, '.' :: c :: rest)
      else (10, cs)
    | _ => basedDigits cs
  match based with
  | (16, digits) =>
    let (whole, rest) := digits.span fun c => (Escapes.hexDigit? c).isSome
    let (fraction, rest) := match rest with
      | '.' :: more => more.span fun c => (Escapes.hexDigit? c).isSome
      | _ => ([], rest)
    let (shift, rest) := exponent 'p' rest
    let n := (whole ++ fraction).foldl (fun n c => n * 16 + (Escapes.hexDigit? c).getD 0) 0
    let point := 4 * Int.ofNat fraction.length - shift
    some (if point < 0 then ⟨negative, n <<< (-point).toNat, 0⟩
      else ⟨negative, n * fives point.toNat, point.toNat⟩, rest)
  | _ =>
    let (whole, rest) := cs.span Text.isDigit
    let (fraction, rest) := match rest with
      | '.' :: more => more.span Text.isDigit
      | _ => ([], rest)
    if whole.isEmpty && fraction.isEmpty then none
    else
      let (shift, rest) := exponent 'e' rest
      let n := Decimal.value (whole ++ fraction)
      let point := Int.ofNat fraction.length - shift
      some (if point < 0 then ⟨negative, n * tens (-point).toNat, 0⟩
        else ⟨negative, n, point.toNat⟩, rest)

/-- The number with places that an argument stands for, and what is wrong with it. -/
def places (q : Quotation) (text : String) : Places × Option Problem :=
  match text.toList with
  | [] => (⟨false, 0, 0⟩, none)
  | '\'' :: c :: rest | '"' :: c :: rest =>
    let (n, problem) := q.value c rest
    (⟨false, n, 0⟩, problem)
  | cs =>
    let (negative, unsigned) := match cs.dropWhile Text.isBlank with
      | '-' :: rest => (true, rest)
      | '+' :: rest => (false, rest)
      | rest => (false, rest)
    match unsignedPlaces? negative unsigned with
    | none => (⟨false, 0, 0⟩, some (.notNumber text))
    | some (v, rest) => (v, if rest.isEmpty then none else some (.partly text))

/-- A quotient rounded to the nearest whole number, a half to the even one. -/
def roundedDiv (n d : Nat) : Nat :=
  let q := n / d
  let r := 2 * (n % d)
  if d < r || (r = d && q % 2 = 1) then q + 1 else q

def roundedShift (n d : Nat) (shift : Int) : Nat :=
  if 0 ≤ shift then roundedDiv (n <<< shift.toNat) d else roundedDiv n (d <<< (-shift).toNat)

/-- A number that fits into a machine: the nearest one with so many binary digits. -/
structure Machine where
  bits : Nat
  range : Nat
  deriving DecidableEq, Inhabited

/-- The binary digits of the nearest number that fits into a machine, and by how many of them it is
to be divided; nothing if the number is too large. -/
def Machine.binary? (m : Machine) (v : Places) : Option (Nat × Int) :=
  let d := tens v.places
  -- The quotient has at least as many binary digits as there are, and at most one more.
  let shift := Int.ofNat m.bits - (Int.ofNat v.digits.log2 - Int.ofNat d.log2)
  let wide := roundedShift v.digits d shift
  let shift := shift - (Int.ofNat (wide.log2 + 1) - Int.ofNat m.bits)
  -- Small numbers have fewer binary digits.
  let shift := min shift (Int.ofNat (m.range + m.bits) - 3)
  let n := roundedShift v.digits d shift
  if Int.ofNat m.range ≤ Int.ofNat n.log2 - shift then none else some (n, shift)

/-- The nearest number that fits into a machine; nothing if the number is too large. -/
def Machine.nearest? (m : Machine) (v : Places) : Option Places :=
  if v.digits = 0 then some v
  else (m.binary? v).map fun (n, shift) =>
    if shift ≤ 0 then ⟨v.negative, n <<< (-shift).toNat, 0⟩
    else ⟨v.negative, n * fives shift.toNat, shift.toNat⟩

/-- Has a number lost some of its digits because it is so small? -/
def Machine.isBlurred (m : Machine) (v near : Places) : Bool :=
  (near.digits * tens v.places ≠ v.digits * tens near.places) &&
    (near.digits <<< (m.range - 2)) < tens near.places

def roundedTo (v : Places) (count : Nat) : Nat :=
  if v.places ≤ count then v.digits * tens (count - v.places)
  else roundedDiv v.digits (tens (v.places - count))

def withPoint (count n : Nat) : List Char :=
  let ds := Decimal.digits n
  let ds := List.replicate (count + 1 - ds.length) '0' ++ ds
  let whole := ds.take (ds.length - count)
  if count = 0 then whole else whole ++ '.' :: ds.drop whole.length

def exponentOf (v : Places) : Int :=
  if v.digits = 0 then 0
  else Int.ofNat (Decimal.digits v.digits).length - 1 - Int.ofNat v.places

/-- The digits of a number with one digit before the point, and its exponent. -/
def scaled (v : Places) (count : Nat) : Nat × Int :=
  let e := exponentOf v
  -- The number times a power of ten that leaves so many places.
  let shift := Int.ofNat count - e - Int.ofNat v.places
  let n := if shift < 0 then roundedDiv v.digits (tens (-shift).toNat)
    else v.digits * tens shift.toNat
  if tens (count + 1) ≤ n then (n / 10, e + 1) else (n, e)

def exponentText (e : Int) : List Char :=
  let ds := Decimal.digits e.natAbs
  (if e < 0 then '-' else '+') :: List.replicate (2 - ds.length) '0' ++ ds

def withoutZeros (cs : List Char) : List Char :=
  if cs.contains '.' then
    let cs := (cs.reverse.dropWhile (· = '0')).reverse
    if cs.getLast? == some '.' then cs.dropLast else cs
  else cs

/-- A number with places without its sign: with a fixed number of them, with an exponent, or in the
shorter way. -/
def placesText (letter : Char) (precision : Nat) (sharp : Bool) (v : Places) : List Char :=
  let e := if letter.isUpper then 'E' else 'e'
  let point := if sharp && precision = 0 then ['.'] else []
  match letter.toLower with
  | 'f' => withPoint precision (roundedTo v precision) ++ point
  | 'e' =>
    let (n, x) := scaled v precision
    withPoint precision n ++ point ++ e :: exponentText x
  | _ =>
    let p := if precision = 0 then 1 else precision
    let (n, x) := scaled v (p - 1)
    let trim (cs : List Char) : List Char := if sharp then cs else withoutZeros cs
    if x < -4 || Int.ofNat p ≤ x then trim (withPoint (p - 1) n) ++ e :: exponentText x
    else
      let count := (Int.ofNat p - 1 - x).toNat
      trim (withPoint count (roundedTo v count))

/-- The hexadecimal digits of a number without its sign, with a power of two. -/
def binaryText (m : Machine) (precision : Option Nat) (sharp : Bool) (v : Places) : List Char :=
  let count := (m.bits - 1) / 4
  let (n, shift) := if v.digits = 0 then (0, 4 * Int.ofNat count)
    else (m.binary? v).getD (0, 4 * Int.ofNat count)
  let x := 4 * Int.ofNat count - shift
  -- Rounding may give one digit more before the point.
  let (n, places, x) := match precision with
    | none => (n, count, x)
    | some p =>
      if count ≤ p then (n <<< (4 * (p - count)), p, x)
      else
        let r := roundedDiv n (1 <<< (4 * (count - p)))
        if 1 <<< (4 * (p + 1)) ≤ r then (r >>> 4, p, x + 4) else (r, p, x)
  let ds := digitsIn 16 false n
  let ds := List.replicate (places + 1 - ds.length) '0' ++ ds
  let fraction := ds.drop (ds.length - places)
  let fraction := if precision.isNone then (fraction.reverse.dropWhile (· = '0')).reverse
    else fraction
  let point := if fraction.isEmpty && !sharp then [] else ['.']
  ds.take (ds.length - places) ++ point ++ fraction ++
    'p' :: (if x < 0 then '-' else '+') :: Decimal.digits x.natAbs

/-! ## Directives -/

/-- How an argument is put into a format. -/
structure Directive where
  flags : List Char
  width : Nat
  precision : Option Nat
  letter : Char
  text : List Char

namespace Directive

def pad (d : Directive) (cs : List Char) : List Char :=
  let blanks := List.replicate (d.width - (Bytes.ofChars cs).length) ' '
  if d.flags.contains '-' then cs ++ blanks else blanks ++ cs

def fill (d : Directive) (zeros : Bool) (sign digits : List Char) : List Char :=
  if zeros && d.flags.contains '0' && !d.flags.contains '-' then
    sign ++ List.replicate (d.width - sign.length - digits.length) '0' ++ digits
  else d.pad (sign ++ digits)

def sign (d : Directive) (negative : Bool) : List Char :=
  if negative then ['-'] else if d.flags.contains '+' then ['+']
  else if d.flags.contains ' ' then [' '] else []

def integerText (d : Directive) (v : Int) : List Char :=
  let atLeast (ds : List Char) : List Char :=
    let ds := if d.precision = some 0 && v = 0 then [] else ds
    List.replicate (d.precision.getD 1 - ds.length) '0' ++ ds
  if d.letter = 'd' || d.letter = 'i' then
    d.fill d.precision.isNone (d.sign (v < 0)) (atLeast (Decimal.digits v.natAbs))
  else
    let n := (if v < 0 then v + 18446744073709551616 else v).toNat
    let sharp := d.flags.contains '#'
    match d.letter with
    | 'u' => d.fill d.precision.isNone [] (atLeast (Decimal.digits n))
    | 'o' =>
      let ds := atLeast (digitsIn 8 false n)
      d.fill d.precision.isNone [] (if sharp && ds.head? != some '0' then '0' :: ds else ds)
    | x =>
      let ds := atLeast (digitsIn 16 (x = 'X') n)
      d.fill d.precision.isNone (if sharp && n ≠ 0 then ['0', x] else []) ds

def numberText (d : Directive) (m : Machine) (v : Places) : List Char :=
  let sharp := d.flags.contains '#'
  if d.letter = 'a' then
    d.fill true (d.sign v.negative ++ ['0', 'x']) (binaryText m d.precision sharp v)
  else if d.letter = 'A' then
    d.fill true (d.sign v.negative ++ ['0', 'X'])
      ((binaryText m d.precision sharp v).map Char.toUpper)
  else d.fill true (d.sign v.negative)
    (placesText d.letter (d.precision.getD 6) sharp v)

/-- A word that stands in place of a number, as the directive says. -/
def wordText (d : Directive) (negative : Bool) (word : String) : List Char :=
  let word := word.toList
  d.fill false (d.sign negative) (if d.letter.isUpper then word.map Char.toUpper else word)

end Directive

/-! ## Formats -/

structure Style where
  format : Escapes
  argument : Escapes
  machine : Machine
  quotation : Quotation := {}
  modifiers : List Char := []
  quoted : Option (String → String)
  moment : Option (Int → String → String) := none

/-- How far a format has been used. -/
structure State where
  output : List Char := []
  args : List String
  problems : List Problem := []
  ended : Bool := false
  asked : Bool := false

namespace State

def add (s : State) (cs : List Char) : State := { s with output := cs.reverse ++ s.output }

def takeArg (s : State) : Option String × State :=
  (s.args.head?, { s with args := s.args.tail, asked := true })

def note (s : State) (p : Option Problem) : State :=
  { s with problems := s.problems ++ p.toList }

end State

def widthFrom (q : Quotation) (s : State) (cs : List Char) : Option Int × State × List Char :=
  match cs with
  | '*' :: rest =>
    let (arg, s) := s.takeArg
    let (v, p) := integer q (arg.getD "")
    (some v, s.note p, rest)
  | _ =>
    let (ds, rest) := cs.span Text.isDigit
    (if ds.isEmpty then none else some (Int.ofNat (Decimal.value ds)), s, rest)

def putNumber (style : Style) (d : Directive) (text : String) (s : State) : State :=
  let (negative, word) := match (text.toList.dropWhile Text.isBlank).map Char.toLower with
    | '-' :: rest => (true, String.ofList rest)
    | '+' :: rest => (false, String.ofList rest)
    | rest => (false, String.ofList rest)
  if word = "inf" || word = "infinity" then s.add (d.wordText negative "inf")
  else if word = "nan" then s.add (d.wordText negative "nan")
  else
    let (v, p) := places style.quotation text
    match style.machine.nearest? v with
    | some near =>
      let problem := if style.machine.isBlurred v near then some (.tooLarge text) else none
      (s.note (p.or problem)).add (d.numberText style.machine near)
    | none => (s.note (p.or (some (.tooLarge text)))).add (d.wordText v.negative "inf")

def put (style : Style) (d : Directive) (s : State) : State :=
  let cut (cs : List Char) : List Char := match d.precision with
    | some n => Bytes.chars ((Bytes.ofChars cs).take n)
    | none => cs
  if "diouxX".toList.contains d.letter then
    let (arg, s) := s.takeArg
    let (v, p) := integer style.quotation (arg.getD "") (d.letter ≠ 'd' && d.letter ≠ 'i')
    (s.note p).add (d.integerText v)
  else if "feEgGFaA".toList.contains d.letter then
    let (arg, s) := s.takeArg
    putNumber style d (arg.getD "") s
  else match d.letter, style.quoted with
    | 's', _ =>
      let (arg, s) := s.takeArg
      s.add (d.pad (cut (arg.getD "").toList))
    | 'c', _ =>
      let (arg, s) := s.takeArg
      s.add (d.pad (Bytes.chars ((Bytes.ofText (arg.getD "")).take 1)))
    | 'b', _ =>
      let (arg, s) := s.takeArg
      let (cs, stops) := style.argument.resolve (arg.getD "").toList
      { s.add (d.pad (cut cs)) with ended := stops }
    | 'q', some quote =>
      let (arg, s) := s.takeArg
      s.add (d.pad (cut (quote (arg.getD "")).toList))
    | _, _ => { s.note (some (.directive (String.ofList d.text))) with ended := true }

/-- The form of a point in time between brackets, and what follows it. -/
def momentForm? (cs : List Char) : Option (List Char × List Char) :=
  match cs with
  | '(' :: more =>
    match more.span (· ≠ ')') with
    | (form, ')' :: 'T' :: rest) => some (form, rest)
    | _ => none
  | _ => none

def useWithin (style : Style) : Nat → List Char → State → State
  | 0, _, s => s
  | n + 1, cs, s =>
    if s.ended then s
    else match cs with
      | [] => s
      | '\\' :: rest =>
        match style.format.meaning rest with
        | .char c rest => useWithin style n rest (s.add [c])
        | .stop => { s with ended := true }
        | .none => useWithin style n rest (s.add ['\\'])
      | '%' :: '%' :: rest => useWithin style n rest (s.add ['%'])
      | '%' :: rest =>
        let (flags, after) := rest.span "#-+ 0".toList.contains
        let (width, s, after) := widthFrom style.quotation s after
        let (precision, s, after) := match after with
          | '.' :: more =>
            let (p, s, more) := widthFrom style.quotation s more
            (some (p.getD 0), s, more)
          | _ => (none, s, after)
        let after := after.dropWhile style.modifiers.contains
        let w := width.getD 0
        let text := '%' :: rest.take (rest.length - after.length + 1)
        let d : Directive :=
          { flags := if w < 0 then '-' :: flags else flags, width := w.natAbs
            precision := precision.bind fun p => if p < 0 then none else some p.toNat
            letter := after.headD '\x00', text }
        match style.moment, momentForm? after with
        | some told, some (form, rest) =>
          let (arg, s) := s.takeArg
          let (v, p) := match arg with
            | some t => integer style.quotation t
            | none => (-1, none)
          let form := if form.isEmpty then "%X" else String.ofList form
          useWithin style n rest ((s.note p).add (d.pad (told v form).toList))
        | _, _ => useWithin style n (after.drop 1) (put style d s)
      | c :: rest => useWithin style n rest (s.add [c])

/-- Uses a format as long as it asks for arguments and some are left. -/
def renderWithin (style : Style) (format : List Char) : Nat → State → State
  | 0, s => s
  | n + 1, s =>
    let s := useWithin style (format.length + 1) format { s with asked := false }
    if s.ended || s.args.isEmpty || !s.asked then s else renderWithin style format n s

def render (style : Style) (format : String) (args : List String) : State :=
  renderWithin style format.toList (args.length + 1) { args }

end Format

end JobLaunch.Rehearsal
