import JobLaunch.Json.Basic
import JobLaunch.Text.Blank
import JobLaunch.Text.Decimal

/-!
# Reading JSON text

* `Json.read?` — the value that a text writes, blanks around it allowed.
* `Json.value`, `Json.elements`, `Json.members` — the readers of a value, of the rest of an array
  and of the rest of an object, each with the text that follows.

Every reader consumes at least one character before it calls another, so fuel of one more than the
length of the text is never used up.
-/

namespace JobLaunch.Json

open Text (isDigit)

/-- The four blanks of JSON. -/
def isSpace (c : Char) : Bool := c == ' ' || c == '\n' || c == '\t' || c == '\r'

/-- A text without its leading JSON blanks. -/
def skipSpace (cs : List Char) : List Char := cs.dropWhile isSpace

/-! ## Strings -/

/-- A piece of a string's body: a character, or the number of a `\u` escape. -/
inductive Piece where
  | char (c : Char)
  | unit (u : Nat)
  deriving DecidableEq, Inhabited

/-- The value of a hexadecimal digit. -/
def hexDigit? (c : Char) : Option Nat :=
  if isDigit c then some (c.toNat - 48)
  else if 'a' ≤ c && c ≤ 'f' then some (c.toNat - 87)
  else if 'A' ≤ c && c ≤ 'F' then some (c.toNat - 55)
  else none

/-- The number that four hexadecimal digits write. -/
def hex4? (a b c d : Char) : Option Nat :=
  match hexDigit? a, hexDigit? b, hexDigit? c, hexDigit? d with
  | some a, some b, some c, some d => some (4096 * a + 256 * b + 16 * c + d)
  | _, _, _, _ => none

def letterEscape? : Char → Option Char
  | '"' => some '"'
  | '\\' => some '\\'
  | '/' => some '/'
  | 'b' => some '\x08'
  | 'f' => some '\x0c'
  | 'n' => some '\n'
  | 'r' => some '\r'
  | 't' => some '\t'
  | _ => none

/-- The pieces of a string up to its closing quote, and the text after that. -/
def body : List Char → Option (List Piece × List Char)
  | [] => none
  | '"' :: r => some ([], r)
  | '\\' :: 'u' :: a :: b :: c :: d :: r =>
    match hex4? a b c d with
    | some u => (body r).map fun (ps, r') => (.unit u :: ps, r')
    | none => none
  | '\\' :: c :: r =>
    match letterEscape? c with
    | some e => (body r).map fun (ps, r') => (.char e :: ps, r')
    | none => none
  | c :: r =>
    if c == '\\' || c.toNat < 0x20 then none
    else (body r).map fun (ps, r') => (.char c :: ps, r')

/-- The first half of a surrogate pair. -/
def isHighHalf (u : Nat) : Bool := 0xD800 ≤ u && u < 0xDC00

/-- The second half of a surrogate pair. -/
def isLowHalf (u : Nat) : Bool := 0xDC00 ≤ u && u < 0xE000

def pairChar (high low : Nat) : Char :=
  Char.ofNat (0x10000 + 0x400 * (high - 0xD800) + (low - 0xDC00))

/-- The characters of a string's body, escapes of surrogate pairs joined; `none` if a half of a
pair stands alone. -/
def assemble : List Piece → Option (List Char)
  | [] => some []
  | .char c :: ps => (assemble ps).map (c :: ·)
  | .unit u :: .unit v :: ps =>
    if isHighHalf u then
      if isLowHalf v then (assemble ps).map (pairChar u v :: ·) else none
    else if isLowHalf u then none
    else (assemble (.unit v :: ps)).map (Char.ofNat u :: ·)
  | .unit u :: ps =>
    if isHighHalf u || isLowHalf u then none
    else (assemble ps).map (Char.ofNat u :: ·)

/-- The text of a string after its opening quote, and the text after the string. -/
def stringRest (cs : List Char) : Option (Option String × List Char) :=
  (body cs).map fun (ps, r) => ((assemble ps).map String.ofList, r)

/-! ## Numbers -/

/-- The leading digits of a text and what follows them. -/
def spanDigits (cs : List Char) : List Char × List Char :=
  (cs.takeWhile isDigit, cs.dropWhile isDigit)

/-- The digits of a fraction, if a point follows; at least one is needed then. -/
def fraction? : List Char → Option (Option (List Char) × List Char)
  | '.' :: r =>
    match spanDigits r with
    | ([], _) => none
    | (ds, r') => some (some ds, r')
  | cs => some (none, cs)

/-- A sign and at least one digit. -/
def exponentRest (cs : List Char) : Option (Option Int × List Char) :=
  let (negative, cs) : Bool × List Char := match cs with
    | '-' :: r => (true, r)
    | '+' :: r => (false, r)
    | r => (false, r)
  match spanDigits cs with
  | ([], _) => none
  | (ds, r) =>
    let n : Int := Decimal.value ds
    some (some (if negative then -n else n), r)

/-- The exponent, if the letter for one follows. -/
def exponent? : List Char → Option (Option Int × List Char)
  | 'e' :: r => exponentRest r
  | 'E' :: r => exponentRest r
  | cs => some (none, cs)

/-- The number of a numeral's parts. -/
def numberOf (negative : Bool) (whole : List Char) (fraction : Option (List Char))
    (exponent : Option Int) : Number :=
  let digits (ds : List Char) := ds.map Decimal.digitValue
  match fraction, exponent with
  | none, none =>
    let n := Decimal.value whole
    if !negative then .integer n
    else if n = 0 then .decimal true 0 0
    else .integer (-n)
  | _, _ =>
    let (s, e) := Number.scaled (digits whole) (digits (fraction.getD [])) (exponent.getD 0)
    .decimal negative s e

/-- A numeral without its sign: no zero leads unless it is the only whole digit. -/
def unsigned (negative : Bool) (cs : List Char) : Option (Number × List Char) :=
  match spanDigits cs with
  | ([], _) => none
  | ('0' :: _ :: _, _) => none
  | (whole, r) => do
    let (f, r) ← fraction? r
    let (e, r) ← exponent? r
    some (numberOf negative whole f e, r)

def numeral : List Char → Option (Number × List Char)
  | '-' :: r => unsigned true r
  | cs => unsigned false cs

/-! ## Values -/

mutual
def value : Nat → List Char → Option (Json × List Char)
  | 0, _ => none
  | fuel + 1, cs =>
    match skipSpace cs with
    | '"' :: r => (stringRest r).map fun (t, r') => (.string t, r')
    | '[' :: r =>
      match skipSpace r with
      | ']' :: r' => some (.array [], r')
      | r' => (elements fuel r').map fun (es, r'') => (.array es, r'')
    | '\x7b' :: r =>
      match skipSpace r with
      | '\x7d' :: r' => some (.object [], r')
      | r' => (members fuel r').map fun (ms, r'') => (.object ms, r'')
    | 'n' :: 'u' :: 'l' :: 'l' :: r => some (.null, r)
    | 't' :: 'r' :: 'u' :: 'e' :: r => some (.bool true, r)
    | 'f' :: 'a' :: 'l' :: 's' :: 'e' :: r => some (.bool false, r)
    | r => (numeral r).map fun (n, r') => (.number n, r')

/-- The elements of an array up to its closing bracket. -/
def elements : Nat → List Char → Option (List Json × List Char)
  | 0, _ => none
  | fuel + 1, cs =>
    match value fuel cs with
    | none => none
    | some (j, r) =>
      match skipSpace r with
      | ']' :: r' => some ([j], r')
      | ',' :: r' => (elements fuel r').map fun (js, r'') => (j :: js, r'')
      | _ => none

/-- The members of an object up to its closing brace. -/
def members : Nat → List Char → Option (List (Option String × Json) × List Char)
  | 0, _ => none
  | fuel + 1, cs =>
    match skipSpace cs with
    | '"' :: r =>
      match stringRest r with
      | none => none
      | some (k, r) =>
        match skipSpace r with
        | ':' :: r =>
          match value fuel r with
          | none => none
          | some (j, r) =>
            match skipSpace r with
            | '\x7d' :: r' => some ([(k, j)], r')
            | ',' :: r' => (members fuel r').map fun (ms, r'') => ((k, j) :: ms, r'')
            | _ => none
        | _ => none
    | _ => none
end

/-- The value that a text writes. -/
def readChars? (cs : List Char) : Option Json :=
  match value (cs.length + 1) cs with
  | some (j, r) => if skipSpace r = [] then some j else none
  | none => none

/-- The value that a text writes. -/
def read? (s : String) : Option Json := readChars? s.toList

end JobLaunch.Json
