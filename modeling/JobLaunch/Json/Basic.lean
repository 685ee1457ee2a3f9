/-!
# JSON values

A JSON document as it is written: members keep their order and their repetitions, whole numbers are
told apart from numbers with a fraction or an exponent, and a string may be one that no text holds.

* `Json` — a value.
* `Json.depth` — how deep arrays and objects nest.
* `Json.Number.overflows` — is a number beyond the range of a 64-bit float?
* `Json.isStorable` — can a reader keep the whole value in memory?
* `Json.lastWins` — the value with each repeated member reduced to its last one.
-/

namespace JobLaunch

namespace Json

inductive Number where
  /-- A whole number without fraction and exponent; `-0` is not one. -/
  | integer (value : Int)
  /-- Any other number: a significand of at most 64 bits, scaled by a power of ten. -/
  | decimal (negative : Bool) (significand : Nat) (exponent : Int)
  deriving DecidableEq, Inhabited

end Json

/-- A JSON value. The text of a string or a key is `none` when an escape in it names half of a
surrogate pair, which no text holds. -/
inductive Json where
  | null
  | bool (value : Bool)
  | number (value : Json.Number)
  | string (text : Option String)
  | array (elements : List Json)
  | object (members : List (Option String × Json))
  deriving Inhabited

namespace Json

/-- A string that holds a text. -/
def str (s : String) : Json := .string (some s)

def int (i : Int) : Json := .number (.integer i)

/-- A whole number from zero on. -/
def nat (n : Nat) : Json := int n

/-- An object whose keys are texts. -/
def obj (members : List (String × Json)) : Json :=
  .object (members.map fun m => (some m.1, m.2))

def strs (ss : List String) : Json := .array (ss.map str)

/-- A value that may be missing, written as `null` then. -/
def opt {α : Type} (write : α → Json) : Option α → Json
  | none => .null
  | some a => write a

/-! ## Numbers beyond the range of a 64-bit float -/

namespace Number

/-- The natural number nearest to `n` among those with 53 significant bits, ties to even. -/
def round53 (n : Nat) : Nat :=
  let shift := n.log2 + 1 - 53
  let unit := 1 <<< shift
  let whole := n / unit
  let rest := n % unit
  let up := 2 * rest > unit || (2 * rest == unit && whole % 2 == 1)
  (if up && shift > 0 then whole + 1 else whole) * unit

/-- Is `significand * 10 ^ exponent` beyond the range, both factors and the product rounded? -/
def exceeds (significand : Nat) (exponent : Int) : Bool :=
  match exponent with
  | .negSucc _ => false
  | .ofNat e =>
    significand != 0 &&
      (e > 308 || round53 (round53 significand * round53 (Nat.pow 10 e)) ≥ 1 <<< 1024)

/-- Adds digits to a significand while it stays below 64 bits; returns it and the digits left. -/
def extend (significand : Nat) : List Nat → Nat × List Nat
  | [] => (significand, [])
  | d :: ds =>
    if 10 * significand + d < UInt64.size then extend (10 * significand + d) ds
    else (significand, d :: ds)

/-- The scaled significand of a numeral from its whole digits, its fraction digits and its
exponent: whole digits that do not fit scale it, fraction digits that do not fit are dropped. -/
def scaled (whole fraction : List Nat) (exponent : Int) : Nat × Int :=
  let (s, dropped) := extend 0 whole
  let (s', rest) := extend s fraction
  (s', exponent + dropped.length - (fraction.length - rest.length))

/-- The decimal digits of a natural number as numbers. -/
def digitList (n : Nat) : List Nat :=
  (Nat.toDigits 10 n).map fun c => c.toNat - 48

/-- Is a number beyond the range of a 64-bit float? -/
def overflows : Number → Bool
  | .integer i =>
    let (s, e) := scaled (digitList i.natAbs) [] 0
    exceeds s e
  | .decimal _ s e => exceeds s e

end Number

/-! ## Measures of a whole value -/

mutual
/-- How deep arrays and objects nest; a plain value has depth zero. -/
def depth : Json → Nat
  | .array es => depthElements es + 1
  | .object ms => depthMembers ms + 1
  | _ => 0

def depthElements : List Json → Nat
  | [] => 0
  | j :: js => max (depth j) (depthElements js)

def depthMembers : List (Option String × Json) → Nat
  | [] => 0
  | (_, j) :: ms => max (depth j) (depthMembers ms)
end

mutual
/-- Do all strings and keys hold texts, and are all numbers within range? -/
def isReadable : Json → Bool
  | .string text => text.isSome
  | .number n => !n.overflows
  | .array es => readableElements es
  | .object ms => readableMembers ms
  | _ => true

/-- `isReadable` of all elements of an array. -/
def readableElements : List Json → Bool
  | [] => true
  | j :: js => isReadable j && readableElements js

/-- `isReadable` of all keys and values of an object. -/
def readableMembers : List (Option String × Json) → Bool
  | [] => true
  | (k, j) :: ms => k.isSome && isReadable j && readableMembers ms
end

/-- The greatest depth of a value that is kept. -/
def depthLimit : Nat := 127

/-- Can the whole value be kept before its fields are looked at? -/
def isStorable (j : Json) : Bool := j.depth ≤ depthLimit && j.isReadable

/-- The members of an object without those whose key comes again later. -/
def lastMembers : List (Option String × Json) → List (Option String × Json)
  | [] => []
  | m :: ms => if ms.any (·.1 == m.1) then lastMembers ms else m :: lastMembers ms

mutual
/-- The value in which every object keeps only the last member of each key. -/
def lastWins : Json → Json
  | .array es => .array (lastWinsElements es)
  | .object ms => .object (lastMembers (lastWinsMembers ms))
  | j => j

/-- `lastWins` of the elements of an array. -/
def lastWinsElements : List Json → List Json
  | [] => []
  | j :: js => lastWins j :: lastWinsElements js

/-- `lastWins` of the values of an object's members. -/
def lastWinsMembers : List (Option String × Json) → List (Option String × Json)
  | [] => []
  | (k, j) :: ms => (k, lastWins j) :: lastWinsMembers ms
end

end Json

end JobLaunch
