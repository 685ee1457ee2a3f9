import JobLaunch.Rehearsal.Format
import JobLaunch.Rehearsal.Utility.Quoting
import JobLaunch.Rehearsal.Script.Pattern

/-!
# The order of lines

Lines are compared by keys. A key is a part of a line, and says how such parts are compared: byte by
byte, as numbers, as months, or as versions.

* `LineOrder.compareNumbers`, `LineOrder.compareVersions`, … — ways to compare parts.
* `SortKey`, `SortKey.read` — keys, and keys from their texts.
* `LineOrder`, `LineOrder.compare` — the order of lines.
-/

namespace JobLaunch.Rehearsal

def compareBytes : Bytes → Bytes → Ordering
  | [], [] => .eq
  | [], _ :: _ => .lt
  | _ :: _, [] => .gt
  | a :: as, b :: bs => if a < b then .lt else if b < a then .gt else compareBytes as bs

namespace LineOrder

def isGap (b : UInt8) : Bool := b = 32 || b = 9

def charOf (b : UInt8) : Char := Char.ofNat b.toNat

def isDigitByte (b : UInt8) : Bool := 48 ≤ b && b < 58

def isLetterByte (b : UInt8) : Bool := (65 ≤ b && b < 91) || (97 ≤ b && b < 123)

def capitalByte (b : UInt8) : UInt8 := if 97 ≤ b && b < 123 then b - 32 else b

/-! ## Numbers -/

def comparePlaces (a b : Format.Places) : Ordering :=
  let value (v w : Format.Places) : Int :=
    let n := Int.ofNat (v.digits * Format.tens w.places)
    if v.negative then -n else n
  Ord.compare (value a b) (value b a)

def leadingNumber (bs : Bytes) : Format.Places × Bytes :=
  let (negative, bs) := match bs.dropWhile isGap with
    | 45 :: rest => (true, rest)
    | bs => (false, bs)
  let (whole, rest) := bs.span isDigitByte
  let (places, rest) := match rest with
    | 46 :: more => more.span isDigitByte
    | _ => ([], rest)
  (⟨negative, Decimal.value ((whole ++ places).map charOf), places.length⟩, rest)

def compareNumbers (a b : Bytes) : Ordering := comparePlaces (leadingNumber a).1 (leadingNumber b).1

def unitOf (bs : Bytes) : Int :=
  let (v, rest) := leadingNumber bs
  let order := match rest.head?.map charOf with
    | some 'k' => 1
    | some c => Int.ofNat (("?KMGTPEZYRQ".toList.findIdx? (· == c)).getD 0)
    | none => 0
  if v.digits = 0 then 0 else if v.negative then -order else order

def compareUnits (a b : Bytes) : Ordering :=
  (Ord.compare (unitOf a) (unitOf b)).then (compareNumbers a b)

/-- What a text stands for as a number of any form. -/
inductive GeneralNumber where
  | missing
  | undefined
  | infinite (negative : Bool)
  | finite (v : Format.Places)

def generalNumber (bs : Bytes) : GeneralNumber :=
  let (negative, cs) := match (Bytes.chars bs).dropWhile Text.isBlank with
    | '-' :: rest => (true, rest)
    | '+' :: rest => (false, rest)
    | cs => (false, cs)
  match (cs.take 3).map Char.toLower with
  | ['i', 'n', 'f'] => .infinite negative
  | ['n', 'a', 'n'] => .undefined
  | _ =>
    match Format.unsignedPlaces? negative cs with
    | some (v, _) => .finite v
    | none => .missing

def GeneralNumber.rank : GeneralNumber → Nat
  | missing => 0
  | undefined => 1
  | infinite true => 2
  | finite _ => 3
  | infinite false => 4

def compareGeneral (a b : Bytes) : Ordering :=
  match generalNumber a, generalNumber b with
  | .finite v, .finite w => comparePlaces v w
  | x, y => Ord.compare x.rank y.rank

/-! ## Months -/

def monthOf (bs : Bytes) : Nat :=
  let cs := ((bs.dropWhile isGap).take 3).map fun b => charOf (capitalByte b)
  match ["JAN", "FEB", "MAR", "APR", "MAY", "JUN", "JUL", "AUG", "SEP", "OCT", "NOV",
      "DEC"].findIdx? (·.toList = cs) with
  | some i => i + 1
  | none => 0

/-! ## Versions -/

/-- The weight of what stands at the start of a text, between numbers. -/
def versionWeight (bs : Bytes) : Int :=
  match bs with
  | [] => -1
  | b :: _ =>
    if isDigitByte b then 0
    else if isLetterByte b then Int.ofNat b.toNat
    else if b = 126 then -2
    else Int.ofNat b.toNat + 256

/-- The order of two versions: parts without digits are compared by weights, numbers by values. -/
def compareRevisions : Nat → Bytes → Bytes → Ordering
  | 0, _, _ => .eq
  | n + 1, as, bs =>
    let isOther (cs : Bytes) : Bool := (cs.head?).any (!isDigitByte ·)
    if as.isEmpty && bs.isEmpty then .eq
    else if isOther as || isOther bs then
      match Ord.compare (versionWeight as) (versionWeight bs) with
      | .eq => compareRevisions n as.tail bs.tail
      | o => o
    else
      let (x, as) := as.span isDigitByte
      let (y, bs) := bs.span isDigitByte
      match Ord.compare (Decimal.value (x.map charOf)) (Decimal.value (y.map charOf)) with
      | .eq => compareRevisions n as bs
      | o => o

/-- A name without its endings: each is a point and a letter, with letters and digits after them. -/
def withoutEndings (bs : Bytes) : Bytes :=
  bs.take (go (bs.length + 1) bs 0)
where
  go : Nat → Bytes → Nat → Nat
    | 0, _, place => place
    | n + 1, bs, place =>
      match bs with
      | [] => place
      | _ :: rest =>
        let (length, rest) := endings n rest 0
        if rest.isEmpty then place + 1 else go n rest (place + 1 + length)
  endings : Nat → Bytes → Nat → Nat × Bytes
    | 0, bs, length => (length, bs)
    | n + 1, bs, length =>
      match bs with
      | 46 :: c :: rest =>
        if isLetterByte c || c = 126 then
          let more := rest.takeWhile fun b => isLetterByte b || isDigitByte b || b = 126
          endings n (rest.drop more.length) (length + 2 + more.length)
        else (length, bs)
      | _ => (length, bs)

def dotRank (bs : Bytes) : Nat :=
  match bs with
  | [46] => 0
  | [46, 46] => 1
  | 46 :: _ => 2
  | _ => 3

def compareVersions (a b : Bytes) : Ordering :=
  if a.isEmpty || b.isEmpty then Ord.compare a.length b.length
  else match Ord.compare (dotRank a) (dotRank b) with
    | .eq =>
      if dotRank a < 2 then .eq
      else
        let fuel := a.length + b.length + 1
        (compareRevisions fuel (withoutEndings a) (withoutEndings b)).then
          (compareRevisions fuel a b)
    | o => o

end LineOrder

/-! ## Keys -/

structure SortKey where
  /-- How many fields are before it; without a number the key begins with the line. -/
  field : Option Nat := none
  char : Nat := 0
  /-- How many fields are before the last one; without a number the key goes to the end. -/
  lastField : Option Nat := none
  /-- How many characters of the last field belong to it; zero stands for all. -/
  lastChar : Nat := 0
  trimsStart : Bool := false
  trimsEnd : Bool := false
  letters : List Char := []
  deriving DecidableEq, Inhabited

namespace SortKey

def isOwn (k : SortKey) : Bool := k.trimsStart || k.trimsEnd || !k.letters.isEmpty

def inherit (k general : SortKey) : SortKey :=
  if k.isOwn then k
  else { k with
    letters := general.letters, trimsStart := general.trimsStart, trimsEnd := general.trimsEnd }

def count (what : String) (cs : List Char) : Except String (Nat × List Char) :=
  let (ds, rest) := cs.span Text.isDigit
  if ds.isEmpty then
    .error (what ++ ": invalid count at start of " ++ Quoting.typographic (String.ofList cs))
  else .ok (Decimal.value ds, rest)

def read (text : String) : Except String SortKey := do
  let bad (what : String) : Except String SortKey :=
    .error (what ++ ": invalid field specification " ++ Quoting.typographic text)
  let ways (cs : List Char) : List Char × List Char := cs.span "bdfghiMnRrV".toList.contains
  let others (cs : List Char) : List Char := cs.filter (· ≠ 'b')
  let (field, rest) ← count "invalid number at field start" text.toList
  if field = 0 then return ← bad "field number is zero"
  let (char, rest) ← match rest with
    | '.' :: more => count "invalid number after '.'" more
    | _ => .ok (1, rest)
  if char = 0 then return ← bad "character offset is zero"
  let (first, rest) := ways rest
  let key : SortKey := {
    field := some (field - 1), char := char - 1, trimsStart := first.contains 'b'
    letters := others first }
  match rest with
  | [] => return key
  | ',' :: more =>
    let (last, rest) ← count "invalid number after ','" more
    if last = 0 then return ← bad "field number is zero"
    let (lastChar, rest) ← match rest with
      | '.' :: more => count "invalid number after '.'" more
      | _ => .ok (0, rest)
    let (second, rest) := ways rest
    if !rest.isEmpty then return ← bad "stray character in field spec"
    return { key with
      lastField := some (last - 1), lastChar, trimsEnd := second.contains 'b'
      letters := key.letters ++ others second }
  | _ => bad "stray character in field spec"

def afterFields (separator : Option UInt8) : Nat → Bytes → Bytes
  | 0, bs => bs
  | n + 1, bs =>
    if bs.isEmpty then []
    else match separator with
      | some c => afterFields separator n ((bs.dropWhile (· ≠ c)).drop 1)
      | none =>
        afterFields separator n ((bs.dropWhile LineOrder.isGap).dropWhile (!LineOrder.isGap ·))

def finish (k : SortKey) (separator : Option UInt8) (line : Bytes) : Nat :=
  match k.lastField with
  | none => line.length
  | some last =>
    if k.lastChar = 0 then
      let rest := afterFields separator last line
      let field := match separator with
        | some c => rest.takeWhile (· ≠ c)
        | none =>
          let gap := rest.takeWhile LineOrder.isGap
          gap ++ (rest.drop gap.length).takeWhile (!LineOrder.isGap ·)
      line.length - rest.length + field.length
    else
      let rest := afterFields separator last line
      let rest := if k.trimsEnd then rest.dropWhile LineOrder.isGap else rest
      min line.length (line.length - rest.length + k.lastChar)

def part (k : SortKey) (separator : Option UInt8) (line : Bytes) : Bytes :=
  let rest := match k.field with
    | none => line
    | some n => afterFields separator n line
  let rest := if k.trimsStart then rest.dropWhile LineOrder.isGap else rest
  let start := min line.length (line.length - rest.length + k.char)
  (line.take (k.finish separator line)).drop start

def compare (k : SortKey) (a b : Bytes) : Ordering :=
  let has (c : Char) : Bool := k.letters.contains c
  let keeps (b : UInt8) : Bool :=
    (!has 'd' || LineOrder.isGap b || LineOrder.isLetterByte b || LineOrder.isDigitByte b) &&
      (!has 'i' || (32 ≤ b && b < 127))
  let changed (bs : Bytes) : Bytes :=
    let bs := if has 'd' || has 'i' then bs.filter keeps else bs
    if has 'f' then bs.map LineOrder.capitalByte else bs
  let a := changed a
  let b := changed b
  let order :=
    if has 'n' then LineOrder.compareNumbers a b
    else if has 'g' then LineOrder.compareGeneral a b
    else if has 'h' then LineOrder.compareUnits a b
    else if has 'M' then Ord.compare (LineOrder.monthOf a) (LineOrder.monthOf b)
    else if has 'V' then LineOrder.compareVersions a b
    else compareBytes a b
  if has 'r' then order.swap else order

/-- The letters of ways that do not go together, if there are such. -/
def conflict? (k : SortKey) : Option String :=
  let has (c : Char) : Bool := k.letters.contains c
  let ways := ("ghMn".toList.filter has).length +
    if has 'V' || has 'R' || has 'd' || has 'i' then 1 else 0
  if ways ≤ 1 then none else some (String.ofList ("dfghiMnRV".toList.filter has))

end SortKey

/-! ## Lines -/

structure LineOrder where
  keys : List SortKey
  separator : Option UInt8 := none
  isStable : Bool := false
  reverses : Bool := false
  deriving Inhabited

/-- A line with the parts that its keys mean. -/
structure SortLine where
  bytes : Bytes
  parts : List Bytes
  deriving Inhabited

namespace LineOrder

def line (o : LineOrder) (bytes : Bytes) : SortLine :=
  ⟨bytes, o.keys.map (·.part o.separator bytes)⟩

def compareKeys (o : LineOrder) (a b : SortLine) : Ordering :=
  (o.keys.zip (a.parts.zip b.parts)).foldl (fun r (k, x, y) => r.then (k.compare x y)) .eq

def compare (o : LineOrder) (a b : SortLine) : Ordering :=
  let byKeys := o.compareKeys a b
  if o.isStable && !o.keys.isEmpty then byKeys
  else
    let whole := compareBytes a.bytes b.bytes
    byKeys.then (if o.reverses then whole.swap else whole)

/-- Lines without those that are equal to the ones before them. -/
def distinct (o : LineOrder) (lines : List SortLine) : List SortLine :=
  (lines.foldl (fun (done : List SortLine) l =>
    match done with
    | k :: _ => if o.compare k l == .eq then done else l :: done
    | [] => [l]) []).reverse

def merge (o : LineOrder) : Nat → List (List SortLine) → List SortLine
  | 0, _ => []
  | n + 1, lists =>
    let heads := lists.zipIdx.filterMap fun (l, i) => l.head?.map fun x => (x, i)
    match heads with
    | [] => []
    | first :: rest =>
      let (least, place) := rest.foldl (fun best x =>
        if o.compare x.1 best.1 == .lt then x else best) first
      least :: merge o n (lists.zipIdx.map fun (l, i) => if i = place then l.tail else l)

end LineOrder

end JobLaunch.Rehearsal
