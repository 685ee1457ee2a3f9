import JobLaunch.Rehearsal.Script.Pattern
import JobLaunch.Rehearsal.Utility.Reading

/-!
# Other bytes in place of some

Sets of bytes are written with ranges, names of kinds, and bytes that are repeated. Two sets that are
walked through together say which byte stands in place of which.

* `ByteSet` — a set as it is written.
* `ByteSet.read` — sets from their texts.
* `Utility.tr` — puts bytes in place of others, deletes them or squeezes them.
-/

namespace JobLaunch.Rehearsal

inductive SetPart where
  | byte (b : UInt8)
  | range (first last : UInt8)
  | kind (name : String)
  | equal (b : UInt8)
  /-- So often; zero means as often as is needed. -/
  | times (b : UInt8) (count : Nat)
  deriving DecidableEq, Inhabited

abbrev ByteSet := List SetPart

namespace ByteSet

/-! ## Reading -/

abbrev Escaped := UInt8 × Bool

/-- What is worth a warning about a text. -/
inductive Warning where
  | lastBackslash
  | octal (a b c : UInt8)
  deriving DecidableEq, Inhabited

def Warning.text : Warning → String
  | lastBackslash => "an unescaped backslash at end of string is not portable"
  | octal a b c =>
    let cs := [a, b, c].map fun d => Char.ofNat d.toNat
    "the ambiguous octal escape \\" ++ String.ofList cs ++
      " is being\n\tinterpreted as the 2-byte sequence \\0" ++ String.ofList (cs.take 2) ++ ", " ++
      String.ofList (cs.drop 2)

def octalDigits (most : Nat) (bs : Bytes) : Bytes :=
  (bs.take most).takeWhile fun b => 48 ≤ b && b < 56

def octalValue (ds : Bytes) : Nat := ds.foldl (fun n d => n * 8 + (d.toNat - 48)) 0

def escaped : Nat → Bytes → List Escaped × List Warning
  | 0, _ => ([], [])
  | _, [] => ([], [])
  | _, [92] => ([(92, false)], [.lastBackslash])
  | n + 1, 92 :: c :: rest =>
    let go (b : UInt8) (rest : Bytes) (ws : List Warning) : List Escaped × List Warning :=
      let (bs, more) := escaped n rest
      ((b, true) :: bs, ws ++ more)
    let ds := octalDigits 3 (c :: rest)
    if ds.isEmpty then
      let letter : UInt8 := match Char.ofNat c.toNat with
        | 'a' => 7
        | 'b' => 8
        | 'f' => 12
        | 'n' => 10
        | 'r' => 13
        | 't' => 9
        | 'v' => 11
        | _ => c
      go letter rest []
    else if octalValue ds < 256 then
      go (octalValue ds).toUInt8 ((c :: rest).drop ds.length) []
    else
      go (octalValue (ds.take 2)).toUInt8 (rest.drop 1)
        [.octal c (ds.getD 1 0) (ds.getD 2 0)]
  | n + 1, b :: rest =>
    let (bs, ws) := escaped n rest
    ((b, false) :: bs, ws)

/-- What is wrong with a set. -/
inductive Fault where
  | missingName
  | missingEqual
  | unknownName (name : String)
  | manyEqual (text : String)
  | badCount (text : String)
  | reversed (first last : UInt8)
  deriving DecidableEq, Inhabited

def shown (b : UInt8) : String :=
  if 32 ≤ b && b < 127 then String.ofList [Char.ofNat b.toNat]
  else
    let digit (n : Nat) : Char := Char.ofNat (48 + n % 8)
    "\\" ++ String.ofList [digit (b.toNat / 64), digit (b.toNat / 8), digit b.toNat]

def Fault.message : Fault → String
  | missingName => "missing character class name '[::]'"
  | missingEqual => "missing equivalence class character '[==]'"
  | unknownName name => "invalid character class " ++ Quoting.typographic name
  | manyEqual text => text ++ ": equivalence class operand must be a single character"
  | badCount text => "invalid repeat count " ++ Quoting.typographic text ++ " in [c*n] construct"
  | reversed first last =>
    "range-endpoints of '" ++ shown first ++ "-" ++ shown last ++
      "' are in reverse collating sequence order"

def kindBytes (name : String) : Bytes :=
  ((List.range 128).filter fun n => Script.Member.isOfKind name (Char.ofNat n)).map Nat.toUInt8

def isBare (c : Char) (e : Escaped) : Bool := !e.2 && e.1.toNat = c.toNat

def untilClosed (sign : Char) : List Escaped → Bytes → Option (Bytes × List Escaped)
  | a :: b :: rest, done =>
    if isBare sign a && isBare ']' b then some (done.reverse, rest)
    else untilClosed sign (b :: rest) (a.1 :: done)
  | _, _ => none

def isStarred (es : List Escaped) : Bool :=
  match es with
  | a :: rest =>
    isBare '*' a &&
      ((rest.dropWhile fun e => 48 ≤ e.1 && e.1 < 58).head?).any (isBare ']')
  | [] => false

/-- A byte that is repeated, after the opening bracket; nothing if there is none. -/
def repeated? (es : List Escaped) : Option (Except Fault (SetPart × List Escaped)) :=
  match es with
  | c :: star :: rest =>
    if !isBare '*' star then none
    else
      let ds := rest.takeWhile fun e => !e.2 && !isBare ']' e
      match rest.drop ds.length with
      | close :: after =>
        if !isBare ']' close then none
        else
          let digits := ds.map (·.1)
          let isOctal := digits.head? = some 48
          let isNumber := digits.all fun b => 48 ≤ b && b < (if isOctal then 56 else 58)
          let value := if isOctal then octalValue digits
            else Decimal.value (digits.map fun b => Char.ofNat b.toNat)
          if isNumber && value ≤ Format.greatest then some (.ok (.times c.1 value, after))
          else some (.error (.badCount (Bytes.text digits)))
      | [] => none
  | _ => none

def partsWithin : Nat → List Escaped → Except Fault ByteSet
  | 0, _ => .ok []
  | n + 1, es => do
    let single : Except Fault ByteSet := match es with
      | e :: rest => do .ok (.byte e.1 :: (← partsWithin n rest))
      | [] => .ok []
    let ranged : Except Fault ByteSet := match es with
      | a :: sign :: b :: rest =>
        if !isBare '-' sign then single
        else if b.1 < a.1 then .error (.reversed a.1 b.1)
        else do .ok (.range a.1 b.1 :: (← partsWithin n rest))
      | _ => single
    let bracketed : Except Fault ByteSet :=
      if !(es.head?.any (isBare '[')) then ranged
      else match repeated? es.tail with
        | some (.ok (p, rest)) => do .ok (p :: (← partsWithin n rest))
        | some (.error f) => .error f
        | none => ranged
    match es with
    | a :: b :: rest =>
      if rest.isEmpty then single
      else if isBare '[' a && isBare ':' b then
        match untilClosed ':' rest [] with
        | none => bracketed
        | some (name, after) =>
          if name.isEmpty then .error .missingName
          else if (kindBytes (Bytes.text name)).isEmpty then
            if isStarred rest then bracketed else .error (.unknownName (Bytes.text name))
          else do .ok (.kind (Bytes.text name) :: (← partsWithin n after))
      else if isBare '[' a && isBare '=' b then
        match untilClosed '=' rest [] with
        | none => bracketed
        | some ([], _) => .error .missingEqual
        | some ([c], after) => do .ok (.equal c :: (← partsWithin n after))
        | some (text, _) =>
          if isStarred rest then bracketed
          else .error (.manyEqual ("".intercalate (text.map shown)))
      else bracketed
    | _ => single

def read (text : String) : Except Fault ByteSet × List Warning :=
  let bytes := Bytes.ofText text
  let (es, warnings) := escaped (bytes.length + 1) bytes
  (partsWithin (es.length + 1) es, warnings)

/-! ## Walking through sets -/

/-- A byte of a set that is walked through. -/
structure Step where
  byte : UInt8
  isCapital : Option Bool
  isFirst : Bool
  deriving DecidableEq, Inhabited

def bytesOf : SetPart → Bytes
  | .byte b | .equal b => [b]
  | .range first last =>
    (List.range (last.toNat - first.toNat + 1)).map fun i => (first.toNat + i).toUInt8
  | .kind name => kindBytes name
  | .times b count => List.replicate count b

def steps (s : ByteSet) : List Step :=
  s.flatMap fun p =>
    let isCapital := match p with
      | .kind "upper" => some true
      | .kind "lower" => some false
      | _ => none
    (bytesOf p).zipIdx.map fun (byte, i) => ⟨byte, isCapital, i = 0⟩

def size (s : ByteSet) : Nat := s.foldl (fun n p => n + (bytesOf p).length) 0

def complement (s : ByteSet) : Bytes :=
  let all := s.flatMap bytesOf
  ((List.range 256).map Nat.toUInt8).filter (!all.contains ·)

def afterPart (l : List Step) : List Step := l.tail.dropWhile (!·.isFirst)

def skipped : Nat := 25

/-- The lengths of two sets in which kinds of letters count as one byte; nothing if such kinds do not
stand at the same places. -/
def aligned? : Nat → List Step → List Step → Nat → Nat → Option (Nat × Nat)
  | 0, _, _, m, n => some (m, n)
  | fuel + 1, xs, ys, m, n =>
    match ys with
    | [] => some (m, n)
    | y :: ys' =>
      if y.isCapital.isSome then
        match xs with
        | x :: _ =>
          if x.isCapital.isSome && x.isFirst then
            aligned? fuel (afterPart xs) (afterPart ys) (m - skipped) (n - skipped)
          else none
        | [] => none
      else match xs with
        | [] => some (m, n)
        | _ :: xs' => aligned? fuel xs' ys' m n

def pairs : Nat → List Step → List Step → List (UInt8 × UInt8) → List (UInt8 × UInt8)
  | 0, _, _, done => done
  | fuel + 1, xs, ys, done =>
    match xs, ys with
    | x :: xs', y :: ys' =>
      let skip (done : List (UInt8 × UInt8)) : List (UInt8 × UInt8) :=
        if y.isCapital.isSome then pairs fuel (afterPart xs) (afterPart ys) done
        else pairs fuel xs' ys' done
      match x.isCapital, y.isCapital with
      | some false, some true => skip ((kindBytes "lower").map (fun b => (b, b - 32)) ++ done)
      | some true, some false => skip ((kindBytes "upper").map (fun b => (b, b + 32)) ++ done)
      | _, _ => skip ((x.byte, y.byte) :: done)
    | _, _ => done

end ByteSet

namespace Utility

open ByteSet

def byteSet (text : String) : Work ByteSet := do
  let (s, warnings) := ByteSet.read text
  for w in warnings do complain ("warning: " ++ w.text)
  match s with
  | .ok s => pure s
  | .error f => fail 1 f.message

/-- Does a set hold a byte that is repeated as often as is needed? -/
def openTimes (s : ByteSet) : Nat :=
  s.countP fun p => match p with
    | .times _ 0 => true
    | _ => false

def filledUp (length : Nat) (s : ByteSet) : ByteSet :=
  let missing := length - s.size
  s.map fun p => match p with
    | .times b 0 => .times b missing
    | p => p

/-- Refuses sets that cannot be put in place of each other, and tells the second one in its full
length. -/
def checkedTarget (inverts truncates : Bool) (first second : ByteSet) : Work ByteSet := do
  let length := if inverts then (complement first).length else first.size
  if 0 < openTimes first then
    fail 1 "the [c*] repeat construct may not appear in string1"
  if 1 < openTimes second then
    fail 1 "only one [c*] repeat construct may appear in string2"
  let second := filledUp length second
  if second.any (· matches .equal _) then
    fail 1 "[=c=] expressions may not appear in string2 when translating"
  let isRestricted (p : SetPart) : Bool := match p with
    | .kind name => name ≠ "upper" && name ≠ "lower"
    | _ => false
  if second.any isRestricted then
    fail 1 ("when translating, the only character classes that may appear in\n" ++
      "string2 are 'upper' and 'lower'")
  let isKind (p : SetPart) : Bool := p matches .kind _
  let (m, n) ← if inverts || !second.any isKind then pure (length, second.size)
    else
      let xs := first.steps
      let ys := second.steps
      match aligned? (xs.length + ys.length + 1) xs ys length second.size with
      | some lengths => pure lengths
      | none => fail 1 "misaligned [:upper:] and/or [:lower:] construct"
  let second ← if n < m && !truncates then
      match second.getLast? with
      | none => fail 1 "when not truncating set1, string2 must be non-empty"
      | some p =>
        if isKind p then
          fail 1 ("when translating with string1 longer than string2,\n" ++
            "the latter string must not end with a character class")
        let last := (bytesOf p).getLast?
        match last.or (second.flatMap bytesOf).getLast? with
        | none => fail 1 "when not truncating set1, string2 must be non-empty"
        | some b => pure (second ++ [.times b (m - n)])
    else pure second
  if inverts && first.any isKind then
    let bytes := second.flatMap bytesOf
    if bytes.length ≠ length || bytes.any (· ≠ bytes.headD 0) then
      fail 1 ("when translating with complemented character classes,\n" ++
        "string2 must map all characters in the domain to one")
  pure second

def squeezed (p : UInt8 → Bool) : Bytes → Option UInt8 → Bytes × Option UInt8
  | [], last => ([], last)
  | b :: rest, last =>
    let (more, l) := squeezed p rest (some b)
    if last = some b && p b then (more, l) else (b :: more, l)

/-- Puts bytes in place of others, deletes them or squeezes them. -/
def tr (args : List String) : Work Unit := do
  let (given, operands) ← options
    [.flag 'c' "complement", .flag 'C' "", .flag 'd' "delete", .flag 's' "squeeze-repeats",
      .flag 't' "truncate-set1"] true 1 args
  let deletes := isGiven given 'd'
  let squeezes := isGiven given 's'
  let inverts := isGiven given 'c' || isGiven given 'C'
  match operands with
  | [] => misused 1 "missing operand"
  | [a] =>
    if deletes == squeezes then
      complain ("missing operand after " ++ Quoting.typographic a)
      say (if deletes then "Two strings must be given when both deleting and squeezing repeats.\n"
        else "Two strings must be given when translating.\n")
      advise
      leave 1
  | [_, b] =>
    if deletes && !squeezes then
      complain ("extra operand " ++ Quoting.typographic b)
      say "Only one string may be given when deleting without squeezing repeats.\n"
      advise
      leave 1
  | _ :: _ :: c :: _ => misused 1 ("extra operand " ++ Quoting.typographic c)
  let first ← byteSet (operands.headD "")
  let second ← match operands[1]? with
    | some text => do pure (some (← byteSet text))
    | none => pure none
  if 0 < openTimes first then
    fail 1 "the [c*] repeat construct may not appear in string1"
  let target ← match second with
    | none => pure none
    | some second => do
      if deletes then
        if 0 < openTimes second then
          fail 1 "the [c*] construct may appear in string2 only when translating"
        pure none
      else do pure (some (← checkedTarget inverts (isGiven given 't') first second))
  let sources := if inverts then complement first else first.flatMap bytesOf
  let isIn : Array Bool := (Array.range 256).map fun n => sources.contains n.toUInt8
  let changed : List (UInt8 × UInt8) := match target with
    | none => []
    | some target =>
      if inverts then ((complement first).zip (target.flatMap bytesOf)).reverse
      else
        let xs := first.steps
        let ys := target.steps
        pairs (xs.length + ys.length + 1) xs ys []
  let table : Array UInt8 := (Array.range 256).map fun n =>
    (changed.lookup n.toUInt8).getD n.toUInt8
  let squeezedBytes := match second with
    | some second => (target.getD second).flatMap bytesOf
    | none => sources
  let isSqueezed : Array Bool := (Array.range 256).map fun n => squeezedBytes.contains n.toUInt8
  let r ← readParts 0 (fun _ => true) (fun (last : Option UInt8) bytes => do
    let bytes := if deletes then bytes.filter fun b => !isIn.getD b.toNat false
      else bytes.map fun b => table.getD b.toNat b
    let (bytes, last) := if squeezes then squeezed (fun b => isSqueezed.getD b.toNat false) bytes last
      else (bytes, none)
    print bytes
    pure last) Routine.mostChunks none
  match r with
  | .ok _ => pure ()
  | .error e => fail 1 ("read error: " ++ e.reason)

end Utility

end JobLaunch.Rehearsal
