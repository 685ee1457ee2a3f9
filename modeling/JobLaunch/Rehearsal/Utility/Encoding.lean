import JobLaunch.Rehearsal.Utility.Reading

/-!
# Bytes as letters

Bytes are taken together, and their bits are divided anew into groups of which each is a letter.

* `LetterCode` — the letters and the sizes of groups.
* `LetterCode.encode`, `LetterCode.decode` — bytes as letters and back.
* `Utility.base64`, `Utility.base32` — the same for files.
-/

namespace JobLaunch.Rehearsal

/-- How bytes are shown as letters. -/
structure LetterCode where
  letters : List Char
  bits : Nat
  group : Nat
  readsParts : Bool
  deriving Inhabited

namespace LetterCode

def six : LetterCode :=
  { letters := "ABCDEFGHIJKLMNOPQRSTUVWXYZabcdefghijklmnopqrstuvwxyz0123456789+/".toList,
    bits := 6, group := 4, readsParts := true }

def five : LetterCode :=
  { letters := "ABCDEFGHIJKLMNOPQRSTUVWXYZ234567".toList, bits := 5, group := 8,
    readsParts := false }

def bytesInGroup (c : LetterCode) : Nat := c.group * c.bits / 8

/-! ## Letters for bytes -/

def encodeGroup (c : LetterCode) (bytes : Bytes) : List Char :=
  let missing := c.bytesInGroup - bytes.length
  let n := (bytes ++ List.replicate missing 0).foldl (fun n (b : UInt8) => n * 256 + b.toNat) 0
  let used := (bytes.length * 8 + c.bits - 1) / c.bits
  (List.range c.group).map fun i =>
    if i < used then c.letters.getD (n >>> (c.bits * (c.group - 1 - i)) % (1 <<< c.bits)) '='
    else '='

def encodeWithin (c : LetterCode) : Nat → Bytes → List Char
  | 0, _ => []
  | _, [] => []
  | n + 1, bytes =>
    c.encodeGroup (bytes.take c.bytesInGroup) ++ c.encodeWithin n (bytes.drop c.bytesInGroup)

def encode (c : LetterCode) (bytes : Bytes) : List Char := c.encodeWithin bytes.length bytes

/-! ## Bytes for letters -/

def value? (c : LetterCode) (letter : Char) : Option Nat := c.letters.idxOf? letter

def decodeGroup (c : LetterCode) (group : List Char) : Bytes × Bool :=
  let isWhole := group.length = c.group
  let values := (group.map c.value?).takeWhile (·.isSome) |>.filterMap id
  let n := (values ++ List.replicate (c.group - values.length) 0).foldl
    (fun n v => n <<< c.bits + v) 0
  let count := values.length * c.bits / 8
  let bytes := (List.range count).map fun i =>
    (n >>> (8 * (c.bytesInGroup - 1 - i)) % 256).toUInt8
  -- A group has as few letters as its bytes need.
  let isTight := values.length = (count * 8 + c.bits - 1) / c.bits && 0 < count
  (if isWhole || c.readsParts then bytes else [],
    isWhole && isTight && (group.drop values.length).all (· = '='))

/-- The bytes of letters up to the first group that is not right, and whether all are. -/
def decodeWithin (c : LetterCode) : Nat → List Char → Bytes × Bool
  | 0, _ => ([], true)
  | _, [] => ([], true)
  | n + 1, letters =>
    match c.decodeGroup (letters.take c.group) with
    | (bytes, false) => (bytes, false)
    | (bytes, true) =>
      let (more, isRight) := c.decodeWithin n (letters.drop c.group)
      (bytes ++ more, isRight)

/-- The bytes of letters up to the first group that is not right, and whether all are. -/
def decode (c : LetterCode) (letters : List Char) : Bytes × Bool :=
  c.decodeWithin letters.length letters

end LetterCode

namespace Utility

/-- Lines of so many characters; they are not divided if that is none. -/
def wrapped (width : Nat) : Nat → List Char → List Char
  | 0, _ => []
  | _, [] => []
  | n + 1, cs =>
    if width = 0 then cs else cs.take width ++ '\n' :: wrapped width n (cs.drop width)

def encodeFile (code : LetterCode) (args : List String) : Work Unit := do
  let (given, operands) ← options
    [.flag 'd' "decode", .flag 'i' "ignore-garbage", .taking 'w' "wrap"] false 1 args
  let width ← match argument? given 'w' with
    | none => pure 76
    | some text =>
      if text.isEmpty || !text.toList.all Text.isDigit then
        fail 1 ("invalid wrap size: " ++ Quoting.typographic text)
      else pure (Decimal.value text.toList)
  if let _ :: extra :: _ := operands then
    misused 1 ("extra operand " ++ Quoting.typographic extra)
  let file := operands.headD "-"
  let stream ← match ← openInput file with
    | .ok stream => pure stream
    | .error e => fail 1 (Quoting.shellIfNeeded file ++ ": " ++ e.reason)
  let bytes ← match ← lift (Routine.readAll stream) with
    | .ok bytes => pure bytes
    | .error e => fail 1 ("read error: " ++ e.reason)
  if isGiven given 'd' then
    let letters := (bytes.filter (· ≠ lineFeed)).map fun b => Char.ofNat b.toNat
    let letters := if isGiven given 'i' then
        letters.filter fun c => c = '=' || (code.value? c).isSome
      else letters
    let (bytes, isRight) := code.decode letters
    print bytes
    if !isRight then fail 1 "invalid input"
  else
    let letters := code.encode bytes
    printText (String.ofList (wrapped width letters.length letters))

/-- Shows files with four letters for three bytes, or takes them for that. -/
def base64 : List String → Work Unit := encodeFile .six

/-- Shows files with eight letters for five bytes, or takes them for that. -/
def base32 : List String → Work Unit := encodeFile .five

end Utility

end JobLaunch.Rehearsal
