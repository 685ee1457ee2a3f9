/-!
# UTF-8

* `Utf8.encode` — the bytes of a text.
* `Utf8.decode` — the text of bytes; each maximal part of a sequence that cannot be completed
  becomes one replacement character.
-/

namespace JobLaunch.Utf8

def encodeChar (c : Char) : List UInt8 :=
  let n := c.toNat
  if n < 0x80 then [n.toUInt8]
  else if n < 0x800 then [(0xC0 + n / 0x40).toUInt8, (0x80 + n % 0x40).toUInt8]
  else if n < 0x10000 then
    [(0xE0 + n / 0x1000).toUInt8, (0x80 + n / 0x40 % 0x40).toUInt8, (0x80 + n % 0x40).toUInt8]
  else
    [(0xF0 + n / 0x40000).toUInt8, (0x80 + n / 0x1000 % 0x40).toUInt8,
      (0x80 + n / 0x40 % 0x40).toUInt8, (0x80 + n % 0x40).toUInt8]

def encode (cs : List Char) : List UInt8 := cs.flatMap encodeChar

/-- The number of bytes of a text. -/
def byteLength (s : String) : Nat := (encode s.toList).length

/-- What stands for bytes that are no text. -/
def replacement : Char := '\uFFFD'

/-- A started sequence: its value so far, the bytes it still needs, and the range of the next. -/
structure Start where
  value : Nat
  missing : Nat
  low : Nat := 0x80
  high : Nat := 0xBF

/-- The sequence that a first byte of more than one starts. The range of the second byte leaves
out overlong forms, surrogates and values beyond the last code point. -/
def start? (b : Nat) : Option Start :=
  if 0xC2 ≤ b && b ≤ 0xDF then some ⟨b - 0xC0, 1, 0x80, 0xBF⟩
  else if b == 0xE0 then some ⟨0, 2, 0xA0, 0xBF⟩
  else if b == 0xED then some ⟨0xD, 2, 0x80, 0x9F⟩
  else if 0xE1 ≤ b && b ≤ 0xEF then some ⟨b - 0xE0, 2, 0x80, 0xBF⟩
  else if b == 0xF0 then some ⟨0, 3, 0x90, 0xBF⟩
  else if b == 0xF4 then some ⟨4, 3, 0x80, 0x8F⟩
  else if 0xF1 ≤ b && b ≤ 0xF3 then some ⟨b - 0xF0, 3, 0x80, 0xBF⟩
  else none

/-- What a byte means outside a sequence: characters at once, and a sequence it starts. -/
def fresh (b : Nat) : List Char × Option Start :=
  if b < 0x80 then ([Char.ofNat b], none)
  else match start? b with
    | some s => ([], some s)
    | none => ([replacement], none)

/-- The text of bytes, with the sequence that is under way. -/
def decodeFrom : Option Start → List UInt8 → List Char
  | none, [] => []
  | some _, [] => [replacement]
  | none, b :: bs =>
    let (cs, s) := fresh b.toNat
    cs ++ decodeFrom s bs
  | some s, b :: bs =>
    let n := b.toNat
    if s.low ≤ n && n ≤ s.high then
      let value := s.value * 0x40 + (n - 0x80)
      if s.missing ≤ 1 then Char.ofNat value :: decodeFrom none bs
      else decodeFrom (some ⟨value, s.missing - 1, 0x80, 0xBF⟩) bs
    else
      let (cs, s') := fresh n
      replacement :: cs ++ decodeFrom s' bs

def decode (bs : List UInt8) : List Char := decodeFrom none bs

def text (bs : List UInt8) : String := String.ofList (decode bs)

end JobLaunch.Utf8
