import JobLaunch.Text.Utf8

/-!
# Bytes and text

Files and pipes hold bytes, while programs for text work with characters. Text is read in such a way
that no byte gets lost: one that belongs to no character is kept as a stand-in for itself.

* `Bytes.text` — the text of bytes.
* `Bytes.ofText` — the bytes of a text.
-/

namespace JobLaunch.Rehearsal

abbrev Bytes := List UInt8

namespace Bytes

def firstStandIn : Nat := 0x10FF00

def standIn (b : UInt8) : Char := Char.ofNat (firstStandIn + b.toNat)

/-- What is under way: a sequence with its bytes so far, the last one first. -/
abbrev Pending := Option (Utf8.Start × Bytes)

def fresh (b : UInt8) : List Char × Pending :=
  if b < 0x80 then ([Char.ofNat b.toNat], none)
  else match Utf8.start? b.toNat with
    | some s => ([], some (s, [b]))
    | none => ([standIn b], none)

def charsFrom : Pending → Bytes → List Char
  | none, [] => []
  | some (_, bs), [] => bs.reverse.map standIn
  | none, b :: rest =>
    let (cs, p) := fresh b
    cs ++ charsFrom p rest
  | some (s, bs), b :: rest =>
    let n := b.toNat
    if s.low ≤ n && n ≤ s.high then
      let value := s.value * 0x40 + (n - 0x80)
      if s.missing ≤ 1 then Char.ofNat value :: charsFrom none rest
      else charsFrom (some (⟨value, s.missing - 1, 0x80, 0xBF⟩, b :: bs)) rest
    else
      let (cs, p) := fresh b
      bs.reverse.map standIn ++ cs ++ charsFrom p rest

def chars (bs : Bytes) : List Char := charsFrom none bs

def text (bs : Bytes) : String := String.ofList (chars bs)

def ofChar (c : Char) : Bytes :=
  if firstStandIn ≤ c.toNat && c.toNat < firstStandIn + 256 then
    [(c.toNat - firstStandIn).toUInt8]
  else Utf8.encodeChar c

def ofChars (cs : List Char) : Bytes := cs.flatMap ofChar

def ofText (s : String) : Bytes := ofChars s.toList

end Bytes

end JobLaunch.Rehearsal
