/-!
# Capital and small letters

Letters of ASCII, and the common letters of the Latin, Greek and Cyrillic scripts.

* `capital`, `small` — the capital and the small letter of a letter.
-/

namespace JobLaunch.Text

/-- Ranges of small letters, with the distance to their capital letters below them. -/
def smallRanges : List (Nat × Nat × Nat) :=
  [(0x61, 0x7A, 32), (0xE0, 0xF6, 32), (0xF8, 0xFE, 32), (0x3AD, 0x3AF, 37), (0x3B1, 0x3C1, 32),
    (0x3C3, 0x3CB, 32), (0x3CD, 0x3CE, 63), (0x3AC, 0x3AC, 38), (0x3CC, 0x3CC, 64),
    (0x430, 0x44F, 32), (0x450, 0x45F, 80)]

/-- Ranges of letters in which each small letter comes right after its capital one. -/
def pairRanges : List (Nat × Nat) :=
  [(0x100, 0x12F), (0x132, 0x137), (0x139, 0x148), (0x14A, 0x177), (0x179, 0x17E), (0x460, 0x481),
    (0x48A, 0x4BF), (0x4D0, 0x52F), (0x1E00, 0x1E95), (0x1EA0, 0x1EFF)]

/-- The capital letter of a small one; other characters stay. -/
def capital (c : Char) : Char :=
  let n := c.toNat
  match smallRanges.find? fun r => r.1 ≤ n && n ≤ r.2.1 with
  | some r => Char.ofNat (n - r.2.2)
  | none =>
    match pairRanges.find? fun r => r.1 ≤ n && n ≤ r.2 with
    | some r => if (n - r.1) % 2 = 1 then Char.ofNat (n - 1) else c
    | none => if n = 0xFF then '\u0178' else c

/-- The small letter of a capital one; other characters stay. -/
def small (c : Char) : Char :=
  let n := c.toNat
  match smallRanges.find? fun r => r.1 ≤ n + r.2.2 && n + r.2.2 ≤ r.2.1 with
  | some r => Char.ofNat (n + r.2.2)
  | none =>
    match pairRanges.find? fun r => r.1 ≤ n && n ≤ r.2 with
    | some r => if (n - r.1) % 2 = 0 then Char.ofNat (n + 1) else c
    | none => if n = 0x178 then '\u00FF' else c

end JobLaunch.Text
