import JobLaunch.Text.Blank

/-!
# Universally unique identifiers

* `Uuid` — 32 hexadecimal digits.
* `Uuid.parse?` — reads one with or without hyphens, in braces, or as a URN.
* `Uuid.text` — the hyphenated lower-case form.
-/

namespace JobLaunch

/-- A hexadecimal digit of either case as a lower-case one. -/
def Uuid.lowerHex? (c : Char) : Option Char :=
  if Text.isDigit c || ('a' ≤ c && c ≤ 'f') then some c
  else if 'A' ≤ c && c ≤ 'F' then some (Char.ofNat (c.toNat + 32))
  else none

/-- A universally unique identifier as 32 lower-case hexadecimal digits. -/
structure Uuid where
  digits : List Char
  deriving DecidableEq, Inhabited

namespace Uuid

/-- The identifier of 32 hexadecimal digits. -/
def ofDigits? (cs : List Char) : Option Uuid :=
  if cs.length = 32 then (cs.mapM lowerHex?).map Uuid.mk else none

def ofHyphenated? (cs : List Char) : Option Uuid :=
  let hyphenAt (i : Nat) := cs[i]? == some '-'
  if cs.length = 36 && hyphenAt 8 && hyphenAt 13 && hyphenAt 18 && hyphenAt 23 then
    ofDigits? (cs.take 8 ++ (cs.drop 9).take 4 ++ (cs.drop 14).take 4 ++ (cs.drop 19).take 4 ++
      cs.drop 24)
  else none

/-- A text after `urn:uuid:`, whose letters may be of either case. -/
def afterUrn? (cs : List Char) : Option (List Char) :=
  if (cs.take 9).map Char.toLower = "urn:uuid:".toList then some (cs.drop 9) else none

def parse? (s : String) : Option Uuid :=
  let cs := s.toList
  match cs.length with
  | 32 => ofDigits? cs
  | 36 => ofHyphenated? cs
  | 38 => if cs.head? = some '\x7b' && cs.getLast? = some '\x7d' then
      ofHyphenated? (cs.drop 1).dropLast else none
  | 45 => (afterUrn? cs).bind ofHyphenated?
  | _ => none

def text (u : Uuid) : String :=
  let ds := u.digits
  String.ofList (ds.take 8 ++ '-' :: (ds.drop 8).take 4 ++ '-' :: (ds.drop 12).take 4 ++
    '-' :: (ds.drop 16).take 4 ++ '-' :: ds.drop 20)

end Uuid

end JobLaunch
