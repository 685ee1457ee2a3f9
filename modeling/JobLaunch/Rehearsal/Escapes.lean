import JobLaunch.Rehearsal.Bytes
import JobLaunch.Text.Blank

/-!
# Escapes

* `Escapes` — which escapes have a meaning in a text.
* `Escapes.resolve` — a text with its escapes resolved.
-/

namespace JobLaunch.Rehearsal

structure Escapes where
  octal : Bool := false
  zeroOctal : Bool := false
  hexadecimal : Bool := false
  stops : Bool := false
  own : List Char := []
  capital : Bool := false
  characters : Bool := false
  deriving DecidableEq, Inhabited

namespace Escapes

def hexDigit? (c : Char) : Option Nat :=
  if Text.isDigit c then some (c.toNat - 48)
  else if 'a' ≤ c && c ≤ 'f' then some (c.toNat - 87)
  else if 'A' ≤ c && c ≤ 'F' then some (c.toNat - 55)
  else none

def byte (n : Nat) : Char := if n < 128 then Char.ofNat n else Bytes.standIn n.toUInt8

/-- The byte that up to so many digits stand for, and what is left after them. -/
def number (base most : Nat) (cs : List Char) : Option (Char × List Char) :=
  let ds := (cs.take most).takeWhile fun c => (hexDigit? c).any (· < base)
  if ds.isEmpty then none
  else some (byte (ds.foldl (fun n c => n * base + (hexDigit? c).getD 0) 0 % 256),
    cs.drop ds.length)

/-- The character that up to so many hexadecimal digits stand for, and what is left after them. -/
def character (most : Nat) (cs : List Char) : Option (Char × List Char) :=
  let ds := (cs.take most).takeWhile fun c => (hexDigit? c).isSome
  if ds.isEmpty then none
  else some (Char.ofNat (ds.foldl (fun n c => n * 16 + (hexDigit? c).getD 0) 0),
    cs.drop ds.length)

def letter? (e : Escapes) (c : Char) : Option Char :=
  match c with
  | 'a' => some '\x07'
  | 'b' => some '\x08'
  | 'e' => some '\x1b'
  | 'f' => some '\x0c'
  | 'n' => some '\n'
  | 'r' => some '\r'
  | 't' => some '\t'
  | 'v' => some '\x0b'
  | '\\' => some '\\'
  | 'E' => if e.capital then some '\x1b' else none
  | c => if e.own.contains c then some c else none

/-- What an escape stands for. -/
inductive Meaning where
  | char (c : Char) (rest : List Char)
  | stop
  | none

/-- What an escape stands for, given what follows the backslash. -/
def meaning (e : Escapes) : List Char → Meaning
  | [] => .none
  | c :: rest =>
    match e.letter? c with
    | some d => .char d rest
    | none =>
      let found :=
        if c = '0' && e.zeroOctal then (number 8 3 rest).or (some ('\x00', rest))
        else if e.octal then number 8 3 (c :: rest)
        else none
      match found with
      | some (d, rest) => .char d rest
      | none =>
        if c = 'c' && e.stops then .stop
        else if c = 'x' && e.hexadecimal then
          match number 16 2 rest with
          | some (d, rest) => .char d rest
          | none => .none
        else if e.characters && (c = 'u' || c = 'U') then
          match character (if c = 'u' then 4 else 8) rest with
          | some (d, rest) => .char d rest
          | none => .none
        else .none

/-- A text with its escapes resolved, and whether one of them ends everything. -/
def resolveWithin (e : Escapes) : Nat → List Char → List Char → List Char × Bool
  | 0, _, done => (done.reverse, false)
  | n + 1, cs, done =>
    match cs with
    | [] => (done.reverse, false)
    | '\\' :: rest =>
      match e.meaning rest with
      | .char c rest => resolveWithin e n rest (c :: done)
      | .stop => (done.reverse, true)
      | .none => resolveWithin e n rest ('\\' :: done)
    | c :: rest => resolveWithin e n rest (c :: done)

/-- A text with its escapes resolved, and whether one of them ends everything. -/
def resolve (e : Escapes) (cs : List Char) : List Char × Bool :=
  e.resolveWithin (cs.length + 1) cs []

end Escapes

end JobLaunch.Rehearsal
