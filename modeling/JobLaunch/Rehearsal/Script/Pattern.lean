import JobLaunch.Rehearsal.Bytes
import JobLaunch.Text.Alphanumeric
import JobLaunch.Text.Blank
import JobLaunch.Text.Case

/-!
# Patterns

A pattern says what a text looks like: a star stands for any characters, a question mark for one,
and square brackets for one of several.

* `Glyph` — a character of a word, and whether it may have a meaning.
* `Pattern.ofGlyphs`, `Pattern.accepts` — patterns, and what they stand for.
* `Pattern.withoutStart`, `Pattern.withoutEnd` — a text without a match at one end.
* `Pattern.replace` — a text with matches replaced.
-/

namespace JobLaunch.Rehearsal.Script

/-- Where a character of a word comes from. -/
inductive Origin where
  | quoted
  | literal
  | expanded
  deriving DecidableEq, Inhabited

structure Glyph where
  char : Char
  origin : Origin
  deriving DecidableEq, Inhabited

/-- Characters that square brackets stand for. -/
inductive Member where
  | range (low high : Char)
  | kind (name : String)
  deriving DecidableEq, Inhabited

inductive Piece where
  | char (c : Char)
  | one
  | many
  | member (negated : Bool) (members : List Member)
  deriving DecidableEq, Inhabited

abbrev Pattern := List Piece

namespace Member

/-- Is a character that does not belong to ASCII of a kind? Stand-ins for bytes are of none. -/
def isOfWideKind (name : String) (c : Char) : Bool :=
  let n := c.toNat
  let isBroken := n < 0xA0 || Bytes.firstStandIn ≤ n
  -- Raised, lowered and enclosed digits are signs.
  let isSign := (0xB2 ≤ n && n ≤ 0xBE) || (0x2070 ≤ n && n ≤ 0x2BFF) || (0x3192 ≤ n && n ≤ 0x33FF)
  let letter := Text.isLetter c || (Text.isAlphanumeric c && !isSign)
  let narrow := n = 0xA0 || n = 0x2007 || n = 0x202F
  let space := Text.isBlank c && !narrow
  match name with
  | "alpha" | "alnum" => !isBroken && letter
  | "lower" => !isBroken && (Text.capital c ≠ c || c == 'ß' || c == 'ª' || c == 'º')
  | "upper" => !isBroken && Text.small c ≠ c
  | "punct" => !isBroken && !letter && !space
  | "graph" => !isBroken && !space
  | "print" => !isBroken && n ≠ 0x2028 && n ≠ 0x2029
  | "space" => !isBroken && space
  | "blank" => !isBroken && space && n ≠ 0x2028 && n ≠ 0x2029
  | "cntrl" => (0x80 ≤ n && n < 0xA0) || n = 0x2028 || n = 0x2029
  | _ => false

def isOfKind (name : String) (c : Char) : Bool :=
  if '\x80' ≤ c then isOfWideKind name c
  else
  let lower := 'a' ≤ c && c ≤ 'z'
  let upper := 'A' ≤ c && c ≤ 'Z'
  let digit := Text.isDigit c
  let visible := '!' ≤ c && c ≤ '~'
  match name with
  | "alpha" => lower || upper
  | "digit" => digit
  | "alnum" => lower || upper || digit
  | "upper" => upper
  | "lower" => lower
  | "space" => " \t\n\r\x0b\x0c".toList.contains c
  | "blank" => c == ' ' || c == '\t'
  | "punct" => visible && !(lower || upper || digit)
  | "print" => visible || c == ' '
  | "graph" => visible
  | "cntrl" => c < ' ' || c == '\x7f'
  | "xdigit" => digit || ('a' ≤ c && c ≤ 'f') || ('A' ≤ c && c ≤ 'F')
  | _ => false

def matchesChar : Member → Char → Bool
  | range low high, c => low ≤ c && c ≤ high
  | kind name, c => isOfKind name c

end Member

namespace Pattern

/-! ## Reading -/

/-- The name of a kind of characters between colons, and what is left after it. -/
def kindFrom : List Glyph → List Char → Option (String × List Glyph)
  | ⟨':', .quoted⟩ :: _, _ => none
  | ⟨':', _⟩ :: ⟨']', _⟩ :: rest, name => some (String.ofList name.reverse, rest)
  | ⟨c, _⟩ :: rest, name => if c.isAlpha then kindFrom rest (c :: name) else none
  | [], _ => none

/-- The members of square brackets after the first one, and what is left after them; nothing if they
are not closed. -/
def membersFrom : Nat → Bool → List Glyph → List Member → Option (List Member × List Glyph)
  | 0, _, _, _ => none
  | n + 1, first, gs, ms =>
    match gs with
    | [] => none
    | ⟨']', o⟩ :: rest =>
      if o ≠ .quoted && !first then some (ms.reverse, rest) else member n ']' rest ms
    | ⟨'[', o⟩ :: rest =>
      match rest with
      | ⟨':', _⟩ :: more =>
        if o = .quoted then member n '[' rest ms
        else match kindFrom more [] with
          | some (name, rest) => membersFrom n false rest (.kind name :: ms)
          | none => member n '[' rest ms
      | _ => member n '[' rest ms
    | ⟨'\\', o⟩ :: rest =>
      match o, rest with
      | .quoted, _ | _, [] => member n '\\' rest ms
      | _, ⟨c, _⟩ :: rest => member n c rest ms
    | ⟨'/', _⟩ :: _ => none
    | ⟨c, _⟩ :: rest => member n c rest ms
where
  member (n : Nat) (c : Char) (rest : List Glyph) (ms : List Member) :
      Option (List Member × List Glyph) :=
    match rest with
    | ⟨'-', o⟩ :: ⟨d, p⟩ :: more =>
      if o = .quoted || (d = ']' && p ≠ .quoted) then membersFrom n false rest (.range c c :: ms)
      else membersFrom n false more (.range c d :: ms)
    | _ => membersFrom n false rest (.range c c :: ms)

def ofGlyphsWithin : Nat → List Glyph → Pattern
  | 0, _ => []
  | n + 1, gs =>
    match gs with
    | [] => []
    | ⟨c, o⟩ :: rest =>
      if o = .quoted then .char c :: ofGlyphsWithin n rest
      else match c with
        | '*' => .many :: ofGlyphsWithin n rest
        | '?' => .one :: ofGlyphsWithin n rest
        | '\\' =>
          match rest with
          | ⟨d, _⟩ :: more => .char d :: ofGlyphsWithin n more
          | [] => [.char '\\']
        | '[' =>
          let (negated, inside) := match rest with
            | ⟨d, p⟩ :: more =>
              if p ≠ Origin.quoted && (d = '!' || d = '^') then (true, more) else (false, rest)
            | [] => (false, rest)
          match membersFrom (2 * inside.length + 2) true inside [] with
          | some (members, rest) => .member negated members :: ofGlyphsWithin n rest
          | none => .char '[' :: ofGlyphsWithin n rest
        | c => .char c :: ofGlyphsWithin n rest

def ofGlyphs (gs : List Glyph) : Pattern := ofGlyphsWithin (gs.length + 1) gs

/-- Is there anything in a pattern that does not only stand for itself? -/
def isProper (p : Pattern) : Bool := p.any fun piece => !(piece matches .char _)

/-! ## Matching -/

def Piece.matchesOne (p : Piece) (c : Char) : Bool :=
  match p with
  | .char d => c == d
  | .one => true
  | .many => false
  | .member negated members => members.any (·.matchesChar c) != negated

def accepts : Pattern → List Char → Bool
  | [], cs => cs.isEmpty
  | .many :: p, cs => anywhere (fun cs => Pattern.accepts p cs) cs
  | piece :: p, c :: cs => Piece.matchesOne piece c && Pattern.accepts p cs
  | _ :: _, [] => false
where
  anywhere (f : List Char → Bool) : List Char → Bool
    | [] => f []
    | c :: cs => f (c :: cs) || anywhere f cs

def starts (p : Pattern) (cs : List Char) : List Nat :=
  (List.range (cs.length + 1)).filter fun n => p.accepts (cs.take n)

def withoutStart (p : Pattern) (longest : Bool) (cs : List Char) : List Char :=
  let ns := p.starts cs
  match if longest then ns.getLast? else ns.head? with
  | some n => cs.drop n
  | none => cs

def withoutEnd (p : Pattern) (longest : Bool) (cs : List Char) : List Char :=
  let ns := (List.range (cs.length + 1)).filter fun n => p.accepts (cs.drop n)
  match if longest then ns.head? else ns.getLast? with
  | some n => cs.take n
  | none => cs

def replaceWithin (p : Pattern) (new : List Char) (all : Bool) : Nat → List Char → List Char
  | 0, cs => cs
  | n + 1, cs =>
    match cs with
    | [] => []
    | c :: rest =>
      match (p.starts cs).getLast? with
      | some (k + 1) =>
        new ++ if all then replaceWithin p new all n (cs.drop (k + 1)) else cs.drop (k + 1)
      | _ => c :: replaceWithin p new all n rest

def replace (p : Pattern) (new : List Char) (all : Bool) (atEnd : Option Bool) (cs : List Char) :
    List Char :=
  match atEnd with
  | none => replaceWithin p new all (cs.length + 1) cs
  | some false =>
    match (p.starts cs).getLast? with
    | some n => new ++ cs.drop n
    | none => cs
  | some true =>
    match ((List.range (cs.length + 1)).filter fun n => p.accepts (cs.drop n)).head? with
    | some n => cs.take n ++ new
    | none => cs

end Pattern

end JobLaunch.Rehearsal.Script
