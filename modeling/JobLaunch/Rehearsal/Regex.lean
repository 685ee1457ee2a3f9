import JobLaunch.Rehearsal.Script.Pattern
import JobLaunch.Text.Case
import JobLaunch.Text.Decimal

/-!
# Regular expressions

Regular expressions are written in a basic and in an extended way. Of all matches the leftmost ones
count, and of those the longest one.

* `Regex` — what an expression says.
* `Regex.read` — expressions from their texts.
* `Regex.find?` — the match in a text, with what groups stand for.
-/

namespace JobLaunch.Rehearsal

/-- A regular expression. -/
inductive Regex where
  | empty
  | char (c : Char)
  | any
  | set (negated : Bool) (members : List Script.Member)
  | start
  | finish
  | textStart
  | textFinish
  | edge (before after : List Bool)
  | group (number : Nat) (r : Regex)
  | again (number : Nat)
  | both (a b : Regex)
  | either (a b : Regex)
  | many (r : Regex) (least : Nat) (most : Option Nat)
  deriving Inhabited

namespace Regex

/-! ## Reading -/

/-- How expressions are written. -/
inductive Style where
  | basic
  | extended
  | lenient
  deriving DecidableEq, Inhabited

/-- What is wrong with an expression. -/
inductive Fault where
  | openGroup
  | closedGroup
  | openSet
  | bareSet
  | range
  | kind
  | lastBackslash
  | openCount
  | count
  | before
  | reference
  | collation
  | size
  deriving DecidableEq, Inhabited

def Fault.message : Fault → String
  | openGroup => "Unmatched ( or \\("
  | closedGroup => "Unmatched ) or \\)"
  | openSet => "Unmatched [, [^, [:, [., or [="
  | bareSet => "Invalid regular expression"
  | range => "Invalid range end"
  | kind => "Invalid character class name"
  | lastBackslash => "Trailing backslash"
  | openCount => "Unmatched \\\x7b"
  | count => "Invalid content of \\\x7b\\\x7d"
  | before => "Invalid preceding regular expression"
  | reference => "Invalid back reference"
  | collation => "Invalid collation character"
  | size => "Regular expression too big"

/-- A part of an expression as it is written. -/
inductive Token where
  | char (c : Char)
  | any
  | star
  | plus
  | optional
  | openGroup
  | closeGroup
  | bar
  | openCount
  | caret
  | dollar
  | bracket
  | reference (number : Nat)
  | letter (c : Char)
  deriving DecidableEq, Inhabited

def token (n : Style) : List Char → Except Fault (Option (Token × List Char))
  | [] => .ok none
  | '\\' :: [] => .error .lastBackslash
  | '\\' :: c :: rest =>
    let found : Token :=
      if n = .basic && "()\x7b|+?".toList.contains c then
        match c with
        | '(' => .openGroup
        | ')' => .closeGroup
        | '\x7b' => .openCount
        | '|' => .bar
        | '+' => .plus
        | _ => .optional
      else if '1' ≤ c && c ≤ '9' then .reference (c.toNat - 48)
      else if "wWsSbB<>\x60'".toList.contains c then .letter c
      else .char c
    .ok (some (found, rest))
  | c :: rest =>
    let found : Token := match c with
      | '.' => .any
      | '*' => .star
      | '^' => .caret
      | '$' => .dollar
      | '[' => .bracket
      | c =>
        if n ≠ .basic then
          match c with
          | '(' => .openGroup
          | ')' => .closeGroup
          | '\x7b' => .openCount
          | '|' => .bar
          | '+' => .plus
          | '?' => .optional
          | c => .char c
        else .char c
    .ok (some (found, rest))

def kinds : List String :=
  ["alpha", "digit", "alnum", "upper", "lower", "space", "blank", "punct", "print", "graph",
    "cntrl", "xdigit"]

def namedMember (sign : Char) : List Char → List Char → Option (List Char × List Char)
  | [], _ => none
  | c :: ']' :: rest, name => if c = sign then some (name.reverse, rest)
      else namedMember sign (']' :: rest) (c :: name)
  | c :: rest, name => namedMember sign rest (c :: name)

def setChar (cs : List Char) : Except Fault (Option (Char × List Char)) :=
  match cs with
  | [] => .error .openSet
  | '[' :: '.' :: rest | '[' :: '=' :: rest =>
    match namedMember ((cs.drop 1).headD '.') rest [] with
    | some ([c], rest) => .ok (some (c, rest))
    | some _ => .error .collation
    | none => .error .openSet
  | c :: rest => .ok (some (c, rest))

def setMembers : Nat → Bool → List Char → List Script.Member →
    Except Fault (List Script.Member × List Char)
  | 0, _, _, _ => .error .openSet
  | n + 1, isFirst, cs, ms =>
    match cs with
    | [] => .error .openSet
    | '[' :: ':' :: rest =>
      match namedMember ':' rest [] with
      | some (name, rest) =>
        if kinds.contains (String.ofList name) then
          setMembers n false rest (.kind (String.ofList name) :: ms)
        else .error .kind
      | none => .error .openSet
    | c :: rest =>
      if c = ']' && !isFirst then .ok (ms.reverse, rest)
      else do
        match ← setChar cs with
        | none => .error .openSet
        | some (low, after) =>
          match after with
          | '-' :: ']' :: _ => setMembers n false after (.range low low :: ms)
          | '-' :: more =>
            match ← setChar more with
            | none => .error .openSet
            | some (high, after) =>
              if high < low then .error .range
              else setMembers n false after (.range low high :: ms)
          | _ => setMembers n false after (.range low low :: ms)

def setFrom (cs : List Char) : Except Fault (Regex × List Char) := do
  let (negated, inside) := match cs with
    | '^' :: rest => (true, rest)
    | _ => (false, cs)
  if inside.isEmpty then throw .bareSet
  let (ms, rest) ← setMembers (inside.length + 1) true inside []
  .ok (.set negated ms, rest)

def greatestCount : Nat := 32767

def countFrom (n : Style) (cs : List Char) : Except Fault (Nat × Option Nat × List Char) :=
  let (low, rest) := cs.span Text.isDigit
  let least := Decimal.value low
  let (most, rest) : Option Nat × List Char := match rest with
    | ',' :: more =>
      let (high, rest) := more.span Text.isDigit
      (if high.isEmpty then none else some (Decimal.value high), rest)
    | _ => (some least, rest)
  let after := match n, rest with
    | .basic, '\\' :: '\x7d' :: rest => some rest
    | .basic, _ => none
    | _, '\x7d' :: rest => some rest
    | _, _ => none
  match after with
  | none => .error (if rest.isEmpty || n = .lenient then .openCount else .count)
  | some rest =>
    if (low.isEmpty && most = some 0 && cs.head? != some ',') || most.any (· < least) then
      .error .count
    else if (most.getD least) > greatestCount then .error .size
    else .ok (least, most, rest)

def wordMembers : List Script.Member := [.kind "alnum", .range '_' '_']

def letterMeaning : Char → Regex
  | 'w' => .set false wordMembers
  | 'W' => .set true wordMembers
  | 's' => .set false [.kind "space"]
  | 'S' => .set true [.kind "space"]
  | 'b' => .either (.edge [true] [false]) (.edge [false] [true])
  | 'B' => .either (.edge [true] [true]) (.edge [false] [false])
  | '<' => .edge [false] [true]
  | '>' => .edge [true] [false]
  | '\x60' => .textStart
  | _ => .textFinish

structure Reading where
  rest : List Char
  groups : Nat := 0
  closed : List Nat := []
  counted : List Token := []
  deriving Inhabited

/-- The parts of an expression. -/
inductive Grade where
  | choice
  | branch (before : Regex) (isFirst : Bool)
  | counted (r : Regex)

def endsBranch (n : Style) (cs : List Char) : Bool :=
  match token n cs with
  | .ok none => true
  | .ok (some (.bar, _)) | .ok (some (.closeGroup, _)) => true
  | _ => false

def readWithin (n : Style) : Nat → Nat → Grade → Reading → Except Fault (Regex × Reading)
  | 0, _, _, _ => .error .before
  | fuel + 1, depth, .choice, s => do
    let (a, s) ← readWithin n fuel depth (.branch .empty true) s
    match ← token n s.rest with
    | some (.bar, rest) =>
      let (b, s) ← readWithin n fuel depth .choice { s with rest }
      .ok (.either a b, s)
    | _ => .ok (a, s)
  | fuel + 1, depth, .branch before isFirst, s => do
    let goOn (r : Regex) (s : Reading) : Except Fault (Regex × Reading) := do
      let (r, s) ← readWithin n fuel depth (.counted r) s
      readWithin n fuel depth (.branch (.both before r) false) s
    -- Something that cannot be counted.
    let plain (r : Regex) (s : Reading) : Except Fault (Regex × Reading) :=
      if n ≠ .basic then goOn r s
      else readWithin n fuel depth (.branch (.both before r) isFirst) s
    -- A count of nothing.
    let bare (t : Token) (s : Reading) : Except Fault (Regex × Reading) :=
      if n = .lenient then goOn .empty { s with counted := t :: s.counted } else .error .before
    match ← token n s.rest with
    | none => .ok (before, s)
    | some (t, rest) =>
      let s' := { s with rest }
      match t with
      | .bar => .ok (before, s)
      | .closeGroup =>
        if 0 < depth then .ok (before, s)
        else if n = .lenient then goOn (.char ')') s'
        else .error .closedGroup
      | .char c => goOn (.char c) s'
      | .any => goOn .any s'
      | .letter c => goOn (letterMeaning c) s'
      | .bracket => do
        let (r, rest) ← setFrom rest
        goOn r { s with rest }
      | .reference k =>
        if s.closed.contains k then goOn (.again k) s' else .error .reference
      | .caret =>
        if n ≠ .basic || isFirst then plain .start s' else goOn (.char '^') s'
      | .dollar =>
        if n ≠ .basic || endsBranch n rest then plain .finish s' else goOn (.char '$') s'
      | .openGroup => do
        let k := s.groups + 1
        let (r, s) ← readWithin n fuel (depth + 1) .choice { s' with groups := k }
        match ← token n s.rest with
        | some (.closeGroup, rest) => goOn (.group k r) { s with rest, closed := k :: s.closed }
        | _ => .error .openGroup
      | .star => if n = .basic then goOn (.char '*') s' else bare t s'
      | .plus => if n = .basic then goOn (.char '+') s' else bare t s'
      | .optional => if n = .basic then goOn (.char '?') s' else bare t s'
      | .openCount =>
        if n ≠ .lenient then .error .before
        else match countFrom n rest with
          | .ok (_, _, rest) => bare t { s with rest }
          | .error .openCount => goOn (.char '\x7b') s'
          | .error f => .error f
  | fuel + 1, depth, .counted r, s => do
    let counted (t : Token) (least : Nat) (most : Option Nat) (rest : List Char) :
        Except Fault (Regex × Reading) :=
      let isPlace := n = .lenient && (r matches .start | .finish | .edge ..)
      let counted := if isPlace then t :: s.counted else s.counted
      readWithin n fuel depth (.counted (.many r least most)) { s with rest, counted }
    match token n s.rest with
    | .ok (some (.star, rest)) => counted .star 0 none rest
    | .ok (some (.plus, rest)) => counted .plus 1 none rest
    | .ok (some (.optional, rest)) => counted .optional 0 (some 1) rest
    | .ok (some (.openCount, rest)) =>
      match countFrom n rest with
      | .ok (least, most, rest) => counted .openCount least most rest
      | .error f =>
        -- A brace that opens no count may stand for itself.
        if n = .lenient && f = .openCount then .ok (r, s) else .error f
    | _ => .ok (r, s)

def readNoting (n : Style) (text : String) : Except Fault (Regex × Reading) :=
  let cs := text.toList
  readWithin n (6 * cs.length + 10) 0 .choice { rest := cs }

def read (n : Style) (text : String) : Except Fault (Regex × Nat) := do
  let (r, s) ← readNoting n text
  .ok (r, s.groups)

/-- Do members look like the name of a kind that is not in a set? -/
def areLoose (ms : List Script.Member) : Bool :=
  let colon := Script.Member.range ':' ':'
  let areSingle := ms.all fun m => match m with
    | .range low high => low = high
    | .kind _ => false
  areSingle && 2 < ms.length && ms.head? = some colon && ms.getLast? = some colon &&
    ms.any (· ≠ colon)

/-- Does the name of a kind of characters stand outside of a set? -/
def hasLooseKind : Regex → Bool
  | set _ ms => areLoose ms
  | group _ r | many r _ _ => r.hasLooseKind
  | both a b | either a b => a.hasLooseKind || b.hasLooseKind
  | _ => false

def looseKindText : String := "character class syntax is [[:space:]], not [:space:]"

def Reading.warnings (s : Reading) : List String :=
  s.counted.reverse.map fun t => (match t with
    | .star => "*"
    | .plus => "+"
    | .optional => "?"
    | _ => "\x7b...\x7d") ++ " at start of expression"

/-! ## Matching -/

/-- How a text is searched. -/
structure Manner where
  folds : Bool := false
  byLines : Bool := false
  deriving DecidableEq, Inhabited

/-- The text that is searched. -/
structure Field extends Manner where
  chars : Array Char

namespace Field

def same (f : Field) (a b : Char) : Bool := a == b || (f.folds && Text.small a == Text.small b)

def isIn (f : Field) (negated : Bool) (ms : List Script.Member) (c : Char) : Bool :=
  let is (c : Char) : Bool := ms.any (·.matchesChar c)
  (is c || (f.folds && (is (Text.small c) || is (Text.capital c)))) != negated

def isStart (f : Field) (place : Nat) : Bool :=
  place = 0 || (f.byLines && f.chars[place - 1]? = some '\n')

def isFinish (f : Field) (place : Nat) : Bool :=
  place = f.chars.size || (f.byLines && f.chars[place]? = some '\n')

def isWord (f : Field) (place : Nat) : Bool :=
  (f.chars[place]?).any fun c => wordMembers.any (·.matchesChar c)

def isEdge (f : Field) (before after : List Bool) (place : Nat) : Bool :=
  before.contains (0 < place && f.isWord (place - 1)) && after.contains (f.isWord place)

def step (f : Field) (p : Char → Bool) (places : List Nat) : List Nat :=
  places.filterMap fun i => if (f.chars[i]?).any p then some (i + 1) else none

end Field

def union (a b : List Nat) : List Nat := a ++ b.filter (!a.contains ·)

def closure (next : List Nat → List Nat) : Nat → List Nat → List Nat → List Nat
  | 0, done, _ => done
  | n + 1, done, fresh =>
    if fresh.isEmpty then done
    else
      let new := (next fresh).filter (!done.contains ·)
      closure next n (done ++ new) new

def times (next : List Nat → List Nat) : Nat → List Nat → List Nat
  | 0, places => places
  | n + 1, places => if places.isEmpty then [] else times next n (next places)

/-- Where matches end that start at one of several places. What groups have stood for is not
minded. -/
def ends (f : Field) : Regex → List Nat → List Nat
  | empty, places => places
  | char c, places => f.step (f.same c) places
  | any, places => f.step (fun _ => true) places
  | set negated ms, places => f.step (f.isIn negated ms) places
  | start, places => places.filter f.isStart
  | finish, places => places.filter f.isFinish
  | textStart, places => places.filter (· = 0)
  | textFinish, places => places.filter (· = f.chars.size)
  | edge before after, places => places.filter (f.isEdge before after)
  | group _ r, places => r.ends f places
  | again _, places => places
  | both a b, places => b.ends f (a.ends f places)
  | either a b, places => union (a.ends f places) (b.ends f places)
  | many r least most, places =>
    let after := times (fun ps => r.ends f ps) least places
    match most with
    | none => closure (fun ps => r.ends f ps) (f.chars.size + 1) after after
    | some m => closure (fun ps => r.ends f ps) (m - least) after after

abbrev Groups := List (Nat × Nat × Nat)

def repeated (once : Nat → Groups → (Nat → Groups → Option Groups) → Option Groups)
    (least : Nat) (most : Option Nat) (next : Nat → Groups → Option Groups) :
    Nat → Nat → Nat → Groups → Option Groups
  | 0, _, place, gs => next place gs
  | fuel + 1, count, place, gs =>
    let more := if most.any (· ≤ count) then none
      else once place gs fun after gs =>
        if after = place && least ≤ count then none
        else repeated once least most next fuel (count + 1) after gs
    match more with
    | some gs => some gs
    | none => if least ≤ count then next place gs else none

def standsAt (f : Field) (place origin length : Nat) : Bool :=
  place + length ≤ f.chars.size && (List.range length).all fun i =>
    match f.chars[place + i]?, f.chars[origin + i]? with
    | some a, some b => f.same a b
    | _, _ => false

/-- What the groups stand for in a match that starts at a place and goes on in some way. -/
def groupsFrom (f : Field) : Regex → Nat → Groups → (Nat → Groups → Option Groups) → Option Groups
  | empty, i, gs, k => k i gs
  | char c, i, gs, k => if (f.chars[i]?).any (f.same c) then k (i + 1) gs else none
  | any, i, gs, k => if i < f.chars.size then k (i + 1) gs else none
  | set negated ms, i, gs, k => if (f.chars[i]?).any (f.isIn negated ms) then k (i + 1) gs else none
  | start, i, gs, k => if f.isStart i then k i gs else none
  | finish, i, gs, k => if f.isFinish i then k i gs else none
  | textStart, i, gs, k => if i = 0 then k i gs else none
  | textFinish, i, gs, k => if i = f.chars.size then k i gs else none
  | edge before after, i, gs, k => if f.isEdge before after i then k i gs else none
  | group n r, i, gs, k => r.groupsFrom f i gs fun j gs => k j ((n, i, j) :: gs.filter (·.1 ≠ n))
  | again n, i, gs, k =>
    match gs.lookup n with
    | some (a, b) => if standsAt f i a (b - a) then k (i + (b - a)) gs else none
    | none => none
  | both a b, i, gs, k => a.groupsFrom f i gs fun j gs => b.groupsFrom f j gs k
  | either a b, i, gs, k => (a.groupsFrom f i gs k).or (b.groupsFrom f i gs k)
  | many r least most, i, gs, k =>
    repeated (fun j gs next => r.groupsFrom f j gs next) least most k (f.chars.size + least + 2) 0
      i gs

def hasReference : Regex → Bool
  | again _ => true
  | group _ r | many r _ _ => r.hasReference
  | both a b | either a b => a.hasReference || b.hasReference
  | _ => false

/-- A match: where it starts and ends, and what the groups stand for. -/
structure Match where
  start : Nat
  finish : Nat
  groups : Groups := []
  deriving Inhabited

def matchAt? (r : Regex) (f : Field) (place : Nat) : Option Match :=
  let ended (finish : Nat) : Option Match :=
    (r.groupsFrom f place [] fun j gs => if j = finish then some gs else none).map
      fun gs => ⟨place, finish, gs⟩
  match r.ends f [place] with
  | [] => if r.hasReference then longest ended f.chars.size else none
  | es => if r.hasReference then longest ended f.chars.size else ended (es.foldl max 0)
where
  longest (ended : Nat → Option Match) : Nat → Option Match
    | 0 => ended 0
    | n + 1 => (ended (n + 1)).or (longest ended n)

def findFrom (r : Regex) (f : Field) : Nat → Nat → Option Match
  | 0, _ => none
  | n + 1, place =>
    if f.chars.size < place then none
    else (r.matchAt? f place).or (findFrom r f n (place + 1))

/-- The leftmost match that does not start before a place, and of those the longest one. -/
def find? (r : Regex) (f : Field) (place : Nat) : Option Match :=
  r.findFrom f (f.chars.size + 1) place

def isFound (r : Regex) (f : Field) : Bool := (r.find? f 0).isSome

end Regex

end JobLaunch.Rehearsal
