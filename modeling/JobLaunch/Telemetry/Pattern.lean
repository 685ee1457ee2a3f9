import JobLaunch.Text.Alphanumeric
import JobLaunch.Text.Blank
import JobLaunch.Text.Decimal

/-!
# Patterns for field values

A directive of a log filter may ask for the value of a field: a truth value, a number, or a regular
expression.

* `FieldPattern.isWellFormed` — is a text one of these?

A well-formed expression closes its groups and classes, repeats nothing that is not there, and is
not nested too deeply. It stands for characters, and no tables of their properties are at hand. So
it may ask neither for kinds of characters, nor for edges of words, nor for both cases of letters,
unless it says that it is about ASCII only, and then it must not stand for bytes outside ASCII.
-/

namespace JobLaunch.FieldPattern

/-- A number with a sign in front, as far as that matters: what follows a plus sign repeats nothing
if it is a number. -/
def isPlainNumber (cs : List Char) : Bool :=
  let mantissa := cs.takeWhile fun c => c != 'e' && c != 'E'
  let exponent := cs.drop mantissa.length
  let whole := mantissa.takeWhile Text.isDigit
  let places := match mantissa.drop whole.length with
    | '.' :: r => some r
    | [] => some []
    | _ => none
  let unsigned := match exponent.drop 1 with
    | '+' :: r | '-' :: r => r
    | r => r
  places.any (fun p => p.all Text.isDigit && !(whole ++ p).isEmpty) &&
    (exponent.isEmpty || (!unsigned.isEmpty && unsigned.all Text.isDigit))

def isNumber (cs : List Char) : Bool :=
  isPlainNumber cs || ["inf", "infinity", "nan"].contains (String.ofList (cs.map Char.toLower))

/-! ## Reading -/

/-- What flags say about the rest of a group. -/
structure Flags where
  characters : Bool := true
  folds : Bool := false
  spaced : Bool := false

/-- How far an expression has been read. -/
structure Reading where
  rest : List Char
  flags : Flags := {}
  names : List String := []

abbrev Reader := StateT Reading Option

namespace Reader

def next : Reader Char := do
  match (← get).rest with
  | c :: rest =>
    modify fun s => { s with rest }
    pure c
  | [] => failure

def takes (text : String) : Reader Bool := do
  match Text.afterStart? text.toList (← get).rest with
  | some rest =>
    modify fun s => { s with rest }
    pure true
  | none => pure false

/-- Takes the first of several texts that comes next. -/
def takesOne : List String → Reader Bool
  | [] => pure false
  | text :: texts => do if ← takes text then pure true else takesOne texts

/-- The text after blanks and comments. -/
def afterBlanks : Bool → List Char → List Char
  | _, [] => []
  | true, c :: cs => afterBlanks (c != '\n') cs
  | false, c :: cs =>
    if Text.isBlank c then afterBlanks false cs
    else if c == '#' then afterBlanks true cs
    else c :: cs

/-- Passes over blanks and comments, where they may stand. -/
def skipBlanks : Reader Unit :=
  modify fun s => if s.flags.spaced then { s with rest := afterBlanks false s.rest } else s

/-- The character after the next one, apart from blanks; of a comment its first character counts. -/
def second? : Reader (Option Char) := do
  let s ← get
  let rest := s.rest.drop 1
  let shown := rest.dropWhile Text.isBlank
  let shown := if shown.head? = some '#' then (shown.drop 1).dropWhile Text.isBlank else shown
  pure (if s.flags.spaced then shown.head?.or rest.head? else rest.head?)

end Reader

open Reader

/-! ## Single characters -/

/-- What a character or an escape stands for. -/
inductive Atom where
  | letter (c : Char)
  | kind
  | place
  deriving DecidableEq

def isHex (c : Char) : Bool :=
  Text.isDigit c || ('a' ≤ c && c ≤ 'f') || ('A' ≤ c && c ≤ 'F')

def hexValue (c : Char) : Nat :=
  if Text.isDigit c then c.toNat - 48 else c.toLower.toNat - 87

/-- A character by its number in so many hexadecimal digits. -/
def numbered : Nat → Nat → Reader Char
  | 0, value => if value.isValidChar then pure (Char.ofNat value) else failure
  | n + 1, value => do
    let c ← next
    if !isHex c then failure
    skipBlanks
    numbered n (16 * value + hexValue c)

def escape : Reader Atom := do
  let flags := (← get).flags
  let c ← next
  match c with
  | 'x' =>
    skipBlanks
    let c ← numbered 2 0
    if !flags.characters && 128 ≤ c.toNat then failure
    pure (.letter c)
  | 'u' =>
    skipBlanks
    return .letter (← numbered 4 0)
  | 'U' =>
    skipBlanks
    return .letter (← numbered 8 0)
  | 'd' | 's' | 'w' => if flags.characters then failure else pure .kind
  | 'A' | 'z' => pure .place
  | 'b' | 'B' | '<' | '>' => if flags.characters then failure else pure .place
  | 'a' => pure (.letter '\x07')
  | 'f' => pure (.letter '\x0c')
  | 'n' => pure (.letter '\n')
  | 'r' => pure (.letter '\r')
  | 't' => pure (.letter '\t')
  | 'v' => pure (.letter '\x0b')
  | c => if c.isAlphanum || 128 ≤ c.toNat then failure else pure (.letter c)

/-! ## Nesting -/

/-- Parts side by side: how many there are, and how deeply the deepest of them is nested. -/
structure Row where
  count : Nat := 0
  depth : Nat := 0

namespace Row

/-- Adds a part that is nested so deeply. -/
def add (r : Row) (depth : Nat) : Row := ⟨r.count + 1, max r.depth depth⟩

/-- How deeply the parts are nested together; several ones are a level of their own. -/
def nesting (r : Row) : Nat := if r.count ≤ 1 then r.depth else r.depth + 1

end Row

/-! ## Classes -/

/-- The members of a class that is being read, and how deeply what stands before an operator in
front of them is nested. -/
structure Members where
  row : Row := {}
  before : Option Nat := none

def Members.nesting (m : Members) : Nat :=
  match m.before with
  | some depth => max depth m.row.nesting + 1
  | none => m.row.nesting

/-- Adds a member. -/
def Members.add (m : Members) (depth : Nat) : Members := { m with row := m.row.add depth }

/-- Makes sure that a class may have members that are known by themselves. -/
def checkMember (c : Char) : Reader Unit := do
  let flags := (← get).flags
  if flags.characters then if flags.folds then failure
  else if 128 ≤ c.toNat then failure

/-- Literal hyphens at the start of a class. -/
def hyphens : Nat → Members → Reader Members
  | 0, _ => failure
  | n + 1, m => do
    if ← takes "-" then
      checkMember '-'
      skipBlanks
      hyphens n (m.add 0)
    else pure m

/-- The start of a class, whose bracket has been read: a negation, and members that mean something
else further on. -/
def classStart : Reader Members := do
  skipBlanks
  if ← takes "^" then
    -- What is left would stand for bytes outside ASCII.
    if !(← get).flags.characters then failure
    skipBlanks
  let m ← hyphens ((← get).rest.length + 1) {}
  if 0 < m.row.count then pure m
  else if ← takes "]" then
    checkMember ']'
    skipBlanks
    pure (m.add 0)
  else pure m

def kindNames : List String :=
  ["alnum", "alpha", "ascii", "blank", "cntrl", "digit", "graph", "lower", "print", "punct",
    "space", "upper", "word", "xdigit"]

/-- Takes a kind of characters between colons, if one comes next. Its bracket has been read. -/
def namedKind : Reader Bool := do
  let s ← get
  match s.rest with
  | ':' :: rest =>
    let isNegated := rest.head? = some '^'
    let rest := if isNegated then rest.drop 1 else rest
    let name := rest.takeWhile (· ≠ ':')
    match rest.drop name.length with
    | ':' :: ']' :: rest =>
      if !kindNames.contains (String.ofList name) then pure false
      else
        checkMember 'a'
        if isNegated && !s.flags.characters then failure
        set { s with rest }
        pure true
    | _ => pure false
  | _ => pure false

/-- A character or an escape in a class. -/
def memberAtom : Reader Atom := do
  match ← next with
  | '\\' => escape
  | c => pure (.letter c)

/-- A member of a class: a character, a kind of characters or a range. -/
def member : Reader Unit := do
  let low ← memberAtom
  skipBlanks
  let rest := (← get).rest
  if rest.isEmpty then failure
  let after ← second?
  if rest.head? ≠ some '-' || after = some ']' || after = some '-' then
    match low with
    | .letter c => checkMember c
    | .kind => checkMember 'a'
    | .place => failure
  else
    let _ ← next
    skipBlanks
    match low, ← memberAtom with
    | .letter low, .letter high =>
      if high < low then failure
      checkMember low
      checkMember high
    | _, _ => failure

def classWithin : Nat → List Members → Members → Reader Nat
  | 0, _, _ => failure
  | n + 1, outer, m => do
    skipBlanks
    if ← takes "[" then
      if ← namedKind then classWithin n outer (m.add 0)
      else classWithin n (m :: outer) (← classStart)
    else if ← takes "]" then
      let depth := m.nesting + 1
      match outer with
      | [] => pure depth
      | m :: outer => classWithin n outer (m.add depth)
    else if ← takesOne ["&&", "--", "~~"] then
      classWithin n outer { before := some m.nesting }
    else
      member
      classWithin n outer (m.add 0)

/-! ## Groups -/

/-- Takes flags up to the end of them. Each may be given once, and so may a sign that turns off
those that follow. -/
def flagsWithin : Nat → List Char → Flags → Reader Flags
  | 0, _, _ => failure
  | n + 1, seen, flags => do
    match (← get).rest with
    | ':' :: _ | ')' :: _ => if seen.head? = some '-' then failure else pure flags
    | _ =>
      let c ← next
      if seen.contains c then failure
      let on := !seen.contains '-'
      let flags ← match c with
        | 'u' => pure { flags with characters := on }
        | 'i' => pure { flags with folds := on }
        | 'x' => pure { flags with spaced := on }
        | 'm' | 's' | 'R' | 'U' | '-' => pure flags
        | _ => failure
      flagsWithin n (c :: seen) flags

def groupName : Reader Unit := do
  let s ← get
  let name := s.rest.takeWhile (· ≠ '>')
  let isFine : Bool := match name with
    | [] => false
    | c :: cs => (Text.isLetter c || c == '_') &&
      cs.all fun c => Text.isAlphanumeric c || "_.[]".toList.contains c
  let name := String.ofList name
  if !isFine || name.length = s.rest.length || s.names.contains name then failure
  set { s with rest := s.rest.drop (name.length + 1), names := name :: s.names }

/-- Takes the start of a group, whose parenthesis has been read. Tells whether it is one that goes
on; flags may stand for themselves. -/
def groupStart : Reader Bool := do
  skipBlanks
  if ← takesOne ["?P<", "?<"] then
    groupName
    pure true
  else if ← takes "?" then
    let s ← get
    if s.rest.head? = some ')' then failure
    let flags ← flagsWithin (s.rest.length + 1) [] s.flags
    modify fun s => { s with flags }
    return (← next) = ':'
  else pure true

/-! ## Expressions -/

/-- The part of an expression up to where it is read. -/
structure Level where
  choices : Row := {}
  /-- The parts of the one that is being read, the last one first: how deeply each is nested, and
  whether it can be repeated. -/
  parts : List (Nat × Bool) := []

namespace Level

def close (l : Level) : Level :=
  { choices := l.choices.add (l.parts.foldl (fun r p => r.add p.1) ({} : Row)).nesting }

def nesting (l : Level) : Nat := l.close.choices.nesting

/-- Adds a part. -/
def add (l : Level) (depth : Nat) (repeats : Bool) : Level :=
  { l with parts := (depth, repeats) :: l.parts }

end Level

/-- How deeply an expression is nested, of which a part has been read, and which stands in others
with flags of their own. -/
def expression : Nat → List (Level × Flags) → Level → Reader Nat
  | 0, _, _ => failure
  | n + 1, outer, level => do
    skipBlanks
    let s ← get
    if s.rest.isEmpty then
      if outer.isEmpty then pure level.nesting else failure
    else
      match ← next with
      | '(' =>
        if ← groupStart then expression n ((level, s.flags) :: outer) {}
        else expression n outer (level.add 0 false)
      | ')' =>
        match outer with
        | [] => failure
        | (before, flags) :: outer =>
          modify fun s => { s with flags }
          expression n outer (before.add (level.nesting + 1) true)
      | '|' => expression n outer level.close
      | '[' =>
        let depth ← classWithin (s.rest.length + 1) [] (← classStart)
        expression n outer (level.add depth true)
      | '*' | '+' | '?' =>
        let _ ← takes "?"
        match level.parts with
        | (depth, true) :: parts =>
          expression n outer { level with parts := (depth + 1, true) :: parts }
        | _ => failure
      -- A count cannot be closed, since the closing brace ends the fields.
      | '\x7b' => failure
      | '^' | '$' => expression n outer (level.add 0 true)
      | '.' => if s.flags.characters then expression n outer (level.add 0 true) else failure
      | '\\' =>
        let a ← escape
        if s.flags.characters && s.flags.folds && a ≠ .place then failure
        expression n outer (level.add 0 true)
      | _ =>
        if s.flags.characters && s.flags.folds then failure
        expression n outer (level.add 0 true)

/-- How deeply an expression may be nested. -/
def mostNesting : Nat := 250

/-- Can a text be asked for as the value of a field? -/
def isWellFormed (cs : List Char) : Bool :=
  (match cs with
    | '+' :: r => isNumber r
    | _ => false) ||
  ((expression (cs.length + 1) [] {}).run { rest := cs }).any (·.1 ≤ mostNesting)

end JobLaunch.FieldPattern
