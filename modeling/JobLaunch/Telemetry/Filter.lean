import JobLaunch.Telemetry.Level
import JobLaunch.Telemetry.Pattern
import JobLaunch.Text.Alphanumeric
import JobLaunch.Text.Utf8

/-!
# Log filters

A filter is a list of directives, separated by commas: a level, a target, or both joined by an
equals sign. After its target a directive may name a span in brackets, and fields of spans in braces
inside the brackets. For a target the directive with the longest matching target decides, of
equally long ones the one with the most fields, and of equal ones the last. A directive that asks
for a span or for the value of a field enables nothing by itself.

* `Directive.parse?`, `LevelFilter.parse?` — read a directive and a filter.
* `LevelFilter.enabled` — the levels that a filter enables for a target.
-/

namespace JobLaunch

structure Directive where
  /-- The beginning of the targets that the directive is for; all targets if none is given. -/
  target : Option String := none
  span : Option String := none
  /-- The names of the fields that a span must have, each with a value if one is asked for. -/
  fields : List (String × Option String) := []
  rank : Nat := 5
  deriving DecidableEq, Inhabited

namespace Directive

/-! ## Reading -/

/-- May a directive start with the character? -/
def startsTarget (c : Char) : Bool :=
  Text.isAlphanumeric c || c == '-' || c == ':' || c == '_'

/-- What the next character of a directive belongs to, with the byte at which that starts. -/
inductive Part where
  | start
  | targetOrLevel (start : Nat)
  | span (start : Nat)
  | field (start : Nat)
  | afterFields
  | afterSpan
  | level (start : Nat)
  deriving DecidableEq, Inhabited

/-- The characters of a text between two numbers of bytes. -/
def slice (low high : Nat) : List Char → List Char
  | [] => []
  | c :: cs =>
    let width := (Utf8.encodeChar c).length
    if low = 0 then if high = 0 then [] else c :: slice 0 (high - width) cs
    else slice (low - width) (high - width) cs

def cut (text : List Char) (low high : Nat) : String := String.ofList (slice low high text)

/-- A field, with its value after an equals sign. -/
def field? (text : String) : Option (String × Option String) :=
  match text.toList.splitOn '=' with
  | [] | [[]] => none
  | [name] => some (String.ofList name, none)
  | name :: value :: _ =>
    if FieldPattern.isWellFormed value then some (String.ofList name, some (String.ofList value))
    else none

/-- The rank after an equals sign; without one everything is enabled. -/
def levelRank? (cs : List Char) : Option Nat := if cs.isEmpty then some 5 else Level.rankOf? cs

/-- Takes a character of a directive, of which so many bytes come before it. -/
def step (text : List Char) (s : Directive × Part) (i : Nat) (c : Char) :
    Option (Directive × Part) :=
  let (d, part) := s
  match part with
  | .start =>
    if c == '[' then some (d, .span (i + 1))
    else if startsTarget c then some (d, .targetOrLevel i)
    else none
  | .targetOrLevel start =>
    if c == '=' then some ({ d with target := some (cut text start i) }, .level (i + 1))
    else if c == '[' then some ({ d with target := some (cut text start i) }, .span (i + 1))
    else some s
  | .span start =>
    if c == ']' then some ({ d with span := some (cut text start i) }, .afterSpan)
    else if c == '\x7b' then
      let name := cut text start i
      some ({ d with span := if name.isEmpty then none else some name }, .field (i + 1))
    else some s
  | .field start =>
    if c == '\x7d' then
      (field? (cut text start i)).map fun f => ({ d with fields := d.fields ++ [f] }, .afterFields)
    else some s
  | .afterFields => if c == ']' then some (d, .afterSpan) else none
  | .afterSpan => if c == '=' then some (d, .level (i + 1)) else none
  | .level _ => some s

def steps (text : List Char) (s : Directive × Part) (i : Nat) :
    List Char → Option (Directive × Part)
  | [] => some s
  | c :: cs => (step text s i c).bind fun s => steps text s (i + (Utf8.encodeChar c).length) cs

/-- Reads a directive. Its outer blanks are passed over, but the bytes of its parts are counted as
if there were none in front, and the last part goes up to the end of the text. -/
def parse? (text : List Char) : Option Directive := do
  let (d, part) ← steps text ({}, .start) 0 (Text.trim text)
  let whole := (Utf8.encode text).length
  match part with
  | .targetOrLevel start =>
    let rest := slice start whole text
    match Level.rankOf? rest with
    | some rank => some { d with rank }
    | none => some { d with target := some (String.ofList rest) }
  | .level start => (levelRank? (slice start whole text)).map fun rank => { d with rank }
  | .afterSpan => some d
  | _ => none

/-! ## Choosing -/

/-- Does the directive enable anything by itself? -/
def isFree (d : Directive) : Bool := d.span.isNone && d.fields.all (·.2.isNone)

def isFor (target : String) (d : Directive) : Bool :=
  d.target.all fun t => (Text.afterStart? t.toList target.toList).isSome

/-- How exactly a directive says what it is for: the length of its target, the number of its fields,
and of equally exact ones the order of their texts. -/
def precision (d : Directive) : Nat × Nat × List String :=
  (match d.target with
    | some t => Utf8.byteLength t + 1
    | none => 0,
   d.fields.length,
   d.target.toList ++ d.fields.map (·.1))

/-- Is a list of texts not after another one, where the first difference decides? -/
def areInOrder : List String → List String → Bool
  | [], _ => true
  | _ :: _, [] => false
  | x :: xs, y :: ys => x < y || (x = y && areInOrder xs ys)

/-- Does the second of two directives take precedence over the first? -/
def yieldsTo (c d : Directive) : Bool :=
  let (m, p, xs) := precision c
  let (n, q, ys) := precision d
  if m ≠ n then m < n else if p ≠ q then p < q else areInOrder xs ys

end Directive

abbrev LevelFilter := List Directive

namespace LevelFilter

/-- Reads a filter; empty directives are skipped. -/
def parse? (s : String) : Option LevelFilter :=
  ((Text.pieces (· == ',') s.toList).filter (!·.isEmpty)).mapM Directive.parse?

/-- Of two directives the one that takes precedence, the second if they are alike. -/
def preferred (chosen : Option Directive) (d : Directive) : Option Directive :=
  match chosen with
  | some c => if c.yieldsTo d then some d else some c
  | none => some d

def enabled (f : LevelFilter) (target : String) : List Level :=
  match (f.filter fun d => d.isFree && d.isFor target).foldl preferred none with
  | some d => Level.all.filter (·.rank ≤ d.rank)
  | none => []

/-- The filter to use: the one of the environment if it can be read, the given one otherwise. -/
def choose? (environment : Option String) (given : String) : Option LevelFilter :=
  match environment.bind parse? with
  | some f => some f
  | none => parse? given

end LevelFilter

end JobLaunch
