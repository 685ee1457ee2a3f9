import JobLaunch.Text.Blank

/-!
# Tokens of a shell

The text of a shell script is cut into words and operators. Blanks separate words. Single quotes
take everything literally, double quotes all but expansions, and a backslash the next character.

* `Shell.Piece`, `Shell.Word`, `Shell.Token` — what a text is cut into.
* `Shell.Scan` — a text that is being cut; `Shell.Scan.step` takes one character.
* `Shell.tokens` — the tokens of a text, and where a quote is left open.
-/

namespace JobLaunch.Shell

/-- A part of a word. -/
inductive Piece where
  /-- A character; a quoted one has no special meaning. -/
  | char (c : Char) (quoted : Bool)
  /-- The value of a parameter; in quotes it is not cut at blanks. -/
  | parameter (name : String) (quoted : Bool)
  deriving DecidableEq, Inhabited

abbrev Word := List Piece

/-- A token with the number of its line. -/
inductive Token where
  | word (w : Word)
  | operator (text : String)
  | redirect (stream : Option Nat) (text : String)
  deriving DecidableEq, Inhabited

def operators : List String :=
  ["\n", ";", ";;", "&", "&&", "|", "||", "(", ")", "<", ">", ">>", ">&", "<&", "<<", "<>", ">|"]

/-- What the next character belongs to. -/
inductive Scan.Mode where
  | plain
  | escaped
  | singleQuoted
  | doubleQuoted
  | doubleEscaped
  | dollar (quoted : Bool)
  /-- In the name of a parameter, read so far in reverse. -/
  | name (read : List Char) (quoted : Bool)
  | braced (read : List Char) (quoted : Bool)
  | operator (read : String) (stream : Option Nat)
  | comment
  deriving DecidableEq, Inhabited

/-- A text that is being cut. -/
structure Scan where
  /-- The tokens so far, each with its line, the last one first. -/
  tokens : List (Token × Nat) := []
  /-- The parts of the word that has begun, the last one first. -/
  word : Option Word := none
  mode : Scan.Mode := .plain
  line : Nat := 1
  deriving DecidableEq, Inhabited

namespace Scan

def goTo (s : Scan) (m : Mode) : Scan := { s with mode := m }

def beginWord (s : Scan) : Scan := { s with word := some (s.word.getD []) }

/-- Adds a part to the word. -/
def add (s : Scan) (p : Piece) : Scan := { s with word := some (p :: s.word.getD []) }

def emit (s : Scan) (t : Token) : Scan := { s with tokens := (t, s.line) :: s.tokens }

def endWord (s : Scan) : Scan :=
  match s.word with
  | some w => { s.emit (.word w.reverse) with word := none }
  | none => s

def endOperator (s : Scan) (read : String) (stream : Option Nat) : Scan :=
  let s := if read.toList.any fun c => c == '<' || c == '>' then s.emit (.redirect stream read)
    else s.emit (.operator read)
  s.goTo .plain

def streamNumber? : Option Word → Option Nat
  | some [.char c false] => if Text.isDigit c then some (c.toNat - 48) else none
  | _ => none

def beginOperator (s : Scan) (c : Char) : Scan :=
  if c == '<' || c == '>' then
    match streamNumber? s.word with
    | some n => { s with word := none, mode := .operator (String.singleton c) (some n) }
    | none => s.endWord.goTo (.operator (String.singleton c) none)
  else s.endWord.goTo (.operator (String.singleton c) none)

/-- A character outside quotes. -/
def plainStep (s : Scan) (c : Char) : Scan :=
  if c == ' ' || c == '\t' then s.endWord.goTo .plain
  else if c == '\n' then (s.endWord.emit (.operator "\n")).goTo .plain
  else if operators.contains (String.singleton c) then s.beginOperator c
  else if c == '#' && s.word.isNone then s.goTo .comment
  else if c == '\x27' then s.beginWord.goTo .singleQuoted
  else if c == '"' then s.beginWord.goTo .doubleQuoted
  else if c == '\\' then s.goTo .escaped
  else if c == '$' then s.beginWord.goTo (.dollar false)
  else (s.add (.char c false)).goTo .plain

def doubleStep (s : Scan) (c : Char) : Scan :=
  if c == '"' then s.goTo .plain
  else if c == '\\' then s.goTo .doubleEscaped
  else if c == '$' then s.goTo (.dollar true)
  else (s.add (.char c true)).goTo .doubleQuoted

def baseStep (s : Scan) (quoted : Bool) (c : Char) : Scan :=
  if quoted then s.doubleStep c else s.plainStep c

def isNameStart (c : Char) : Bool :=
  ('a' ≤ c && c ≤ 'z') || ('A' ≤ c && c ≤ 'Z') || c == '_'

def isNameChar (c : Char) : Bool := isNameStart c || Text.isDigit c

def isSpecialName (c : Char) : Bool := Text.isDigit c || "#?$@*!-".toList.contains c

def baseMode (quoted : Bool) : Mode := if quoted then .doubleQuoted else .plain

def addParameter (s : Scan) (read : List Char) (quoted : Bool) : Scan :=
  s.add (.parameter (String.ofList read.reverse) quoted)

def take (s : Scan) (c : Char) : Scan :=
  match s.mode with
  | .plain => s.plainStep c
  | .escaped => if c == '\n' then s.goTo .plain else (s.add (.char c true)).goTo .plain
  | .singleQuoted => if c == '\x27' then s.goTo .plain else s.add (.char c true)
  | .doubleQuoted => s.doubleStep c
  | .doubleEscaped =>
    if c == '\n' then s.goTo .doubleQuoted
    else if "\\\"$\x60".toList.contains c then (s.add (.char c true)).goTo .doubleQuoted
    else ((s.add (.char '\\' true)).add (.char c true)).goTo .doubleQuoted
  | .dollar q =>
    if isNameStart c then s.goTo (.name [c] q)
    else if isSpecialName c then (s.addParameter [c] q).goTo (baseMode q)
    else if c == '\x7b' then s.goTo (.braced [] q)
    else (s.add (.char '$' q)).baseStep q c
  | .name read q =>
    if isNameChar c then s.goTo (.name (c :: read) q) else (s.addParameter read q).baseStep q c
  | .braced read q =>
    if c == '\x7d' then (s.addParameter read q).goTo (baseMode q)
    else s.goTo (.braced (c :: read) q)
  | .operator read stream =>
    if operators.contains (read.push c) then s.goTo (.operator (read.push c) stream)
    else (s.endOperator read stream).plainStep c
  | .comment => if c == '\n' then s.plainStep c else s

def step (s : Scan) (c : Char) : Scan :=
  { s.take c with line := if c == '\n' then s.line + 1 else s.line }

def finish (s : Scan) : Scan :=
  match s.mode with
  | .escaped => (s.add (.char '\\' false)).endWord
  | .operator read stream => s.endOperator read stream
  | .dollar q => (s.add (.char '$' q)).endWord
  | .name read q => (s.addParameter read q).endWord
  | _ => s.endWord

/-- Is a quote or a brace left open? -/
def isOpen (s : Scan) : Bool :=
  match s.mode with
  | .singleQuoted | .doubleQuoted | .doubleEscaped | .braced .. => true
  | .dollar q | .name _ q => q
  | _ => false

end Scan

/-- The tokens of a text with their lines, and the number of its last line if a quote is left
open there. -/
def tokens (text : List Char) : List (Token × Nat) × Option Nat :=
  let s := text.foldl Scan.step {}
  (s.finish.tokens.reverse, if s.isOpen then some s.line else none)

end JobLaunch.Shell
