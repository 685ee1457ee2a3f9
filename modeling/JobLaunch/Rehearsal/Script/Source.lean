import JobLaunch.Rehearsal.Script.Command

/-!
# The text of a script

A script is read from its start to its end, and what has been read is run before the rest is read.
So a mistake shows only when it is reached.

* `Source` — what is left of a script, and where that is.
* `Fault` — why a script cannot be read on, with `Fault.message`.
* `Reading` — steps of reading.
-/

namespace JobLaunch.Rehearsal.Script

/-- What a script is made of. -/
inductive Token where
  | ending
  | newline
  | operator (text : String)
  | redirection (stream : Option Nat) (text : String)
  | numbered (variableName text : String)
  | word (w : Word)
  | keyword (text : String)
  deriving Inhabited

/-- A text that stands below the line under way. -/
structure Awaited where
  number : Nat
  delimiter : List Char
  indented : Bool
  quoted : Bool
  line : Nat
  deriving Inhabited

/-- What is left of a script. -/
structure Source where
  dialect : Dialect
  rest : List Char
  line : Nat := 1
  awaited : List Awaited := []
  documents : Array Word := #[]
  warnings : List (Nat × String) := []
  pushed : Option Token := none
  beforeToken : List Char := []
  deriving Inhabited

/-- Why a script cannot be read on. -/
inductive Fault where
  | unexpected (found : Token) (expected : Option String)
  | unterminatedQuote (quote : Char) (line : Nat)
  | missingBrace (line : Nat)
  | missingParens (line : Nat)
  | unterminatedOutput (line : Nat)
  | unendingCommand
  | loopVariable (text : String)
  | functionName (text : String)
  | badTest (reasons : List String) (line : Nat)
  | tooDeep
  deriving Inhabited

def Token.shown : Token → String
  | .ending => "end of file"
  | .newline => "newline"
  | .operator text | .keyword text => "\"" ++ text ++ "\""
  | .redirection .. | .numbered .. => "redirection"
  | .word _ => "word"

def longestMessage : Nat := 63

def Fault.message : Fault → String
  | unexpected found expected =>
    let wanted := match expected with
      | some e => " (expecting " ++ e ++ ")"
      | none => ""
    String.ofList ((found.shown ++ " unexpected" ++ wanted).toList.take longestMessage)
  | unterminatedQuote .. => "Unterminated quoted string"
  | missingBrace _ => "Missing '\x7d'"
  | missingParens _ => "Missing '))'"
  | unterminatedOutput _ => "EOF in backquote substitution"
  | unendingCommand => "end of file unexpected (expecting \")\")"
  | loopVariable _ => "Bad for loop variable"
  | functionName _ => "Bad function name"
  | badTest .. => "Bad test"
  | tooDeep => "out of memory"

abbrev Reading := EStateM Fault Source

namespace Reading

def iterate {σ α : Type} (step : σ → Reading (σ ⊕ α)) : Nat → σ → Reading α
  | 0, _ => throw .tooDeep
  | n + 1, s => do
    match ← step s with
    | .inl s => iterate step n s
    | .inr a => pure a

/-- Does something again and again; each time something is read, or it is over. -/
def loop {σ α : Type} (step : σ → Reading (σ ⊕ α)) (s : σ) : Reading α := do
  let source ← get
  iterate step (2 * source.rest.length + 4) s

def dialect : Reading Dialect := do return (← get).dialect

def line : Reading Nat := do return (← get).line

def peek : Reading (Option Char) := do return (← get).rest.head?

def drop : Reading Unit :=
  modify fun s =>
    match s.rest with
    | [] => s
    | c :: rest => { s with rest, line := if c = '\n' then s.line + 1 else s.line }

def next : Reading (Option Char) := do
  let c ← peek
  drop
  pure c

def joinedFrom (count : Nat) : List Char → List Char × Nat
  | '\\' :: '\n' :: rest => joinedFrom (count + 1) rest
  | rest => (rest, count)

def joinLines : Reading Unit :=
  modify fun s =>
    let (rest, count) := joinedFrom 0 s.rest
    { s with rest, line := s.line + count }

def peekJoined : Reading (Option Char) := do
  joinLines
  peek

/-- Takes the next character away if it is the given one; hidden line breaks are left out. -/
def accept (c : Char) : Reading Bool := do
  if (← peekJoined) == some c then
    drop
    pure true
  else pure false

/-- Takes the next character away if that is wanted and it is the given one. -/
def acceptIf (wanted : Bool) (c : Char) : Reading Bool := if wanted then accept c else pure false

/-- Takes characters as long as they are of a kind; hidden line breaks are left out. -/
def takeWhile (p : Char → Bool) : Reading (List Char) :=
  loop (fun (cs : List Char) => do
    match ← peekJoined with
    | some c =>
      if p c then
        drop
        pure (.inl (c :: cs))
      else pure (.inr cs.reverse)
    | none => pure (.inr cs.reverse)) []

end Reading

end JobLaunch.Rehearsal.Script
