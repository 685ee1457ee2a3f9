import JobLaunch.Text.Blank

/-!
# Commands of a shell

* `Part`, `Word` — what a word is made of.
* `Redirection` — what a stream is redirected to.
* `Command` — a command, simple or compound.
* `Dialect` — the two kinds of shells.
-/

namespace JobLaunch.Rehearsal.Script

inductive Dialect where
  | plain
  /-- The large shell that is installed as `bash`. -/
  | extended
  deriving DecidableEq, Inhabited

/-- What is done with a parameter that has no value, or with one that has. -/
inductive Fallback where
  | use
  | assign
  | complain
  | replace
  deriving DecidableEq, Inhabited

/-- How a file is opened by a redirection. -/
inductive FileUse where
  | read
  | write
  | overwrite
  | append
  | readWrite
  deriving DecidableEq, Inhabited

inductive LetterChange where
  | upper
  | lower
  | other
  deriving DecidableEq, Inhabited

/-- What happens after the body of a case. -/
inductive AfterCase where
  | stop
  | goOn
  | fall
  deriving DecidableEq, Inhabited

mutual

inductive Part where
  /-- Characters; quoted ones have no special meaning. -/
  | text (chars : List Char) (quoted : Bool)
  | parameter (name : String) (use : Use) (quoted : Bool)
  | output (body : Command) (quoted : Bool)
  | number (expression : List Part) (quoted : Bool)
  | element (name : String) (key : List Part) (use : Use) (quoted : Bool)
  | stream (body : Command) (reads : Bool)
  | list (adds : Bool) (words : List (List Part))

/-- What is taken of a parameter. -/
inductive Use where
  | value
  | length
  /-- Nothing sensible is asked for; the text that asks is kept. -/
  | unreadable (text : String)
  | fallback (how : Fallback) (emptyToo : Bool) (word : List Part)
  | trimmed (atEnd longest : Bool) (pattern : List Part)
  | replaced (all : Bool) (atEnd : Option Bool) (pattern replacement : List Part)
  | slice (start : List Part) (count : Option (List Part))
  | recased (change : LetterChange) (all : Bool) (pattern : List Part)
  | transformed (form : Char)
  | indirect (use : Use)
  | keys
  | names (joined : Bool)

inductive Redirection where
  | file (stream : Nat) (use : FileUse) (path : List Part)
  /-- What another stream goes to; a hyphen closes the stream. -/
  | copy (stream : Nat) (source : List Part)
  | document (stream : Nat) (number : Nat)
  | inline (stream : Nat) (text : List Part)
  | everything (append : Bool) (path : List Part)
  | numbered (variableName : String) (redirection : Redirection)

/-- A value that a variable gets, or one of its values, maybe in addition to its old one. -/
inductive Assignment where
  | mk (name : String) (key : Option (List Part)) (adds : Bool) (value : List Part)

/-- A command. Those that may complain have the number of their line. -/
inductive Command where
  | empty
  | simple (line : Nat) (assignments : List Assignment) (words : List (List Part))
    (redirections : List Redirection)
  | pipeline (commands : List Command)
  | negated (command : Command)
  | sequence (first second : Command)
  | both (first second : Command)
  | either (first second : Command)
  | background (command : Command)
  | subshell (line : Nat) (body : Command) (redirections : List Redirection)
  | redirected (line : Nat) (command : Command) (redirections : List Redirection)
  | conditional (test yes no : Command)
  | loop (stopsAt : Bool) (test body : Command)
  | each (line : Nat) (name : String) (words : Option (List (List Part))) (body : Command)
  | select (line : Nat) (word : List Part) (cases : List Case)
  | menu (line : Nat) (name : String) (words : Option (List (List Part))) (body : Command)
  | timed (portable : Bool) (command : Command)
  | function (line : Nat) (name : String) (body : Command)
  | calculation (line : Nat) (expression : List Part)
  | counting (line : Nat) (start test step : List Part) (body : Command)
  | check (line : Nat) (words : List (List Part))

inductive Case where
  | mk (patterns : List (List Part)) (body : Command) (after : AfterCase)

end

abbrev Word := List Part

instance : Inhabited Part := ⟨.text [] false⟩
instance : Inhabited Command := ⟨.empty⟩

/-! ## Names -/

def isNameStart (c : Char) : Bool :=
  ('a' ≤ c && c ≤ 'z') || ('A' ≤ c && c ≤ 'Z') || c == '_'

def isNameChar (c : Char) : Bool := isNameStart c || Text.isDigit c

def isSpecialName (c : Char) : Bool := "#?$@*!-".toList.contains c

def isName : List Char → Bool
  | [] => false
  | c :: cs => isNameStart c && cs.all isNameChar

/-! ## Words -/

def literal? : Word → Option (List Char)
  | [.text cs false] => some cs
  | _ => none

def Part.isQuoted : Part → Bool
  | .text _ q | .parameter _ _ q | .output _ q | .number _ q | .element _ _ _ q => q
  | .stream .. | .list .. => false

def wordOf (cs : List Char) : Word := if cs.isEmpty then [] else [.text cs false]

def beforeBracket? : Word → Option (Word × Word)
  | [] => none
  | .text cs false :: rest =>
    match cs.span (· ≠ ']') with
    | (key, _ :: after) => some (wordOf key, wordOf after ++ rest)
    | (_, []) => (beforeBracket? rest).map fun (key, after) => (.text cs false :: key, after)
  | p :: rest => (beforeBracket? rest).map fun (key, after) => (p :: key, after)

/-- The variable and its value, if a word gives a variable a value. In a large shell a plus before
the equals sign keeps the old value and adds to it, and a variable may have several values. -/
def assignment? (d : Dialect) : Word → Option Assignment
  | .text cs false :: rest =>
    let (name, after) := cs.span isNameChar
    let variableName := String.ofList name
    if !isName name then none
    else match after, d with
      | '=' :: value, _ => some (.mk variableName none false (wordOf value ++ rest))
      | '+' :: '=' :: value, .extended =>
        some (.mk variableName none true (wordOf value ++ rest))
      | '[' :: key, .extended =>
        match beforeBracket? (wordOf key ++ rest) with
        | some (key, .text ('=' :: value) false :: rest) =>
          some (.mk variableName (some key) false (wordOf value ++ rest))
        | some (key, .text ('+' :: '=' :: value) false :: rest) =>
          some (.mk variableName (some key) true (wordOf value ++ rest))
        | _ => none
      | _, _ => none
  | _ => none

end JobLaunch.Rehearsal.Script
