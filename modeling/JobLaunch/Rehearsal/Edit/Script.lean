import JobLaunch.Rehearsal.Bytes
import JobLaunch.Rehearsal.Regex

/-!
# Scripts of an editor

A script of an editor consists of commands for selected lines.

* `Edit.Command`, `Edit.Script` — scripts.
* `Edit.readText` — reads the commands of a text.
-/

namespace JobLaunch.Rehearsal.Edit

/-- What selects lines. -/
inductive Address where
  | number (n : Nat)
  | every (first step : Nat)
  | last
  /-- Lines with a match; without an expression the last one counts that was used. -/
  | pattern (r : Option Regex) (manner : Regex.Manner)
  deriving Inhabited

/-- Where a range of lines ends. -/
inductive Finish where
  | at (a : Address)
  | after (n : Nat)
  | multiple (n : Nat)
  deriving Inhabited

/-- The lines that a command is for. -/
structure Selector where
  first : Option Address := none
  finish : Option Finish := none
  negated : Bool := false
  deriving Inhabited

/-- A piece of what is put in place of a match. -/
inductive Piece where
  | text (cs : List Char)
  /-- What a group stands for; number zero is the whole match. -/
  | group (n : Nat)
  | letters (c : Char)
  deriving Inhabited

/-- What is put in place of matches. -/
structure Substitution where
  pattern : Option Regex
  manner : Regex.Manner := {}
  pieces : List Piece
  all : Bool := false
  number : Nat := 1
  prints : Bool := false
  file : Option String := none
  deriving Inhabited

/-- What a command does. -/
inductive Action where
  | openBlock
  | closeBlock
  | substitute (s : Substitution)
  | transliterate (old new : List Char)
  | append (text : List Char)
  | insert (text : List Char)
  | change (text : List Char)
  | label (name : String)
  | branch (condition : Option Bool) (name : String)
  | quit (prints : Bool) (code : Nat)
  | readFile (path : String)
  | readLine (path : String)
  | writeFile (path : String) (firstLine : Bool)
  | listing (width : Option Nat)
  | letter (c : Char)
  deriving Inhabited

structure Command where
  selector : Selector
  action : Action
  deriving Inhabited

abbrev Script := Array Command

/-! ## Reading scripts -/

/-- What is wrong with a script: after how many characters, if that matters, and what is said about
it. -/
structure Fault where
  place : Option Nat
  text : String
  deriving Inhabited

/-- Readers of scripts. What is left of the script is kept, and how long it was. -/
abbrev Reader := StateT (List Char) (ReaderT Nat (Except Fault))

namespace Reader

variable {α : Type}

def fail (text : String) : Reader α := do
  let rest ← get
  let length ← read
  throw ⟨some (length - rest.length), text⟩

def next? : Reader (Option Char) := do
  match ← get with
  | [] => pure none
  | c :: rest =>
    set rest
    pure (some c)

def peek? : Reader (Option Char) := return (← get).head?

def skip (p : Char → Bool) : Reader Unit := modify (·.dropWhile p)

def isGap (c : Char) : Bool := c == ' ' || c == '\t'

def isSpace (c : Char) : Bool := isGap c || c == '\n' || c == '\r' || c == '\x0b' || c == '\x0c'

def number : Reader Nat := do
  let ds := (← get).takeWhile Text.isDigit
  modify (·.drop ds.length)
  pure (Decimal.value ds)

/-- A set in an expression, as it is written, after its opening bracket. -/
def bracketText : Nat → List Char → List Char → Option (List Char × List Char)
  | 0, _, _ => none
  | n + 1, cs, done =>
    match cs with
    | [] => none
    | '[' :: c :: rest =>
      if c == ':' || c == '.' || c == '=' then
        let inside := closing c rest []
        match inside with
        | some (text, rest) => bracketText n rest (text ++ c :: '[' :: done)
        | none => bracketText n (c :: rest) ('[' :: done)
      else bracketText n (c :: rest) ('[' :: done)
    | ']' :: rest =>
      if done.isEmpty || done = ['^'] then bracketText n rest (']' :: done)
      else some (']' :: done, rest)
    | '\n' :: _ => none
    | '\\' :: 'n' :: rest => bracketText n rest ('\n' :: done)
    | c :: rest => bracketText n rest (c :: done)
where
  /-- Up to a sign and a bracket; the text is reversed. -/
  closing (sign : Char) : List Char → List Char → Option (List Char × List Char)
    | [], _ => none
    | c :: rest, done =>
      match rest with
      | ']' :: after =>
        if c == sign then some (']' :: c :: done, after) else closing sign rest (c :: done)
      | _ => closing sign rest (c :: done)

/-- A part up to a delimiter, which is taken away; nothing if it is missing. -/
def delimited (stop : Char) (isPattern : Bool) :
    Nat → List Char → List Char → Option (List Char × List Char)
  | 0, _, _ => none
  | n + 1, cs, done =>
    match cs with
    | [] => none
    | '\\' :: [] => none
    | '\\' :: c :: rest =>
      if c == 'n' && isPattern then delimited stop isPattern n rest ('\n' :: done)
      else if c == '\n' || (c == stop && (isPattern || c != '&')) then
        delimited stop isPattern n rest (c :: done)
      else delimited stop isPattern n rest (c :: '\\' :: done)
    | c :: rest =>
      if c == stop then some (done.reverse, rest)
      else if c == '\n' then none
      else if c == '[' && isPattern then
        match bracketText n rest [] with
        | some (text, rest) => delimited stop isPattern n rest (text ++ '[' :: done)
        | none => none
      else delimited stop isPattern n rest (c :: done)

/-- A part up to a delimiter; fails at the end of the script if it is missing. -/
def part (stop : Char) (isPattern : Bool) (missing : String) : Reader (List Char) := do
  let cs ← get
  match delimited stop isPattern (cs.length + 1) cs [] with
  | some (text, rest) =>
    set rest
    pure text
  | none =>
    -- A line that has an end is left there.
    modify (·.dropWhile (· ≠ '\n'))
    fail missing

end Reader

open Reader

/-- What a text with escapes is for. -/
inductive Purpose where
  | pattern
  | replacement
  | letters
  | lines
  deriving DecidableEq

/-- The number of the byte that digits stand for, at most so many, and what follows them. -/
def byteNumber (base : Nat) : Nat → List Char → Nat × List Char
  | 0, cs => (0, cs)
  | n + 1, cs => go (n + 1) 0 cs
where
  go : Nat → Nat → List Char → Nat × List Char
    | 0, value, cs => (value, cs)
    | n + 1, value, cs =>
      match cs with
      | c :: rest =>
        match "0123456789abcdef".toList.findIdx? (· == c.toLower) with
        | some d => if d < base then go n (base * value + d) rest else (value, cs)
        | none => (value, cs)
      | [] => (value, [])

/-- A text in which escapes of characters are resolved, and those with other meanings stay. -/
def resolved (p : Purpose) : Nat → List Char → Except String (List Char)
  | 0, cs => pure cs
  | n + 1, cs => do
    let byte (base digits : Nat) (c : Char) (rest : List Char) : Except String (List Char) := do
      let (value, after) := byteNumber base digits rest
      if after.length = rest.length then return c :: (← resolved p n rest)
      let b := value.toUInt8
      let hidden := p = .replacement && (b = 0x26 || b = 0x5c)
      let made := if b < 0x80 then Char.ofNat b.toNat else Bytes.standIn b
      return (if hidden then ['\\', made] else [made]) ++ (← resolved p n after)
    match cs with
    | '\\' :: c :: rest =>
      match c with
      | 'a' => return '\x07' :: (← resolved p n rest)
      | 'f' => return '\x0c' :: (← resolved p n rest)
      | 'r' => return '\r' :: (← resolved p n rest)
      | 't' => return '\t' :: (← resolved p n rest)
      | 'v' => return '\x0b' :: (← resolved p n rest)
      | 'c' =>
        match rest with
        | [] => pure ['\\']
        | '\\' :: more =>
          if more.head? = some '\\' then return '\x1c' :: (← resolved p n (more.drop 1))
          else throw "recursive escaping after \\c not allowed"
        | d :: more =>
          return Char.ofNat (d.toUpper.toNat ^^^ 64) :: (← resolved p n more)
      | 'd' => byte 10 3 c rest
      | 'o' => byte 8 3 c rest
      | 'x' => byte 16 2 c rest
      | c =>
        if p = .lines then return (if c = 'n' then '\n' else c) :: (← resolved p n rest)
        else return '\\' :: c :: (← resolved p n rest)
    | c :: rest => return c :: (← resolved p n rest)
    | [] => pure []

/-- A text with its escapes resolved; bytes that belong together are joined. -/
def resolve (p : Purpose) (cs : List Char) : Reader (List Char) := do
  match resolved p (cs.length + 1) cs with
  | .ok cs => pure (Bytes.chars (Bytes.ofChars cs))
  | .error text => Reader.fail text

def expression (style : Regex.Style) (cs : List Char) : Reader (Option Regex × Nat) := do
  let cs ← resolve .pattern cs
  if cs.isEmpty then pure (none, 9)
  else match Regex.read style (String.ofList cs) with
    | .ok (r, groups) =>
      if r.hasLooseKind then throw ⟨none, Regex.looseKindText⟩
      pure (some r, groups)
    | .error f => Reader.fail f.message

def address (style : Regex.Style) : Reader (Option Address) := do
  let pattern (stop : Char) : Reader (Option Address) := do
    let cs ← part stop true "unterminated address regex"
    let flags := (← get).takeWhile fun c => c == 'I' || c == 'M'
    modify (·.drop flags.length)
    let (r, _) ← expression style cs
    pure (some (.pattern r { folds := flags.contains 'I', byLines := flags.contains 'M' }))
  match ← peek? with
  | some '/' =>
    let _ ← next?
    pattern '/'
  | some '\\' =>
    let _ ← next?
    match ← next? with
    | some stop => pattern stop
    | none => Reader.fail "unexpected \x60,'"
  | some '$' =>
    let _ ← next?
    pure (some .last)
  | some c =>
    if Text.isDigit c then
      let n ← number
      skip isGap
      match ← get with
      | '~' :: rest =>
        set rest
        skip isGap
        let step ← number
        pure (some (if step = 0 then .number n else .every n step))
      | _ => pure (some (.number n))
    else if c == '+' || c == '~' then
      let _ ← next?
      skip isGap
      if 0 < (← number) then Reader.fail "invalid usage of +N or ~N as first address"
      pure (some (.number 0))
    else pure none
  | none => pure none

def rangeEnd (style : Regex.Style) : Reader Finish := do
  match ← peek? with
  | some '+' =>
    let _ ← next?
    return .after (← number)
  | some '~' =>
    let _ ← next?
    return .multiple (← number)
  | _ =>
    match ← address style with
    | some a => pure (.at a)
    | none =>
      let _ ← next?
      Reader.fail "unexpected \x60,'"

def selector (style : Regex.Style) : Reader Selector := do
  let first ← address style
  skip isGap
  let finish ← match first, ← peek? with
    | some _, some ',' => do
      let _ ← next?
      skip isGap
      let f ← rangeEnd style
      pure (some f)
    | _, _ => pure none
  let isZero := first matches some (.number 0)
  let endsAtPattern := finish matches some (.at (.pattern ..))
  if isZero && !endsAtPattern then
    -- The mistake is noticed when the command is seen.
    skip isGap
    let _ ← next?
    Reader.fail "invalid usage of line address 0"
  skip isSpace
  let negated := (← peek?) = some '!'
  if negated then
    let _ ← next?
    skip isSpace
    if (← peek?) = some '!' then
      let _ ← next?
      Reader.fail "multiple \x60!'s"
  pure { first, finish, negated }

def commandEnd : Reader Unit := do
  skip fun c => isSpace c && c != '\n'
  match ← next? with
  | none | some '\n' | some ';' => pure ()
  | some c =>
    if c == '\x7d' || c == '#' then modify (c :: ·)
    else Reader.fail "extra characters after command"

def piecesOf : List Char → List Piece
  | [] => []
  | '&' :: rest => .group 0 :: piecesOf rest
  | '\\' :: c :: rest =>
    if Text.isDigit c then .group (c.toNat - 48) :: piecesOf rest
    else if "ULulE".toList.contains c then .letters c :: piecesOf rest
    else .text [if c = 'n' then '\n' else c] :: piecesOf rest
  | c :: rest => .text [c] :: piecesOf rest

def fileName : Reader String := do
  skip isGap
  let name := (← get).takeWhile (· ≠ '\n')
  modify (·.drop name.length)
  if name.isEmpty then Reader.fail "missing filename in r/R/w/W commands"
  pure (String.ofList name)

def flagsWithin : Nat → Substitution → Bool → Reader Substitution
  | 0, s, _ => pure s
  | n + 1, s, numbered => do
    match ← next? with
    | none | some '\n' | some ';' => pure s
    | some c =>
      match c with
      | 'i' | 'I' => flagsWithin n { s with manner := { s.manner with folds := true } } numbered
      | 'm' | 'M' => flagsWithin n { s with manner := { s.manner with byLines := true } } numbered
      | 'e' => flagsWithin n s numbered
      | 'p' =>
        if s.prints then Reader.fail "multiple \x60p' options to \x60s' command"
        flagsWithin n { s with prints := true } numbered
      | 'g' =>
        if s.all then Reader.fail "multiple \x60g' options to \x60s' command"
        flagsWithin n { s with all := true } numbered
      | 'w' =>
        let file ← fileName
        pure { s with file := some file }
      | '\x7d' | '#' =>
        modify (c :: ·)
        pure s
      | c =>
        if Text.isDigit c then
          if numbered then Reader.fail "multiple number options to \x60s' command"
          modify (c :: ·)
          let k ← number
          if k = 0 then Reader.fail "number option to \x60s' command may not be zero"
          flagsWithin n { s with number := k } true
        else if isSpace c then flagsWithin n s numbered
        else Reader.fail "unknown option to \x60s'"

def substitution (style : Regex.Style) : Reader Action := do
  let missing := "unterminated \x60s' command"
  match ← next? with
  | none | some '\n' | some '\\' => Reader.fail missing
  | some stop =>
    let pattern ← part stop true missing
    let replacement ← part stop false missing
    let pieces := piecesOf (← resolve .replacement replacement)
    let s ← flagsWithin ((← get).length + 1) { pattern := none, pieces } false
    let (r, groups) ← expression style pattern
    for piece in pieces do
      match piece with
      | .group k =>
        if groups < k then
          Reader.fail ("invalid reference \\" ++ Decimal.text k ++ " on \x60s' command's RHS")
      | _ => pure ()
    pure (.substitute { s with pattern := r })

def unhidden : List Char → List Char
  | '\\' :: c :: rest => (if c = 'n' then '\n' else c) :: unhidden rest
  | c :: rest => c :: unhidden rest
  | [] => []

def transliteration : Reader Action := do
  let missing := "unterminated \x60y' command"
  match ← next? with
  | none | some '\n' | some '\\' => Reader.fail missing
  | some stop =>
    let old ← part stop false missing
    let new ← part stop false missing
    let old := unhidden (← resolve .letters old)
    let new := unhidden (← resolve .letters new)
    if old.length ≠ new.length then
      Reader.fail "strings for \x60y' command are different lengths"
    commandEnd
    pure (.transliterate old new)

/-- Text up to the end of a line that is not hidden, with its end. -/
def textWithin : Nat → List Char → List Char → List Char × List Char
  | 0, cs, done => (done.reverse, cs)
  | n + 1, cs, done =>
    match cs with
    | [] => (('\n' :: done).reverse, [])
    | '\n' :: rest => (('\n' :: done).reverse, rest)
    | '\\' :: [] => (('\n' :: done).reverse, [])
    | '\\' :: c :: rest => textWithin n rest (c :: '\\' :: done)
    | c :: rest => textWithin n rest (c :: done)

def commandText : Reader (List Char) := do
  skip isGap
  match ← get with
  | [] => Reader.fail "expected \\ after \x60a', \x60c' or \x60i'"
  | ['\\'] =>
    -- There is no text, not even an empty line.
    set ([] : List Char)
    pure []
  | '\\' :: rest =>
    match rest.dropWhile isGap with
    | '\n' :: more => readLines more
    | _ => readLines rest
  | cs => readLines cs
where
  readLines (cs : List Char) : Reader (List Char) := do
    let (text, rest) := textWithin (cs.length + 1) cs []
    set rest
    resolve .lines text

def labelName : Reader String := do
  skip isGap
  let name := (← get).takeWhile fun c => !isSpace c && c != ';' && c != '\x7d'
  modify (·.drop name.length)
  pure (String.ofList name)

def action (style : Regex.Style) (s : Selector) (c : Char) : Reader Action := do
  match c with
  | '\x7b' => pure .openBlock
  | '\x7d' =>
    if s.first.isSome then Reader.fail "\x7d doesn't want any addresses"
    commandEnd
    pure .closeBlock
  | 's' => substitution style
  | 'y' => transliteration
  | 'a' => return .append (← commandText)
  | 'i' => return .insert (← commandText)
  | 'c' => return .change (← commandText)
  | ':' =>
    if s.first.isSome then Reader.fail ": doesn't want any addresses"
    let name ← labelName
    if name.isEmpty then Reader.fail "\":\" lacks a label"
    pure (.label name)
  | 'b' | 't' | 'T' =>
    let name ← labelName
    commandEnd
    pure (.branch (if c == 'b' then none else some (c == 't')) name)
  | 'q' | 'Q' =>
    if s.finish.isSome then Reader.fail "command only uses one address"
    skip isGap
    let code ← number
    commandEnd
    pure (.quit (c == 'q') code)
  | 'r' => return .readFile (← fileName)
  | 'R' => return .readLine (← fileName)
  | 'w' => return .writeFile (← fileName) false
  | 'W' => return .writeFile (← fileName) true
  | 'l' =>
    skip isGap
    let width ← if (← peek?).any Text.isDigit then do pure (some (← number)) else pure none
    commandEnd
    pure (.listing width)
  | 'v' =>
    let version ← labelName
    if "4.9" < version then Reader.fail "expected newer version of sed"
    pure (.label "")
  | c =>
    if "=dDgGhHnNpPxzF".toList.contains c then
      commandEnd
      pure (.letter c)
    else Reader.fail ("unknown command: \x60" ++ String.ofList [c] ++ "'")

def commandsWithin (style : Regex.Style) : Nat → Nat → List Command → Reader (List Command × Nat)
  | 0, depth, done => pure (done.reverse, depth)
  | n + 1, depth, done => do
    skip fun c => isSpace c || c == ';'
    match ← peek? with
    | none => pure (done.reverse, depth)
    | some '#' =>
      skip (· != '\n')
      commandsWithin style n depth done
    | some _ =>
      let s ← selector style
      match ← next? with
      | none => Reader.fail "missing command"
      | some c =>
        if c == '#' then Reader.fail "comments don't accept any addresses"
        if c == '\x7d' && depth = 0 then Reader.fail "unexpected \x60\x7d'"
        let a ← action style s c
        let depth := match a with
          | .openBlock => depth + 1
          | .closeBlock => depth - 1
          | _ => depth
        commandsWithin style n depth (⟨s, a⟩ :: done)

def readText (style : Regex.Style) (depth : Nat) (text : String) :
    Except Fault (List Command × Nat) :=
  let cs := text.toList
  ((commandsWithin style (cs.length + 1) depth []).run cs).run cs.length |>.map (·.1)

end JobLaunch.Rehearsal.Edit
