import JobLaunch.Rehearsal.Escapes
import JobLaunch.Rehearsal.Script.Source

/-!
# Reading words

* `Draft` — the parts of a word that is being read.
* `Goal` — what may be nested: parts in some surroundings, and lists of commands.
* `readParts` — reads the parts of a word.
-/

namespace JobLaunch.Rehearsal.Script

/-! ## Parts -/

/-- The parts of a word that is being read. -/
structure Draft where
  parts : List Part := []
  chars : List Char := []
  quoted : Bool := false
  deriving Inhabited

namespace Draft

def flush (d : Draft) : List Part :=
  if d.chars.isEmpty then d.parts else .text d.chars.reverse d.quoted :: d.parts

def push (d : Draft) (c : Char) (quoted : Bool) : Draft :=
  if d.quoted = quoted then { d with chars := c :: d.chars }
  else { parts := d.flush, chars := [c], quoted }

def pushAll (d : Draft) (cs : List Char) (quoted : Bool) : Draft :=
  cs.foldl (fun d c => d.push c quoted) d

def add (d : Draft) (p : Part) : Draft := { d with parts := p :: d.flush, chars := [] }

/-- Adds parts that stand in quotes; empty quotes leave an empty part. -/
def addQuoted (d : Draft) (ps : List Part) : Draft :=
  if ps.isEmpty then d.add (.text [] true) else ps.foldl add d

def isEmpty (d : Draft) : Bool := d.parts.isEmpty && d.chars.isEmpty

def word (d : Draft) : Word := d.flush.reverse

end Draft

/-! ## What is nested -/

/-- Where parts of words stand. -/
inductive Surroundings where
  | plain
  | braces
  | quotes
  | quotedBraces
  | arithmetic
  | arithmeticPart
  | document
  | pattern
  | offset
  | key
  | regex
  deriving DecidableEq, Inhabited

namespace Surroundings

def isQuoted (s : Surroundings) : Bool :=
  [quotes, quotedBraces, arithmetic, arithmeticPart, document].contains s

def inBraces (s : Surroundings) : Surroundings := if s.isQuoted then .quotedBraces else .braces

def hides (s : Surroundings) (c : Char) : Bool :=
  if s.isQuoted then
    c == '\\' || c == '\x60' || c == '$' || (c == '"' && s ≠ .document) ||
      (c == '\x7d' && s = .quotedBraces)
  else true

end Surroundings

/-- How a list of commands begins and ends. -/
inductive Ending where
  | line
  | some
  | any
  deriving DecidableEq, Inhabited

/-- What may be nested. -/
inductive Goal where
  | parts (s : Surroundings)
  | list (e : Ending)
  | command

def Goal.Result : Goal → Type
  | parts _ => List Part
  | list _ => Option Command
  | command => Command

abbrev Nested := (g : Goal) → Reading g.Result

/-! ## Quotes -/

/-- Reads a character before a single quote, or the quote. -/
def readQuotedChar (start : Nat) (cs : List Char) : Reading (List Char ⊕ List Char) := do
  match ← Reading.next with
  | some '\'' => pure (.inr cs.reverse)
  | some c => pure (.inl (c :: cs))
  | none => throw (.unterminatedQuote '\'' start)

def readSingleQuoted : Reading (List Char) := do
  let start ← Reading.line
  Reading.loop (readQuotedChar start) []

def quoteEscapes : Escapes :=
  { octal := true, hexadecimal := true, own := ['"', '\'', '?'], capital := true,
    characters := true }

def unescaped : Nat → List Char → List Char
  | 0, _ => []
  | n + 1, cs =>
    match cs with
    | '\\' :: c :: rest =>
      match c, rest with
      | 'c', d :: rest => Char.ofNat (d.toNat % 32) :: unescaped n rest
      | _, _ =>
        match quoteEscapes.meaning (c :: rest) with
        | .char d rest => d :: unescaped n rest
        | _ => '\\' :: c :: unescaped n rest
    | c :: rest => c :: unescaped n rest
    | [] => []

def readEscaped : Reading (List Char) := do
  let start ← Reading.line
  let cs ← Reading.loop (fun (cs : List Char) => do
    match ← Reading.next with
    | some '\'' => pure (.inr cs.reverse)
    | some '\\' =>
      match ← Reading.next with
      | some c => pure (.inl (c :: '\\' :: cs))
      | none => throw (.unterminatedQuote '\'' start)
    | some c => pure (.inl (c :: cs))
    | none => throw (.unterminatedQuote '\'' start)) []
  pure ((unescaped (cs.length + 1) cs).takeWhile (· ≠ '\x00'))

/-! ## Parameters -/

def readName? : Reading (Option (List Char)) := do
  match ← Reading.peekJoined with
  | some c =>
    if isNameStart c then some <$> Reading.takeWhile isNameChar
    else if Text.isDigit c then some <$> Reading.takeWhile Text.isDigit
    else if isSpecialName c then
      Reading.drop
      pure (some [c])
    else pure none
  | none => pure none

def readUnreadable (nested : Nested) (s : Surroundings) (start : List Char) : Reading Use := do
  let _ ← nested (.parts s.inBraces)
  let rest := (← get).rest
  pure (.unreadable (String.ofList (start.take (start.length - rest.length))))

/-- Reads what is taken of a parameter whose name has been read, for a large shell only. -/
def readExtendedUse (nested : Nested) (s : Surroundings) : Reading (Option Use) := do
  match ← Reading.peek with
  | some '/' =>
    Reading.drop
    let all ← Reading.accept '/'
    let atEnd ← if all then pure none
      else if ← Reading.accept '#' then pure (some false)
      else if ← Reading.accept '%' then pure (some true)
      else pure none
    let pattern ← nested (.parts .pattern)
    let replacement ← if ← Reading.accept '/' then nested (.parts s.inBraces)
      else do
        let _ ← Reading.accept '\x7d'
        pure []
    pure (some (.replaced all atEnd pattern replacement))
  | some ':' =>
    Reading.drop
    let start ← nested (.parts .offset)
    let count ← if ← Reading.accept ':' then some <$> nested (.parts .offset) else pure none
    let _ ← Reading.accept '\x7d'
    pure (some (.slice start count))
  | some c =>
    if c = '^' || c = ',' || c = '~' then
      Reading.drop
      let all ← Reading.accept c
      let pattern ← nested (.parts s.inBraces)
      let change := if c = '^' then LetterChange.upper else if c = ',' then .lower else .other
      pure (some (.recased change all pattern))
    else
      match (← get).rest with
      | '@' :: form :: '\x7d' :: _ =>
        if "QEPAKakUuL".toList.contains form then
          for _ in [1, 2, 3] do Reading.drop
          pure (some (.transformed form))
        else pure none
      | _ => pure none
  | none => pure none

/-- Reads what is taken of a parameter whose name has been read, up to the brace. -/
def readUse (nested : Nested) (s : Surroundings) (start : List Char) : Reading Use := do
  let bad := readUnreadable nested s start
  let fallback? (emptyToo : Bool) : Reading (Option Use) := do
    match ← Reading.peekJoined with
    | some c =>
      let how : Option Fallback := match c with
        | '-' => some .use
        | '=' => some .assign
        | '?' => some .complain
        | '+' => some .replace
        | _ => none
      match how with
      | some how =>
        Reading.drop
        let word ← nested (.parts s.inBraces)
        pure (some (.fallback how emptyToo word))
      | none => pure none
    | none => pure none
  match ← Reading.peekJoined with
  | some '\x7d' =>
    Reading.drop
    pure .value
  | some ':' =>
    let here ← get
    Reading.drop
    match ← fallback? true with
    | some u => pure u
    | none =>
      if (← Reading.dialect) = .extended then
        set here
        match ← readExtendedUse nested s with
        | some u => pure u
        | none => bad
      else bad
  | some c =>
    if c = '#' || c = '%' then
      Reading.drop
      let longest ← Reading.accept c
      let pattern ← nested (.parts .braces)
      pure (.trimmed (c = '%') longest pattern)
    else match ← fallback? false with
      | some u => pure u
      | none =>
        match ← (if (← Reading.dialect) = .extended then readExtendedUse nested s
          else pure none) with
        | some u => pure u
        | none => bad
  | none => bad

/-- Reads what stands between square brackets after a name, if there is something. -/
def readKey? (nested : Nested) (name : List Char) : Reading (Option Word) := do
  let isOpen := (← Reading.peek) == some '['
  if (← Reading.dialect) = .extended && isName name && isOpen then
    Reading.drop
    return some (← nested (.parts .key))
  else return none

def readBraced (nested : Nested) (s : Surroundings) : Reading Part := do
  let start := '$' :: '\x7b' :: (← get).rest
  let part (name : List Char) (key : Option Word) (u : Use) : Part :=
    match key with
    | some key => .element (String.ofList name) key u s.isQuoted
    | none => .parameter (String.ofList name) u s.isQuoted
  let here ← get
  if ← Reading.accept '#' then
    -- A length, or the number of parameters.
    match ← readName? with
    | some name =>
      let key ← readKey? nested name
      if ← Reading.accept '\x7d' then return part name key .length
    | none => pure ()
    set here
  if (← Reading.dialect) = .extended then
    if ← Reading.accept '!' then
      match ← readName? with
      | some name =>
        let key ← readKey? nested name
        let isAll := (key.bind literal?).any fun cs => cs = ['@'] || cs = ['*']
        if ← Reading.accept '\x7d' then
          return part name key (if isAll then .keys else .indirect .value)
        match (← get).rest, key with
        | c :: '\x7d' :: _, none =>
          if c = '*' || c = '@' then
            for _ in [1, 2] do Reading.drop
            return part name none (.names (c = '*'))
        | _, _ => pure ()
        if name.all isNameChar then
          return part name key (.indirect (← readUse nested s start))
      | none => pure ()
      set here
  match ← readName? with
  | some name =>
    let key ← readKey? nested name
    return part name key (← readUse nested s start)
  | none => return part [] none (← readUnreadable nested s start)

/-! ## Output of commands -/

def readBackquoted (quoted : Bool) : Reading (List Char) := do
  let start ← Reading.line
  Reading.loop (fun (cs : List Char) => do
    let _ ← Reading.peekJoined
    match ← Reading.next with
    | some '\x60' => pure (.inr cs.reverse)
    | some '\\' =>
      match ← Reading.next with
      | some c =>
        if c = '\\' || c = '\x60' || c = '$' || (quoted && c = '"') then pure (.inl (c :: cs))
        else pure (.inl (c :: '\\' :: cs))
      | none => throw (.unterminatedOutput start)
    | some c => pure (.inl (c :: cs))
    | none => throw (.unterminatedOutput start)) []

def readOldOutput (nested : Nested) (quoted : Bool) : Reading Part := do
  let text ← readBackquoted quoted
  let outer ← get
  set { outer with
    rest := text, line := if outer.dialect = Dialect.plain then 1 else outer.line
    awaited := [], pushed := none }
  let body ← nested (.list .any)
  modify fun inner => { outer with documents := inner.documents, warnings := inner.warnings }
  pure (.output (body.getD .empty) quoted)

def readInBrackets (nested : Nested) : Reading Command := do
  let outer ← get
  set { outer with awaited := [], pushed := none }
  let body ← nested (.list .any)
  let token ← modifyGet fun s => (s.pushed, { s with pushed := none })
  match token with
  | some (.operator ")") =>
    modify fun s => { s with awaited := outer.awaited, pushed := none }
    pure (body.getD .empty)
  | some .ending | none => throw .unendingCommand
  | some t => throw (.unexpected t (some "\")\""))

def readOutput (nested : Nested) (quoted : Bool) : Reading Part := do
  return .output (← readInBrackets nested) quoted

def readDollar (nested : Nested) (s : Surroundings) (d : Draft) : Reading Draft := do
  let extended := (← Reading.dialect) = .extended
  match ← Reading.peekJoined with
  | some '(' =>
    Reading.drop
    let line ← Reading.line
    if ← Reading.accept '(' then
      let here ← get
      let expression ← nested (.parts .arithmetic)
      if ← Reading.accept ')' then pure (d.add (.number expression s.isQuoted))
      else if (← Reading.peek).isNone then throw (.missingParens line)
      else
        set { here with rest := '(' :: here.rest }
        return d.add (← readOutput nested s.isQuoted)
    else return d.add (← readOutput nested s.isQuoted)
  | some '\x7b' =>
    Reading.drop
    return d.add (← readBraced nested s)
  | some c =>
    let simple (name : List Char) : Draft :=
      d.add (.parameter (String.ofList name) .value s.isQuoted)
    if isNameStart c then return simple (← Reading.takeWhile isNameChar)
    else if Text.isDigit c || isSpecialName c then
      Reading.drop
      return simple [c]
    else if extended && c = '[' then
      Reading.drop
      return d.add (.number (← nested (.parts .key)) s.isQuoted)
    else if extended && !s.isQuoted && c = '\'' then
      Reading.drop
      let cs ← readEscaped
      return if cs.isEmpty then d.addQuoted [] else d.pushAll cs true
    else if extended && !s.isQuoted && c = '"' then
      Reading.drop
      return d.addQuoted (← nested (.parts .quotes))
    else return d.push '$' s.isQuoted
  | none => return d.push '$' s.isQuoted

/-! ## Words -/

def endsWord (c : Char) : Bool := " \t\n;&|()<>".toList.contains c

structure PartsState where
  draft : Draft := {}
  depth : Nat := 0
  inner : Bool := false
  deriving Inhabited

/-- Reads the next parts of a word that has been begun on a line, or sees its end; what ends it is taken away unless it
may mean something else. -/
def readPart (nested : Nested) (s : Surroundings) (start : Nat) (p : PartsState) :
    Reading (PartsState ⊕ List Part) := do
  let arithmetic := [Surroundings.arithmetic, .arithmeticPart].contains s
  let done : Reading (PartsState ⊕ List Part) := pure (.inr p.draft.word)
  let goOn (d : Draft) : Reading (PartsState ⊕ List Part) := pure (.inl { p with draft := d })
  match ← Reading.peekJoined with
  | none =>
    match s with
    | .plain | .document | .arithmeticPart | .regex => done
    | .quotes | .quotedBraces => throw (.unterminatedQuote '"' start)
    | .arithmetic => throw (.missingParens start)
    | .braces | .pattern | .offset | .key => throw (.missingBrace start)
  | some c =>
    let literally : Reading (PartsState ⊕ List Part) := do
      Reading.drop
      goOn (p.draft.push c s.isQuoted)
    match c with
    | '\\' =>
      Reading.drop
      match ← Reading.peek with
      | some e =>
        if s.hides e then
          Reading.drop
          goOn (p.draft.push e true)
        else goOn (p.draft.push '\\' true)
      | none => goOn (p.draft.push '\\' true)
    | '\'' =>
      if s.isQuoted then literally
      else
        Reading.drop
        let cs ← readSingleQuoted
        goOn (if cs.isEmpty then p.draft.addQuoted [] else p.draft.pushAll cs true)
    | '"' =>
      match s with
      | .document | .arithmetic | .arithmeticPart => literally
      | .quotes =>
        Reading.drop
        done
      | .quotedBraces =>
        Reading.drop
        pure (.inl { p with inner := !p.inner })
      | .plain | .braces | .pattern | .offset | .key | .regex =>
        Reading.drop
        goOn (p.draft.addQuoted (← nested (.parts .quotes)))
    | '$' =>
      Reading.drop
      goOn (← readDollar nested s p.draft)
    | '\x60' =>
      Reading.drop
      goOn (p.draft.add (← readOldOutput nested s.isQuoted))
    | '\x7d' =>
      if s = .braces || (s = .quotedBraces && !p.inner) then
        Reading.drop
        done
      else if s = .pattern || s = .offset then done
      else literally
    | '/' => if s = .pattern then done else literally
    | ':' => if s = .offset && p.depth = 0 then done else literally
    | '<' | '>' =>
      let here ← get
      if s = .plain && here.dialect = .extended && (here.rest.drop 1).head? == some '(' then
        Reading.drop
        Reading.drop
        goOn (p.draft.add (.stream (← readInBrackets nested) (c = '<')))
      else if s = .plain then done
      else literally
    | ']' =>
      if s = .key then
        Reading.drop
        done
      else literally
    | '(' =>
      if arithmetic || s = .offset || s = .regex then
        Reading.drop
        pure (.inl { p with draft := p.draft.push c s.isQuoted, depth := p.depth + 1 })
      else if s = .plain then done
      else literally
    | ')' =>
      if s = .regex && p.depth = 0 then done
      else if arithmetic || s = .offset || s = .regex then
        Reading.drop
        if 0 < p.depth then
          pure (.inl { p with draft := p.draft.push c s.isQuoted, depth := p.depth - 1 })
        else if (← Reading.peekJoined) == some ')' || (← Reading.dialect) = .extended then done
        else goOn (p.draft.push c s.isQuoted)
      else if s = .plain then done
      else literally
    | ';' =>
      if s = .arithmeticPart then
        Reading.drop
        done
      else if s = .plain then done
      else literally
    | _ =>
      let isBlank := " \t\n".toList.contains c
      if (s = .plain && endsWord c) || (s = .regex && p.depth = 0 && isBlank) then done
      else literally

/-- Reads the parts of a word up to its end. -/
def readParts (nested : Nested) (s : Surroundings) : Reading (List Part) := do
  let start ← Reading.line
  Reading.loop (readPart nested s start) {}

end JobLaunch.Rehearsal.Script
