import JobLaunch.Rehearsal.Script.Word
import JobLaunch.Text.Decimal

/-!
# Reading commands

* `nextToken` — the next token of a script.
* `readCommand`, `readList` — commands, and lists of them.
* `Source.next?` — the next complete command of a script.
-/

namespace JobLaunch.Rehearsal.Script

/-! ## Texts below -/

def afterLine? (wanted : List Char) (cs : List Char) : Option (List Char) :=
  match wanted, cs with
  | [], [] => some []
  | [], '\n' :: rest => some rest
  | w :: wanted, c :: rest => if w = c then afterLine? wanted rest else none
  | _, _ => none

def isContinued (cs : List Char) : Bool :=
  (cs.reverse.takeWhile (· = '\\')).length % 2 = 1

def readLines (a : Awaited) : Reading (List Char) :=
  Reading.loop (fun ((lines, continued) : List (List Char) × Bool) => do
    let s ← get
    if s.rest.isEmpty then
      if s.dialect = .plain then return .inr lines.reverse.flatten
      let delimiter := String.ofList a.delimiter
      set { s with warnings := s.warnings ++ [(max a.line (s.line - 1),
        "here-document at line " ++ Decimal.text a.line ++
          " delimited by end-of-file (wanted \x60" ++ delimiter ++ "')")] }
      let text := lines.reverse.flatten
      return .inr (if text.getLast?.any (· ≠ '\n') then text ++ ['\n'] else text)
    let rest := if a.indented && !continued then s.rest.dropWhile (· = '\t') else s.rest
    match if continued then none else afterLine? a.delimiter rest with
    | some rest =>
      set { s with rest, line := s.line + 1 }
      return .inr lines.reverse.flatten
    | none =>
      let (line, rest) := rest.span (· ≠ '\n')
      set { s with rest := rest.drop 1, line := s.line + 1 }
      return .inl ((line ++ rest.take 1) :: lines, !a.quoted && isContinued line)) ([], false)

def readDocument (nested : Nested) (a : Awaited) : Reading Unit := do
  let start ← Reading.line
  let body ← readLines a
  let after ← get
  let word ← if a.quoted then pure [.text body true]
    else do
      set { after with rest := body, line := start, awaited := [], pushed := none }
      nested (.parts .document)
  modify fun s => { after with
    documents := s.documents.setIfInBounds a.number word, warnings := s.warnings }

def readDocuments (nested : Nested) : Reading Unit := do
  let awaited ← modifyGet fun s => (s.awaited, { s with awaited := [] })
  awaited.forM (readDocument nested)

/-! ## Tokens -/

def keywords (d : Dialect) : List String :=
  ["!", "case", "do", "done", "elif", "else", "esac", "fi", "for", "if", "in", "then", "until",
    "while", "\x7b", "\x7d"] ++
    if d = .extended then ["function", "[[", "select", "time"] else []

def skipBlanks : Reading Unit :=
  Reading.loop (fun _ => do
    match ← Reading.peekJoined with
    | some ' ' | some '\t' =>
      Reading.drop
      pure (.inl ())
    | some '#' =>
      modify fun s => { s with rest := s.rest.dropWhile (· ≠ '\n') }
      pure (.inl ())
    | _ => pure (.inr ())) ()

def after (t : Token) : Reading Token := do
  Reading.drop
  pure t

def readOperator (c : Char) : Reading Token := do
  Reading.drop
  let extended := (← Reading.dialect) = .extended
  let simple : Token := .operator (String.ofList [c])
  match c with
  | '&' =>
    if ← Reading.accept '&' then pure (.operator "&&")
    else if extended && (← Reading.peek) == some '>' then
      Reading.drop
      let appends ← Reading.accept '>'
      pure (.redirection none (if appends then "&>>" else "&>"))
    else pure simple
  | '|' =>
    if ← Reading.accept '|' then pure (.operator "||")
    else if ← Reading.acceptIf extended '&' then pure (.operator "|&")
    else pure simple
  | ';' =>
    if ← Reading.accept ';' then
      if ← Reading.acceptIf extended '&' then pure (.operator ";;&") else pure (.operator ";;")
    else if ← Reading.acceptIf extended '&' then pure (.operator ";&")
    else pure simple
  | _ => pure simple

def readRedirection (stream : Option Nat) : Reading Token := do
  let extended := (← Reading.dialect) = .extended
  let found (text : String) : Reading Token := pure (.redirection stream text)
  if ← Reading.accept '>' then
    if ← Reading.accept '>' then found ">>"
    else if ← Reading.accept '|' then found ">|"
    else if ← Reading.accept '&' then found ">&"
    else found ">"
  else
    let _ ← Reading.accept '<'
    if ← Reading.accept '<' then
      if ← Reading.accept '-' then found "<<-"
      else if ← Reading.acceptIf extended '<' then found "<<<"
      else found "<<"
    else if ← Reading.accept '&' then found "<&"
    else if ← Reading.accept '>' then found "<>"
    else found "<"

def streamBefore? (d : Dialect) (w : Word) : Option (Option Nat) :=
  match w with
  | [] => some none
  | [.text cs false] =>
    if cs.all Text.isDigit && (d = .extended || cs.length = 1) then
      some (some (cs.foldl (fun n c => n * 10 + (c.toNat - 48)) 0))
    else none
  | _ => none

def variableBefore? (d : Dialect) (w : Word) : Option String :=
  match d, w with
  | .extended, [.text ('\x7b' :: cs) false] =>
    if cs.getLast? == some '\x7d' && isName (cs.takeWhile isNameChar) then
      some (String.ofList cs.dropLast)
    else none
  | _, _ => none

def readToken (nested : Nested) : Reading Token := do
  skipBlanks
  modify fun s => { s with beforeToken := s.rest }
  match ← Reading.peekJoined with
  | none => pure .ending
  | some '\n' => after .newline
  | some c =>
    if "&|;()".toList.contains c then readOperator c
    else
      let w ← nested (.parts .plain)
      let next ← Reading.peek
      if next == some '<' || next == some '>' then
        match streamBefore? (← Reading.dialect) w, variableBefore? (← Reading.dialect) w with
        | some stream, _ => readRedirection stream
        | none, some name =>
          match ← readRedirection none with
          | .redirection _ text => pure (.numbered name text)
          | t => pure t
        | none, none => pure (.word w)
      else pure (.word w)

def takeToken (nested : Nested) : Reading Token := do
  match ← modifyGet fun s => (s.pushed, { s with pushed := none }) with
  | some t => pure t
  | none => readToken nested

def giveBack (t : Token) : Reading Unit := modify fun s => { s with pushed := some t }

def nextToken (nested : Nested) (afterLines asKeyword : Bool) : Reading Token := do
  let t ← if afterLines then
      Reading.loop (fun _ => do
        match ← takeToken nested with
        | .newline =>
          readDocuments nested
          pure (.inl ())
        | t => pure (.inr t)) ()
    else takeToken nested
  match t with
  | .word w =>
    match literal? w with
    | some cs =>
      let text := String.ofList cs
      pure (if asKeyword && (keywords (← Reading.dialect)).contains text then .keyword text else t)
    | none => pure t
  | t => pure t

def refuse {α : Type} (t : Token) : Reading α := throw (.unexpected t none)

def expectKeyword (nested : Nested) (text : String) (afterLines : Bool := false) :
    Reading Unit := do
  match ← nextToken nested afterLines true with
  | .keyword k =>
    if k = text then pure () else throw (.unexpected (.keyword k) (some ("\"" ++ text ++ "\"")))
  | t => throw (.unexpected t (some ("\"" ++ text ++ "\"")))

def expectOperator (nested : Nested) (text : String) : Reading Unit := do
  match ← nextToken nested false true with
  | .operator o =>
    if o = text then pure () else throw (.unexpected (.operator o) (some ("\"" ++ text ++ "\"")))
  | t => throw (.unexpected t (some ("\"" ++ text ++ "\"")))

/-! ## Redirections -/

/-- Reads the text that ends a text below; nothing in it but quotes has a meaning. -/
def readDelimiter (nested : Nested) : Reading (List Char × Bool) := do
  skipBlanks
  let done (cs : List Char) (quoted : Bool) : Reading ((List Char × Bool) ⊕ (List Char × Bool)) :=
    pure (.inr (cs.reverse, quoted))
  let (cs, quoted) ← Reading.loop (fun ((cs, quoted) : List Char × Bool) => do
    match ← Reading.peekJoined with
    | none => done cs quoted
    | some c =>
      if endsWord c then done cs quoted
      else
        Reading.drop
        match c with
        | '\\' =>
          match ← Reading.next with
          | some c => pure (.inl (c :: cs, true))
          | none => done ('\\' :: cs) true
        | '\'' =>
          let text ← readSingleQuoted
          pure (.inl (text.reverse ++ cs, true))
        | '"' =>
          let start ← Reading.line
          let text ← Reading.loop (fun (text : List Char) => do
            match ← Reading.next with
            | some '"' => pure (.inr text)
            | some c => pure (.inl (c :: text))
            | none => throw (.unterminatedQuote '"' start)) []
          pure (.inl (text ++ cs, true))
        | c => pure (.inl (c :: cs, quoted))) ([], false)
  if cs.isEmpty && !quoted then refuse (← nextToken nested false false)
  else pure (cs, quoted)

def readTarget (nested : Nested) (stream : Option Nat) (text : String) : Reading Redirection := do
  if text = "<<" || text = "<<-" then
    let (delimiter, quoted) ← readDelimiter nested
    modifyGet fun s =>
      let number := s.documents.size
      (.document (stream.getD 0) number, { s with
        documents := s.documents.push []
        awaited := s.awaited ++ [⟨number, delimiter, text = "<<-", quoted, s.line⟩] })
  else match ← nextToken nested false false with
    | .word w =>
      pure <| match text with
        | "<" => .file (stream.getD 0) .read w
        | "<>" => .file (stream.getD 0) .readWrite w
        | "<&" => .copy (stream.getD 0) w
        | ">&" =>
          -- Without a number this is about all output in a large shell.
          .copy (stream.getD 1) w
        | ">>" => .file (stream.getD 1) .append w
        | ">|" => .file (stream.getD 1) .overwrite w
        | "<<<" => .inline (stream.getD 0) w
        | "&>" => .everything false w
        | "&>>" => .everything true w
        | _ => .file (stream.getD 1) .write w
    | t => refuse t

def readRedirections (nested : Nested) : Reading (List Redirection) :=
  Reading.loop (fun (rs : List Redirection) => do
    match ← nextToken nested false true with
    | .redirection stream text => return .inl ((← readTarget nested stream text) :: rs)
    | .numbered name text =>
      return .inl (.numbered name (← readTarget nested none text) :: rs)
    | t =>
      giveBack t
      return .inr rs.reverse) []

/-! ## Simple commands -/

def specialBuiltins : List String :=
  [".", ":", "break", "continue", "eval", "exec", "exit", "export", "local", "readonly", "return",
    "set", "shift", "times", "trap", "unset"]

def isFunctionName (d : Dialect) (cs : List Char) : Bool :=
  d = .extended || (isName cs && !specialBuiltins.contains (String.ofList cs))

def wordText (w : Word) : String :=
  String.ofList (w.flatMap fun
    | .text cs _ => cs
    | .parameter name .value _ => '$' :: name.toList
    | _ => ['$'])

/-- The parts of a simple command that is being read. -/
structure SimpleDraft where
  assignments : List Assignment := []
  words : List Word := []
  redirections : List Redirection := []

/-- The builtin commands whose arguments may give variables several values. -/
def declaring : List String := ["declare", "export", "local", "readonly", "typeset"]

def isSimpleStart (t : Token) : Bool := t matches .word _ | .redirection .. | .numbered ..

/-- Reads several values in brackets after a word that ends in an equals sign. -/
def readList? (nested : Nested) (w : Word) : Reading (Option Part) := do
  let s ← get
  match s.rest, w, s.pushed, s.dialect with
  | '(' :: _, [.text cs false], none, .extended =>
    if cs.getLast? != some '=' || (assignment? .extended w).isNone then return none
    Reading.drop
    let words ← Reading.loop (fun (ws : List Word) => do
      match ← nextToken nested true false with
      | .word w => return .inl (w :: ws)
      | .operator ")" => return .inr ws.reverse
      | .ending => throw (.missingParens s.line)
      | t => refuse t) []
    return some (.list (cs.dropLast.getLast? == some '+') words)
  | _, _, _, _ => return none

def readSimple (nested : Nested) : Reading Command := do
  let d ← Reading.dialect
  let start ← modifyGet fun s => (s.line, s)
  Reading.loop (fun (c : SimpleDraft) => do
    match ← nextToken nested false false with
    | .word w =>
      match if c.words.isEmpty then assignment? d w else none with
      | some (.mk name key adds value) =>
        let value := match ← readList? nested w with
          | some p => [p]
          | none => value
        return .inl { c with assignments := .mk name key adds value :: c.assignments }
      | none =>
        let first := ((c.words.getLast?.bind literal?).map String.ofList).getD ""
        let more ← if declaring.contains first then readList? nested w else pure none
        return .inl { c with words := (w ++ more.toList) :: c.words }
    | .redirection stream text =>
      return .inl { c with redirections := (← readTarget nested stream text) :: c.redirections }
    | .numbered name text =>
      let r ← readTarget nested none text
      return .inl { c with redirections := .numbered name r :: c.redirections }
    | t =>
      let simple : Command :=
        .simple start c.assignments.reverse c.words.reverse c.redirections.reverse
      match t, c.words, c.assignments, c.redirections with
      | .operator "(", [w], [], [] =>
        expectOperator nested ")"
        match literal? w with
        | some name =>
          if !isFunctionName d name then throw (.functionName (String.ofList name))
          let t ← nextToken nested true true
          if d = .extended && isSimpleStart t then refuse t
          giveBack t
          let line ← Reading.line
          return .inr (.function line (String.ofList name) (← nested .command))
        | none => throw (.functionName (wordText w))
      | _, _, _, _ =>
        giveBack t
        return .inr simple) {}

/-! ## Compound commands -/

def readSome (nested : Nested) : Reading Command := do
  return (← nested (.list .some)).getD .empty

def readConditional (nested : Nested) : Reading Command := do
  let branches ← Reading.loop (fun (bs : List (Command × Command)) => do
    let test ← readSome nested
    expectKeyword nested "then"
    let yes ← readSome nested
    let bs := (test, yes) :: bs
    match ← nextToken nested false true with
    | .keyword "elif" => return .inl bs
    | t =>
      giveBack t
      return .inr bs) []
  let no ← match ← nextToken nested false true with
    | .keyword "else" => readSome nested
    | t => do
      giveBack t
      pure .empty
  expectKeyword nested "fi"
  pure (branches.foldl (fun no (test, yes) => .conditional test yes no) no)

def readLoop (nested : Nested) (stopsAt : Bool) : Reading Command := do
  let test ← readSome nested
  expectKeyword nested "do"
  let body ← readSome nested
  expectKeyword nested "done"
  pure (.loop stopsAt test body)

def readArithmetic (nested : Nested) : Reading (Option Word) := do
  let expression ← nested (.parts .arithmetic)
  if ← Reading.accept ')' then pure (some expression) else pure none

def readBody (nested : Nested) : Reading Command := do
  expectKeyword nested "do" true
  let body ← readSome nested
  expectKeyword nested "done"
  pure body

/-- Complains about a token before which a line has to go on; the end of a script is the end of its
line. -/
def refuseInLine {α : Type} (t : Token) : Reading α := do
  match t with
  | .ending =>
    modify fun s => { s with line := s.line + 1 }
    refuse .newline
  | t => refuse t

/-- Reads the words of a loop and its body; without words there is nothing. -/
def readWordsAndBody (nested : Nested) : Reading (Option (List Word) × Command) := do
  match ← nextToken nested true true with
  | .keyword "in" =>
    let words ← Reading.loop (fun (ws : List Word) => do
      match ← nextToken nested false false with
      | .word w => return .inl (w :: ws)
      | .newline =>
        readDocuments nested
        return .inr ws.reverse
      | .operator ";" => return .inr ws.reverse
      | t => refuse t) []
    return (some words, ← readBody nested)
  | t =>
    match t with
    | .operator ";" => pure ()
    | t => giveBack t
    return (none, ← readBody nested)

def readEach (nested : Nested) (line : Nat) : Reading Command := do
  let extended := (← Reading.dialect) = .extended
  match ← nextToken nested false false with
  | .word w =>
    match literal? w with
    | some name =>
      let variableName := String.ofList name
      if !isName name && !extended then throw (.loopVariable variableName)
      let (words, body) ← readWordsAndBody nested
      return .each line variableName words body
    | none =>
      if !extended then throw (.loopVariable (wordText w))
      let (words, body) ← readWordsAndBody nested
      return .each line (wordText w) words body
  | .operator "(" =>
    if ← Reading.acceptIf extended '(' then
      let start ← nested (.parts .arithmeticPart)
      let test ← nested (.parts .arithmeticPart)
      match ← readArithmetic nested with
      | some step =>
        match ← nextToken nested true true with
        | .operator ";" => pure ()
        | t => giveBack t
        return .counting line start test step (← readBody nested)
      | none => refuse (.operator ")")
    else if extended then refuse (.operator "(")
    else throw (.loopVariable "(")
  | t => if extended then refuseInLine t else throw (.loopVariable t.shown)

def readMenu (nested : Nested) (line : Nat) : Reading Command := do
  match ← nextToken nested false false with
  | .word w =>
    let (words, body) ← readWordsAndBody nested
    return .menu line (wordText w) words body
  | t => refuseInLine t

def Token.word? : Token → Option Word
  | .word w => some w
  | .keyword k => some [.text k.toList false]
  | _ => none

def readPatterns (nested : Nested) (first : Token) : Reading (List Word) := do
  let first ← if first matches .operator "(" then nextToken nested false false else pure first
  Reading.loop (fun ((t, ws) : Token × List Word) => do
    let ws := t.word?.getD [] :: ws
    match ← nextToken nested false false with
    | .operator "|" => return .inl (← nextToken nested false false, ws)
    | .operator ")" => return .inr ws.reverse
    | t => throw (.unexpected t (some "\")\""))) (first, [])

def readSelect (nested : Nested) (line : Nat) : Reading Command := do
  match ← nextToken nested false false with
  | .word w =>
    expectKeyword nested "in" true
    let cases ← Reading.loop (fun (cs : List Case) => do
      match ← nextToken nested true true with
      | .keyword "esac" => return .inr cs.reverse
      | t =>
        let patterns ← readPatterns nested t
        let body := (← nested (.list .any)).getD .empty
        match ← nextToken nested true true with
        | .operator ";;" => return .inl (.mk patterns body .stop :: cs)
        | .operator ";;&" => return .inl (.mk patterns body .goOn :: cs)
        | .operator ";&" => return .inl (.mk patterns body .fall :: cs)
        | .keyword "esac" => return .inr (.mk patterns body .stop :: cs).reverse
        | t => throw (.unexpected t (some "\";;\""))) []
    pure (.select line w cases)
  | t =>
    if (← Reading.dialect) = .extended then refuseInLine t
    else throw (.unexpected t (some "word"))

/-! ## Tests between double brackets -/

/-- What a test consists of. -/
inductive CheckGrade where
  | either
  | both
  | primary

def closesCheck (t : Token) : Bool :=
  match t with
  | .word w => literal? w == some "]]".toList
  | _ => false

def shownInCheck : Token → String
  | .ending | .newline => "newline"
  | .operator text | .redirection _ text | .keyword text | .numbered _ text => text
  | .word w => wordText w

def isCheckOperator (text : List Char) : Bool :=
  ["=", "==", "!=", "=~", "<", ">", "-eq", "-ne", "-lt", "-le", "-gt", "-ge", "-nt", "-ot",
    "-ef"].contains (String.ofList text)

def isCheckUnary (text : List Char) : Bool :=
  match text with
  | ['-', c] => "abcdefghknoprstuvwxzGLNORS".toList.contains c
  | _ => false

/-- Complains about a test; the line is the one before a line break that has been read. -/
def refuseCheck {α : Type} (t : Token) (reasons : List String) : Reading α := do
  let line ← Reading.line
  throw (.badTest reasons (if t matches .newline then line - 1 else line))

/-- Reads a part of a test, whose first token is given, behind the words before it; tells what
follows it. -/
def readCheckWithin (nested : Nested) :
    Nat → CheckGrade → Token → List Word → Reading (Token × List Word)
  | 0, _, _, _ => throw .tooDeep
  | n + 1, grade, t, ws => do
    let operator (text : String) : Word := [.text text.toList false]
    let next : Reading Token := nextToken nested false false
    let nextPart : Reading Token := nextToken nested true false
    match grade with
    | .either =>
      let (t, ws) ← readCheckWithin nested n .both t ws
      match t with
      | .operator "||" => readCheckWithin nested n .either (← nextPart) (operator "||" :: ws)
      | t => pure (t, ws)
    | .both =>
      let (t, ws) ← readCheckWithin nested n .primary t ws
      match t with
      | .operator "&&" => readCheckWithin nested n .both (← nextPart) (operator "&&" :: ws)
      | t => pure (t, ws)
    | .primary =>
      if closesCheck t then refuseCheck t []
      else match t with
        | .operator "(" =>
          let (t, ws) ← readCheckWithin nested n .either (← nextPart) (operator "(" :: ws)
          match t with
          | .operator ")" => return (← nextPart, operator ")" :: ws)
          | t =>
            let reason := "unexpected token \x60" ++ shownInCheck t ++ "', expected \x60)'"
            refuseCheck t [reason]
        | .word w =>
          if literal? w == some ['!'] then readCheckWithin nested n .primary (← nextPart) (w :: ws)
          else if (literal? w).any isCheckUnary then
            match ← next with
            | .word arg =>
              if closesCheck (.word arg) then
                refuseCheck t ["unexpected argument \x60]]' to conditional unary operator"]
              else return (← nextPart, arg :: w :: ws)
            | t => refuseCheck t ["unexpected argument \x60" ++ shownInCheck t ++
                "' to conditional unary operator"]
          else
            let found ← next
            let isEnd := closesCheck found ||
              (found matches .operator "&&" | .operator "||" | .operator ")")
            let o? : Option String := match found with
              | .word o => ((literal? o).filter isCheckOperator).map String.ofList
              | .redirection none "<" => some "<"
              | .redirection none ">" => some ">"
              | _ => none
            if isEnd then return (found, w :: ws)
            match o? with
            | none => refuseCheck found [match found with
                | .word _ => "conditional binary operator expected"
                | t => "unexpected token \x60" ++ shownInCheck t ++
                    "', conditional binary operator expected"]
            | some o =>
              let right ← if o = "=~" then do
                  let _ ← Reading.takeWhile fun c => c = ' ' || c = '\t'
                  match (← get).rest with
                  | ']' :: ']' :: _ | '\n' :: _ | [] => next
                  | _ => return (← nextPartAfter (← nested (.parts .regex)) o w ws)
                else next
              match right with
              | .word arg =>
                if closesCheck right then
                  refuseCheck right ["unexpected argument \x60]]' to conditional binary operator"]
                else return (← nextPart, arg :: operator o :: w :: ws)
              | t => refuseCheck t ["unexpected argument \x60" ++ shownInCheck t ++
                  "' to conditional binary operator"]
        | .ending => throw (.unexpected .ending none)
        | t =>
          let reason := "unexpected token \x60" ++ shownInCheck t ++ "' in conditional command"
          refuseCheck t [reason]
where
  nextPartAfter (expression : Word) (o : String) (left : Word) (ws : List Word) :
      Reading (Token × List Word) := do
    return (← nextToken nested true false, expression :: [.text o.toList false] :: left :: ws)

def readCheck (nested : Nested) (line : Nat) : Reading Command := do
  let length := (← get).rest.length
  let (t, ws) ← readCheckWithin nested (4 * length + 16) .either (← nextToken nested true false) []
  if closesCheck t then pure (.check line ws.reverse)
  else if t matches .ending then throw (.unexpected .ending none)
  else refuseCheck t [match t with
    | .word _ => "syntax error in conditional expression"
    | t => "syntax error in conditional expression: unexpected token \x60" ++
        shownInCheck t ++ "'"]

def readCommandFrom (nested : Nested) (before : Nat) (t : Token) : Reading Command := do
  let closed (c : Command) : Reading Command := do
    match ← readRedirections nested with
    | [] => pure c
    | rs => pure (.redirected before c rs)
  match t with
  | .keyword "if" => closed (← readConditional nested)
  | .keyword "while" => closed (← readLoop nested false)
  | .keyword "until" => closed (← readLoop nested true)
  | .keyword "for" => closed (← readEach nested before)
  | .keyword "select" => closed (← readMenu nested before)
  | .keyword "case" => closed (← readSelect nested before)
  | .keyword "\x7b" =>
    let body ← readSome nested
    expectKeyword nested "\x7d"
    closed body
  | .keyword "[[" => closed (← readCheck nested before)
  | .keyword "function" =>
    match ← nextToken nested false false with
    | .word w =>
      match ← nextToken nested false false with
      | .operator "(" => expectOperator nested ")"
      | t => giveBack t
      let t ← nextToken nested true true
      if isSimpleStart t then refuse t
      giveBack t
      return .function before (wordText w) (← nested .command)
    | t => refuseInLine t
  | .operator "(" =>
    let subshell : Reading Command := do
      let body ← readSome nested
      expectOperator nested ")"
      return .subshell before body (← readRedirections nested)
    if (← Reading.dialect) = .extended && (← Reading.peek) == some '(' then
      let here ← get
      Reading.drop
      match ← readArithmetic nested with
      | some expression => closed (.calculation before expression)
      | none =>
        set here
        subshell
    else subshell
  | .word _ | .redirection .. | .numbered .. =>
    giveBack t
    readSimple nested
  | t => refuse t

def readCommand (nested : Nested) (afterLines asKeyword : Bool) : Reading Command := do
  let before ← Reading.line
  let t ← nextToken nested afterLines asKeyword
  readCommandFrom nested before t

/-! ## Lists -/

structure PipelineStart where
  isNegated : Bool := false
  timed : Option Bool := none

def withComplaints (c : Command) : Command :=
  let r : Redirection := .copy 2 [.text ['1'] false]
  match c with
  | .simple line assignments words rs => .simple line assignments words (rs ++ [r])
  | .subshell line body rs => .subshell line body (rs ++ [r])
  | .redirected line c rs => .redirected line c (rs ++ [r])
  | c => .redirected 0 c [r]

def readPipelineStart (nested : Nested) (afterLines asKeyword : Bool) : Reading PipelineStart := do
  let t ← nextToken nested afterLines asKeyword
  let first : PipelineStart := match t with
    | .keyword "!" => { isNegated := true }
    | .keyword "time" => { timed := some false }
    | _ => {}
  if !first.isNegated && first.timed.isNone then
    giveBack t
    return first
  if (← Reading.dialect) = .plain then return first
  Reading.loop (fun (p : PipelineStart) => do
    match ← nextToken nested false true with
    | .keyword "!" => return .inl { p with isNegated := !p.isNegated }
    | .keyword "time" => return .inl { p with timed := p.timed.or (some false) }
    | .word w =>
      if p.timed.isSome && literal? w == some "-p".toList then
        return .inl { p with timed := some true }
      else if p.timed.isSome && literal? w == some "--".toList then return .inl p
      else
        giveBack (.word w)
        return .inr p
    | t =>
      giveBack t
      return .inr p) first

def readPipeline (nested : Nested) (afterLines asKeyword : Bool) : Reading Command := do
  let start ← readPipelineStart nested afterLines asKeyword
  let t ← if start.timed.isNone then pure none
    else do
      let t ← nextToken nested false false
      giveBack t
      pure (some t)
  let isEmpty := t.any fun t => t matches .newline | .ending | .operator ";" | .operator "&"
  let c ← if isEmpty then pure .empty
    else do
      let first ← readCommand nested false (start.isNegated || start.timed.isSome)
      let commands ← Reading.loop (fun (cs : List Command) => do
        match ← nextToken nested false false with
        | .operator "|" => return .inl ((← readCommand nested true true) :: cs)
        | .operator "|&" =>
          let cs := match cs with
            | c :: before => withComplaints c :: before
            | [] => []
          return .inl ((← readCommand nested true true) :: cs)
        | t =>
          giveBack t
          return .inr cs.reverse) [first]
      pure (match commands with
        | [c] => c
        | cs => .pipeline cs)
  let c := match start.timed with
    | some portable => .timed portable c
    | none => c
  pure (if start.isNegated then .negated c else c)

def readChain (nested : Nested) : Reading Command := do
  let first ← readPipeline nested false false
  Reading.loop (fun (c : Command) => do
    match ← nextToken nested false false with
    | .operator "&&" => return .inl (.both c (← readPipeline nested true true))
    | .operator "||" => return .inl (.either c (← readPipeline nested true true))
    | t =>
      giveBack t
      return .inr c) first

def endsList : Token → Bool
  | .ending => true
  | .operator o => [")", ";;", ";&", ";;&"].contains o
  | .keyword k =>
    ["do", "done", "elif", "else", "esac", "fi", "then", "\x7d"].contains k
  | _ => false

def readList (nested : Nested) (e : Ending) : Reading (Option Command) :=
  Reading.loop (fun (so : Option Command) => do
    let t ← nextToken nested (e ≠ .line) true
    match t with
    | .newline =>
      readDocuments nested
      return .inr (some (so.getD .empty))
    | .ending =>
      readDocuments nested
      giveBack t
      return .inr so
    | _ =>
      giveBack t
      if endsList t && (e = .any || (e = .some && so.isSome)) then return .inr so
      let c ← readChain nested
      let t ← nextToken nested false false
      let c := if t matches .operator "&" then .background c else c
      let so := match so with
        | some first => some (.sequence first c)
        | none => some c
      match t with
      | .newline | .ending =>
        giveBack t
        return .inl so
      | .operator "&" | .operator ";" => return .inl so
      | t =>
        if e = .line then refuse t
        giveBack t
        return .inr so) none

/-! ## Scripts -/

def readNested : Nat → Nested
  | 0, _ => throw .tooDeep
  | n + 1, .parts s => readParts (readNested n) s
  | n + 1, .list e => readList (readNested n) e
  | n + 1, .command => readCommand (readNested n) false true

/-- The next complete command of a script, or the reason why there is none; at the end there is
nothing. -/
def Source.next? (s : Source) : Except Fault (Option Command) × Source :=
  match (readNested (s.rest.length + 4) (.list .line)).run s with
  | .ok c s => (.ok c, s)
  | .error f s => (.error f, s)

end JobLaunch.Rehearsal.Script
