import JobLaunch.Rehearsal.Edit.Script
import JobLaunch.Rehearsal.Utility.Reading

/-!
# Editors of streams

An editor has the line that it works on, and a second one that it holds.

* `Edit.Editor` — its state.
* `Edit.Editor.isSelected` — is a command meant for the line?
* `Edit.Editor.run`, `Edit.Editor.runLines` — what becomes of a line, and of all lines.
-/

namespace JobLaunch.Rehearsal.Edit

/-- A line of the input, and whether it has an end. -/
structure Line where
  text : List Char
  ends : Bool
  deriving Inhabited

def linesOf (bytes : Bytes) (stop : Char := '\n') : List Line :=
  let pieces := (Bytes.chars bytes).splitOn stop
  let last := pieces.getLastD []
  pieces.dropLast.map (fun text => ⟨text, true⟩) ++ if last.isEmpty then [] else [⟨last, false⟩]

structure Editor where
  script : Script
  quiet : Bool
  stop : Char := '\n'
  input : List Line
  complete : Bool
  files : List (String × Bytes) := []
  fileName : String := "-"
  space : Line := ⟨[], true⟩
  hold : List Char := []
  number : Nat := 0
  replaced : Bool := false
  lastPattern : Option (Regex × Regex.Manner) := none
  ranges : List (Nat × Option Nat) := []
  queue : List Bytes := []
  output : List Bytes := []
  owes : Bool := false
  written : List (String × Bytes) := []
  ended : Option Nat := none
  starved : Bool := false
  fault : Option String := none
  deriving Inhabited

namespace Editor

/-- Adds bytes to the output, after a line end if one is missing. -/
def emitBytes (e : Editor) (bytes : Bytes) : Editor :=
  { e with
    output := (if e.owes then Bytes.ofChar e.stop ++ bytes else bytes) :: e.output
    owes := false }

def emit (e : Editor) (bytes : Bytes) (ends : Bool) : Editor :=
  { e.emitBytes (if ends then bytes ++ Bytes.ofChar e.stop else bytes) with owes := !ends }

def emitLine (e : Editor) (text : List Char) : Editor := e.emitBytes (Bytes.ofChars (text ++ ['\n']))

def put (e : Editor) (text : List Char) : Editor :=
  e.emit (Bytes.ofChars text) e.space.ends

def isLast (e : Editor) : Bool × Editor :=
  if !e.input.isEmpty then (false, e)
  else if e.complete then (true, e)
  else (true, { e with starved := true, ended := some 0 })

def field (e : Editor) (m : Regex.Manner) : Regex.Field := { m with chars := e.space.text.toArray }

def pattern (e : Editor) (r : Option Regex) (m : Regex.Manner) :
    Option (Regex × Regex.Manner) × Editor :=
  match r with
  | some r => (some (r, m), { e with lastPattern := some (r, m) })
  | none =>
    match e.lastPattern with
    | some p => (some p, e)
    | none => (none, { e with fault := some "no previous regular expression", ended := some 1 })

def isAt (e : Editor) (a : Address) : Bool × Editor :=
  match a with
  | .number n => (e.number = n, e)
  | .every first step => (first ≤ e.number && (e.number - first) % step = 0, e)
  | .last => e.isLast
  | .pattern r m =>
    match e.pattern r m with
    | (some (r, m), e) => (r.isFound (e.field m), e)
    | (none, e) => (false, e)

def setRange (e : Editor) (command : Nat) (finish : Option (Option Nat)) : Editor :=
  let others := e.ranges.filter (·.1 ≠ command)
  { e with ranges := match finish with
      | some f => (command, f) :: others
      | none => others }

def beginRange (e : Editor) (command : Nat) (f : Finish) : Editor :=
  let upTo (n : Nat) : Editor :=
    if n ≤ e.number then e else e.setRange command (some (some n))
  match f with
  | .after n => upTo (e.number + n)
  -- A multiple is looked for after the first line.
  | .multiple n => upTo (if n = 0 then 0 else (e.number / n + 1) * n)
  | .at (.number n) => upTo n
  | .at _ => e.setRange command (some none)

def isSelected (e : Editor) (command : Nat) (s : Selector) : Bool × Editor :=
  let (found, e) := match s.first, s.finish with
    | none, _ => (true, e)
    | some a, none => e.isAt a
    | some a, some f =>
      -- A range that begins at line zero is under way before the first line.
      let e := if e.number = 1 && (a matches .number 0) && (e.ranges.lookup command).isNone then
          e.setRange command (some none)
        else e
      match e.ranges.lookup command with
      | some (some n) =>
        if e.number < n then (true, e)
        else if e.number = n then (true, e.setRange command none)
        else
          let e := e.setRange command none
          let (starts, e) := e.isAt a
          (starts, if starts then e.beginRange command f else e)
      | some none =>
        match f with
        | .at a =>
          let (ends, e) := e.isAt a
          (true, if ends then e.setRange command none else e)
        | _ => (true, e)
      | none =>
        let (starts, e) := e.isAt a
        (starts, if starts then e.beginRange command f else e)
  (found != s.negated, e)

def blockEnd (script : Script) : Nat → Nat → Nat → Nat
  | 0, _, i => i
  | n + 1, depth, i =>
    match (script[i]?).map fun (c : Command) => c.action with
    | none => i
    | some .openBlock => blockEnd script n (depth + 1) (i + 1)
    | some .closeBlock => if depth ≤ 1 then i + 1 else blockEnd script n (depth - 1) (i + 1)
    | some _ => blockEnd script n depth (i + 1)

def labelPlace (script : Script) (name : String) : Nat :=
  if name.isEmpty then script.size
  else (script.toList.findIdx? fun c => match c.action with
    | .label l => l = name
    | _ => false).getD script.size

/-! ### Replacing -/

/-- How letters are changed: those that follow, and the next one. -/
structure Letters where
  all : Option Bool := none
  next : Option Bool := none

def Letters.apply (l : Letters) (cs : List Char) : List Char × Letters :=
  let turned (up : Option Bool) (c : Char) : Char := match up with
    | some true => Text.capital c
    | some false => Text.small c
    | none => c
  match cs with
  | [] => ([], l)
  | c :: rest => (turned (l.next.or l.all) c :: rest.map (turned l.all), { l with next := none })

def replacement (chars : Array Char) (m : Regex.Match) (pieces : List Piece) : List Char :=
  let part (i j : Nat) : List Char := (chars.extract i j).toList
  (pieces.foldl (fun (r : List (List Char) × Letters) piece =>
    let add (cs : List Char) : List (List Char) × Letters :=
      let (cs, l) := r.2.apply cs
      (cs :: r.1, l)
    match piece with
    | .text cs => add cs
    | .group 0 => add (part m.start m.finish)
    | .group k =>
      match m.groups.lookup k with
      | some (i, j) => add (part i j)
      | none => r
    | .letters c => (r.1, match c with
        | 'U' => { r.2 with all := some true }
        | 'L' => { r.2 with all := some false }
        | 'u' => { r.2 with next := some true }
        | 'l' => { r.2 with next := some false }
        | _ => {})) ([], {})).1.reverse.flatten

/-- A text with matches replaced, from a place on; the count says how many matches have been seen.
An empty match that touches the one before does not count. Tells whether something was replaced. -/
def replaceWithin (r : Regex) (s : Substitution) (f : Regex.Field) :
    Nat → Nat → Nat → Option Nat → List (List Char) → List Char × Bool
  | 0, place, _, _, done => (done.reverse.flatten ++ (f.chars.toList.drop place), false)
  | n + 1, place, count, touched, done =>
    let part (i j : Nat) : List Char := (f.chars.extract i j).toList
    let finish (found : Bool) (place : Nat) (done : List (List Char)) : List Char × Bool :=
      ((part place f.chars.size :: done).reverse.flatten, found)
    match if f.chars.size < place then none else r.find? f place with
    | none => finish false place done
    | some m =>
      if m.start = m.finish && touched = some m.start then
        if m.start < f.chars.size then
          replaceWithin r s f n (m.start + 1) count none (part place (m.start + 1) :: done)
        else finish false place done
      else
        let count := count + 1
        let isReplaced := s.number = count || (s.all && s.number ≤ count)
        let new := if isReplaced then replacement f.chars m s.pieces else part m.start m.finish
        let done := new :: part place m.start :: done
        if isReplaced && !s.all then finish true m.finish done
        else if m.finish = m.start then
          if m.start < f.chars.size then
            let (cs, found) := replaceWithin r s f n (m.start + 1) count none
              (part m.start (m.start + 1) :: done)
            (cs, found || isReplaced)
          else finish isReplaced m.finish done
        else
          let (cs, found) := replaceWithin r s f n m.finish count (some m.finish) done
          (cs, found || isReplaced)

def write (e : Editor) (path : String) (text : List Char) : Editor :=
  if path = "/dev/stdout" then e.put text
  else { e with written := (path, Bytes.ofChars (text ++ [e.stop])) :: e.written }

def substitute (e : Editor) (s : Substitution) : Editor :=
  match e.pattern s.pattern s.manner with
  | (none, e) => e
  | (some (r, m), e) =>
    let f := e.field m
    let (text, found) := replaceWithin r s f (2 * f.chars.size + 4) 0 0 none []
    if found then
      let e := { e with space := { e.space with text }, replaced := true }
      let e := if s.prints then e.put text else e
      match s.file with
      | some path => e.write path text
      | none => e
    else e

/-! ### Lines -/

/-- The text of a line in which everything can be seen, cut into lines of some width. -/
def listed (width : Nat) (cs : List Char) : List Char :=
  let sign (c : Char) : List Char := match c with
    | '\\' => ['\\', '\\']
    | '\x07' => ['\\', 'a']
    | '\x08' => ['\\', 'b']
    | '\x0c' => ['\\', 'f']
    | '\n' => ['\\', 'n']
    | '\r' => ['\\', 'r']
    | '\t' => ['\\', 't']
    | '\x0b' => ['\\', 'v']
    | c =>
      if ' ' ≤ c && c ≤ '~' then [c]
      else (Bytes.ofChar c).flatMap fun b =>
        let digit (d : Nat) : Char := Char.ofNat (48 + d % 8)
        ['\\', digit (b.toNat / 64), digit (b.toNat / 8), digit b.toNat]
  let (done, _) := cs.foldl (fun (r : List (List Char) × Nat) c =>
    let s := sign c
    if 0 < width && width - 1 < r.2 + s.length then (s :: ['\\', '\n'] :: r.1, s.length)
    else (s :: r.1, r.2 + s.length)) ([], 0)
  done.reverse.flatten ++ ['$']

def endLine (e : Editor) : Editor := { e.queue.foldl emitBytes e with queue := [] }

def finishLine (e : Editor) : Editor :=
  (if e.quiet then e else e.put e.space.text).endLine

/-- What happens after the commands for a line. -/
inductive Next where
  | line
  | again
  deriving DecidableEq, Inhabited

def firstLine (e : Editor) : List Char := e.space.text.takeWhile (· ≠ e.stop)

def run : Nat → Nat → Editor → Editor × Next
  | 0, _, e => (e, .line)
  | n + 1, place, e =>
    match e.script[place]? with
    | none => (e.finishLine, .line)
    | some c =>
      let (selected, e) := e.isSelected place c.selector
      if e.ended.isSome then (e, .line)
      else if !selected then
        match c.action with
        | .openBlock => run n (blockEnd e.script (e.script.size + 1) 1 (place + 1)) e
        | _ => run n (place + 1) e
      else
        let goOn (e : Editor) : Editor × Next := run n (place + 1) e
        let setSpace (text : List Char) : Editor := { e with space := { e.space with text } }
        match c.action with
        | .openBlock | .closeBlock | .label _ => goOn e
        | .substitute s =>
          let e := e.substitute s
          if e.ended.isSome then (e, .line) else goOn e
        | .transliterate old new =>
          goOn (setSpace (e.space.text.map fun d => ((old.zip new).lookup d).getD d))
        | .append text => goOn { e with queue := e.queue ++ [Bytes.ofChars text] }
        | .insert text => goOn (e.emitBytes (Bytes.ofChars text))
        | .change text =>
          let isEnd := c.selector.finish.isNone || c.selector.negated ||
            (e.ranges.lookup place).isNone
          let e := if isEnd then e.emitBytes (Bytes.ofChars text) else e
          (e.endLine, .line)
        | .branch condition name =>
          let goes := match condition with
            | none => true
            | some wanted => e.replaced = wanted
          let e := if condition.isSome then { e with replaced := false } else e
          if goes then run n (labelPlace e.script name) e else goOn e
        | .quit prints code =>
          let e := if prints then e.finishLine else e
          ({ e with ended := some code }, .line)
        | .readFile path =>
          match e.files.lookup path with
          | some bytes => goOn { e with queue := e.queue ++ [bytes] }
          | none => goOn e
        | .readLine path =>
          match (e.files.lookup path).map linesOf with
          | some (line :: rest) =>
            let left := rest.flatMap fun l => Bytes.ofChars (l.text ++ if l.ends then ['\n'] else [])
            goOn { e with
              queue := e.queue ++ [Bytes.ofChars (line.text ++ ['\n'])]
              files := (path, left) :: e.files }
          | _ => goOn e
        | .writeFile path first =>
          goOn (e.write path (if first then e.firstLine else e.space.text))
        | .listing width => goOn (e.emitLine (listed (width.getD 70) e.space.text))
        | .letter c =>
          match c with
          | '=' => goOn (e.emitLine (Decimal.digits e.number))
          | 'p' => goOn (e.put e.space.text)
          | 'P' => goOn (e.emit (Bytes.ofChars e.firstLine) true)
          | 'd' => (e.endLine, .line)
          | 'D' =>
            let first := e.firstLine
            if first.length = e.space.text.length then (e.endLine, .line)
            else (({ e with space := { e.space with
              text := e.space.text.drop (first.length + 1) } } : Editor).endLine, .again)
          | 'g' => goOn (setSpace e.hold)
          | 'G' => goOn (setSpace (e.space.text ++ e.stop :: e.hold))
          | 'h' => goOn { e with hold := e.space.text }
          | 'H' => goOn { e with hold := e.hold ++ e.stop :: e.space.text }
          | 'x' => goOn { e with space := { e.space with text := e.hold }, hold := e.space.text }
          | 'z' => goOn (setSpace [])
          | 'F' => goOn (e.emitLine e.fileName.toList)
          | 'n' | 'N' =>
            match e.input with
            | [] =>
              let (_, e) := e.isLast
              if e.starved then (e, .line)
              else
                let e := if e.quiet && c == 'n' then e.endLine else e.finishLine
                ({ e with ended := some 0 }, .line)
            | line :: input =>
              let e := if c == 'n' then e.finishLine else e.endLine
              let text := if c == 'n' then line.text else e.space.text ++ e.stop :: line.text
              goOn { e with input, number := e.number + 1, space := ⟨text, line.ends⟩ }
          | _ => goOn e

def mostCommands : Nat := 10000000

def runLines : Nat → Editor → Editor
  | 0, e => e
  | n + 1, e =>
    if e.ended.isSome then e
    else match e.input with
      | [] => if e.complete then e else { e with starved := true, ended := some 0 }
      | line :: input =>
        let e := { e with input, space := line, number := e.number + 1, replaced := false }
        runLines n (rounds mostCommands e)
where
  rounds : Nat → Editor → Editor
    | 0, e => e
    | n + 1, e =>
      match e.run mostCommands 0 with
      | (e, .line) => e
      | (e, .again) => if e.ended.isSome then e else rounds n e

end Editor

end JobLaunch.Rehearsal.Edit
