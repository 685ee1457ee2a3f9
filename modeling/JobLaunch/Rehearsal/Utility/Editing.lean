import JobLaunch.Rehearsal.Edit.Editor

/-!
# Editing files

* `Utility.sed` — edits files, or the standard input.
-/

namespace JobLaunch.Rehearsal.Utility

def sedForms : List OptionForm :=
  [.flag 'n' "quiet", .named '1' "silent" .none, .taking 'e' "expression", .taking 'f' "file",
    .flag 'E' "regexp-extended", .flag 'r' "",
    { letter := 'i', long := "in-place", arity := .optional }, .flag 's' "separate",
    .flag 'u' "unbuffered", .flag 'b' "binary", .flag 'z' "null-data", .taking 'l' "line-length",
    .named '2' "posix" .none, .named '3' "debug" .none, .named '4' "sandbox" .none,
    .named '5' "follow-symlinks" .none]

def sedUsage : Work Unit := do
  say ("Usage: " ++ (← get).name ++ " [OPTION]... \x7bscript-only-if-no-other-script\x7d " ++
    "[input-file]...\n\n")

def scriptFiles (script : Edit.Script) (writes : Bool) : List String :=
  script.toList.filterMap fun c => match c.action with
    | .readFile path | .readLine path => if writes then none else some path
    | .writeFile path _ => if writes then some path else none
    | .substitute s => if writes then s.file else none
    | _ => none

def store (streams : List (String × Nat)) (written : List (String × Bytes)) : Work Unit := do
  for (path, bytes) in written.reverse do
    match streams.lookup path with
    | some stream => let _ ← lift (Routine.write stream bytes)
    | none => pure ()

/-- Edits the standard input or files together. Of what is not at its end only as much is read as is
needed. -/
def editTogether (e : Edit.Editor) (stream : Nat) :
    Nat → Nat → Bytes → Work (Except OsError Edit.Editor)
  | 0, _, _ => pure (.ok e)
  | n + 1, parts, held => do
    let r ← readParts stream (fun (s : Nat × Bytes × Bool) => 0 < s.1) (fun s bytes =>
      pure (s.1 - 1, s.2.1 ++ bytes, true)) (parts + 1) (parts, held, false)
    match r with
    | .error err => pure (.error err)
    | .ok (left, bytes, _) =>
      let complete := 0 < left
      let lines := Edit.linesOf bytes e.stop
      -- A line that has no end yet is not taken.
      let lines := if complete then lines else lines.filter (·.ends)
      let ran := ({ e with input := e.input ++ lines, complete } : Edit.Editor).runLines
        (lines.length + e.input.length + 1)
      if complete || !ran.starved then pure (.ok ran)
      else editTogether e stream n (2 * parts) bytes

abbrev ScriptTexts := List (String × String)

def scriptTexts : List OptionForm.Given → ScriptTexts → Work ScriptTexts
  | [], texts => pure texts
  | (c, arg) :: rest, texts => do
    let text := arg.getD ""
    let texts ←
      if c = 'e' then
        let number := (texts.countP fun t => t.1.startsWith "-") + 1
        pure (texts ++ [("-e expression #" ++ Decimal.text number ++ ", char ", text)])
      else if c = 'f' then
        match ← readInput text with
        | .ok bytes => pure (texts ++ [("file " ++ text ++ " line ", Bytes.text bytes)])
        | .error e => fail 4 ("couldn't open file " ++ text ++ ": " ++ e.reason)
      else pure texts
    scriptTexts rest texts

def joinTexts : ScriptTexts → ScriptTexts
  | [] => []
  | (place, text) :: rest =>
    let hides := (text.toList.reverse.takeWhile (· == '\\')).length % 2 = 1
    let joined := joinTexts rest
    if hides then (place, "\n".intercalate (text :: (joined.take 1).map (·.2))) :: joined.drop 1
    else (place, text) :: joined

/-- The commands of texts, in which so many blocks are open; the last block must be closed. -/
def readScript (style : Regex.Style) : ScriptTexts → List Edit.Command → Nat → Work Edit.Script
  | [], commands, depth => do
    if 0 < depth then fail 1 "-e expression #1, char 0: unmatched \x60\x7b'"
    pure commands.toArray
  | (place, text) :: rest, commands, depth =>
    match Edit.readText style depth text with
    | .ok (more, depth) => readScript style rest (commands ++ more) depth
    | .error ⟨none, said⟩ => fail 4 said
    | .error ⟨some n, said⟩ =>
      -- A place is a character of an argument, but a line of a file.
      let number := if place.startsWith "-" then n
        else (text.toList.take n).countP (· == '\n') + 1
      fail 1 (place ++ Decimal.text number ++ ": " ++ said)

def checkJumps (script : Edit.Script) : Work Unit := do
  for c in script do
    if let .branch _ name := c.action then
      if !name.isEmpty && Edit.Editor.labelPlace script name = script.size then
        fail 4 ("can't find label for jump to \x60" ++ name ++ "'")

def openWritten (script : Edit.Script) : Work (List (String × Nat)) := do
  let mut streams := []
  for path in (scriptFiles script true).eraseDups do
    if path = "/dev/stderr" then streams := streams ++ [(path, 2)]
    else if path ≠ "/dev/stdout" then
      match ← ask (.openFile path .output) with
      | .ok stream => streams := streams ++ [(path, stream)]
      | .error e => fail 4 ("couldn't open file " ++ path ++ ": " ++ e.reason)
  pure streams

/-- Puts down what an editor has written to files, and fails if it went wrong. -/
def settle (streams : List (String × Nat)) (e : Edit.Editor) : Work Unit := do
  store streams e.written
  match e.fault with
  | some text => fail 1 ("-e expression #1, char 0: " ++ text)
  | none => pure ()

def unreadable (file : String) : String :=
  "read error on " ++ file ++ ": " ++ OsError.isADirectory.reason

def editAll (e : Edit.Editor) (file : String) (bytes : Bytes) : Edit.Editor :=
  let input := Edit.linesOf bytes e.stop
  ({ e with input, complete := true, fileName := file } : Edit.Editor).runLines (input.length + 1)

/-- Puts the result of an editor in place of a file, which may be kept by a longer name. -/
def replaceFile (file : String) (ending : Option String) (mode : Nat) (e : Edit.Editor) :
    Work Unit := do
  match ending with
  | some ending => let _ ← ask (.rename file (file ++ ending))
  | none => pure ()
  match ← ask (.openFile file .output) with
  | .ok stream =>
    let _ ← lift (Routine.write stream e.output.reverse.flatten)
    let _ ← ask (.close stream)
    let _ ← ask (.changeMode file mode)
  | .error err => fail 4 ("couldn't open file " ++ file ++ ": " ++ err.reason)

/-- Edits a file by itself, in place or not. Tells what the editor is for the next one. -/
def editFile (given : List OptionForm.Given) (streams : List (String × Nat)) (e : Edit.Editor)
    (file : String) : Work Edit.Editor := do
  let place ← if isGiven given 'i' then ask (.inspect file true) else pure (.error .notFound)
  let special := match place with
    | .ok ⟨_, node, _⟩ => !(node.content matches .regular _)
    | .error _ => false
  if special then
    complain ("couldn't edit " ++ file ++ ": not a regular file")
    setCode 4
    pure e
  else match ← readInput file with
    | .error .isADirectory => fail 4 (unreadable file)
    | .error err =>
      complain ("can't read " ++ file ++ ": " ++ err.reason)
      setCode 2
      pure e
    | .ok bytes =>
      let ran := editAll e file bytes
      match place with
      | .ok ⟨_, node, _⟩ =>
        settle streams ran
        replaceFile file (argument? given 'i') node.mode ran
      | .error _ =>
        print ran.output.reverse.flatten
        settle streams ran
      if let some code := ran.ended then setCode code
      pure { e with
        hold := ran.hold, ended := ran.ended, lastPattern := ran.lastPattern, ranges := [] }

structure Gathered where
  lines : List Edit.Line := []
  last : Option Nat := none
  refusal : Option String := none

def gather (stop : Char) (files : List String) : Work Gathered := do
  let mut all : Gathered := {}
  let mut number := 0
  for file in files do
    number := number + 1
    if all.refusal.isNone then match ← openInput file with
    | .error e =>
      complain ("can't read " ++ file ++ ": " ++ e.reason)
      setCode 2
    | .ok stream =>
      let isDirectory ← match ← ask (.inspectStream stream) with
        | .ok ⟨_, node, _⟩ => pure node.isDirectory
        | .error _ => pure false
      if isDirectory then all := { all with refusal := some (unreadable file) }
      else if number = files.length then all := { all with last := some stream }
      else match ← lift (Routine.readAll stream) with
        | .ok bytes => all := { all with lines := all.lines ++ Edit.linesOf bytes stop }
        | .error e =>
          complain ("read error on " ++ file ++ ": " ++ e.reason)
          setCode 2
  pure all

def editJoined (streams : List (String × Nat)) (e : Edit.Editor) (files : List String) :
    Work Unit := do
  let all ← gather e.stop (if files.isEmpty then ["-"] else files)
  let start : Edit.Editor := { e with input := all.lines, fileName := files.headD "-" }
  let r ← match all.last with
    | some stream => editTogether start stream 40 1 []
    | none =>
      pure (.ok (({ start with complete := true } : Edit.Editor).runLines (all.lines.length + 1)))
  match r with
  | .error e =>
    complain ("read error on stdin: " ++ e.reason)
    setCode 2
  | .ok ran =>
    print ran.output.reverse.flatten
    settle streams ran
    match ran.ended, all.refusal with
    | some code, _ => if code ≠ 0 then setCode code
    | none, some text => fail 4 text
    | none, none => pure ()

def sed (args : List String) : Work Unit := do
  let (given, operands) ← match OptionForm.read sedForms false args with
    | .ok r => pure r
    | .error f => do
      complain f.message
      sedUsage
      leave 1
  let (texts, files) ← match ← scriptTexts given [], operands with
    | [], script :: files => pure ([("-e expression #1, char ", script)], files)
    | [], [] => do
      sedUsage
      leave 1
    | texts, files => pure (texts, files)
  let style : Regex.Style := if isGiven given 'E' || isGiven given 'r' then .extended else .basic
  let texts := joinTexts texts
  let script ← readScript style texts [] 0
  checkJumps script
  let isFirstSilent := texts.head?.any fun t => (t.2 ++ "\n").startsWith "#n\n"
  let mut sources : List (String × Bytes) := []
  for path in scriptFiles script false do
    match ← readInput (if path = "/dev/stdin" then "-" else path) with
    | .ok bytes => sources := sources ++ [(path, bytes)]
    | .error _ => pure ()
  let streams ← openWritten script
  let editor : Edit.Editor := {
    script, quiet := isGiven given 'n' || isGiven given '1' || isFirstSilent
    stop := if isGiven given 'z' then '\x00' else '\n'
    input := [], complete := false, files := sources }
  if isGiven given 'i' && files.isEmpty then fail 4 "no input files"
  if isGiven given 'i' || isGiven given 's' then
    let mut e := editor
    for file in if files.isEmpty then ["-"] else files do
      if e.ended.isNone then e ← editFile given streams e file
  else editJoined streams editor files

end JobLaunch.Rehearsal.Utility
