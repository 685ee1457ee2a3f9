import JobLaunch.Rehearsal.Utility.Options

/-!
# Paths

* `Utility.lastName`, `Utility.directoryPart`, `Utility.pathIn` — the parts of paths.
* `Utility.inspect?`, `Utility.note`, `Utility.agrees` — what utilities do about files.
* `Utility.realPath` — a path without links; `Utility.readlink`, `Utility.realpath` print it.
* `Utility.baseName`, `Utility.directoryName`, `Utility.printDirectory` — print parts of paths.
-/

namespace JobLaunch.Rehearsal.Utility

/-! ## Parts -/

def isAbsolute (path : String) : Bool := path.toList.head? == some '/'

def withoutSlashes (cs : List Char) : List Char := (cs.reverse.dropWhile (· == '/')).reverse

def lastName (path : String) : String :=
  let cs := withoutSlashes path.toList
  if cs.isEmpty then if path.isEmpty then "" else "/"
  else String.ofList ((cs.reverse.takeWhile (· ≠ '/')).reverse)

def withoutEnding (name ending : String) : String :=
  let cs := name.toList
  let e := ending.toList
  if e.isSuffixOf cs && e.length < cs.length then String.ofList (cs.take (cs.length - e.length))
  else name

def directoryPart (path : String) : String :=
  let cs := withoutSlashes path.toList
  let directory := (cs.reverse.dropWhile (· ≠ '/')).reverse
  let shorter := withoutSlashes directory
  if !shorter.isEmpty then String.ofList shorter
  else if directory.isEmpty && !(cs.isEmpty && !path.isEmpty) then "." else "/"

def pathIn (directory name : String) : String :=
  if directory.isEmpty || directory.toList.getLast? == some '/' then directory ++ name
  else directory ++ "/" ++ name

def ancestors (path : String) : List String :=
  let start := if isAbsolute path then "/" else ""
  (Files.names path).foldl (fun (done : List String × String) name =>
    let next := if done.2.isEmpty || done.2 = "/" then done.2 ++ name else done.2 ++ "/" ++ name
    (done.1 ++ [next], next)) (([] : List String), start) |>.1

def deepest : Nat := 4096

/-! ## Questions -/

def inspect? (path : String) (follow : Bool) : Work (Option FileInfo) := do
  match ← ask (.inspect path follow) with
  | .ok info => pure (some info)
  | .error _ => pure none

def isDirectory (path : String) : Work Bool := do
  return (← inspect? path true).any (·.node.isDirectory)

def namesIn (path : String) : Work (List String) := do
  match ← ask (.list path) with
  | .ok names => pure names
  | .error _ => pure []

def sortedNames (names : List String) : List String := names.mergeSort fun a b => !(b < a)

def note (text : String) : Work Unit := do
  complain text
  setCode 1

/-- Reads a line of the input, byte by byte, so that others find what follows. The bytes are
reversed. -/
def answerWithin : Nat → Bytes → Work Bytes
  | 0, done => pure done
  | n + 1, done => do
    match ← ask (.read 0 1) with
    | .ok [b] => if b = 10 then pure done else answerWithin n (b :: done)
    | _ => pure done

/-- Asks a question, and tells whether the answer begins like a yes. -/
def confirm (question : String) : Work Bool := do
  say ((← get).name ++ ": " ++ question ++ "? ")
  let answer ← answerWithin 65536 []
  return answer.getLast? = some 121 || answer.getLast? = some 89

/-- Asks a question if that is wanted, and tells whether nothing speaks against going on. -/
def agrees (asks : Bool) (question : String) : Work Bool :=
  if asks then confirm question else pure true

def currentMask : Work Nat := do
  let mask : Nat ← ask (.setMask 0)
  let _ ← ask (.setMask mask)
  pure mask

def fileKind (node : FileNode) : String :=
  match node.content with
  | .regular [] => "regular empty file"
  | .directory .. => "directory"
  | .symlink _ => "symbolic link"
  | .device _ => "character special file"
  | _ => "regular file"

/-! ## Paths without links -/

/-- How many names of a path may be missing. -/
inductive MayMiss where
  | none
  | last
  | all
  deriving DecidableEq, Inhabited

/-- The names of a path without links, after some that have been walked; the last of them comes
first. Links stay as they are if they are not to be followed. -/
def walkNames (missing : MayMiss) (follows : Bool) :
    Nat → Nat → List String → List String → Work (Except OsError (List String))
  | 0, _, _, _ => pure (.error .linkLoop)
  | n + 1, links, done, names => do
    match names with
    | [] => pure (.ok done.reverse)
    | "." :: rest => walkNames missing follows n links done rest
    | ".." :: rest => walkNames missing follows n links done.tail rest
    | name :: rest =>
      let goOn : Work (Except OsError (List String)) :=
        walkNames missing follows n links (name :: done) rest
      match ← ask (.inspect ("/" ++ "/".intercalate (name :: done).reverse) (!follows)) with
      | .error e =>
        if missing = .all then goOn
        else if e = .notFound && missing = .last && rest.all (· = ".") then goOn
        else pure (.error e)
      | .ok ⟨_, node, _⟩ =>
        match node.content with
        | .symlink target =>
          match links with
          | 0 => if missing = .all then goOn else pure (.error .linkLoop)
          | links + 1 =>
            walkNames missing follows n links (if isAbsolute target then [] else done)
              (Files.names target ++ rest)
        | .directory .. => goOn
        | _ =>
          if rest.isEmpty || missing = .all then goOn else pure (.error .notADirectory)

def realPath (path : String) (missing : MayMiss) (follows : Bool := true) :
    Work (Except OsError String) := do
  if path.isEmpty then pure (.error .notFound)
  else
    let here : String ← ask .directory
    let whole := if isAbsolute path then path else here ++ "/" ++ path
    match ← walkNames missing follows 4096 40 [] (Files.names whole) with
    | .error e => pure (.error e)
    | .ok names =>
      let text := "/" ++ "/".intercalate names
      -- A slash at the end is only right after a directory.
      if Files.endsInSlash path && missing ≠ .all &&
          (← inspect? text true).any (!·.node.isDirectory) then
        pure (.error .notADirectory)
      else pure (.ok text)

def isBelow (path upper : String) : Bool :=
  path = upper || (pathIn upper "").toList.isPrefixOf path.toList

def relativePath (path start : String) : String :=
  let go := commonNames (Files.names path) (Files.names start)
  let up := go.2.map fun _ => ".."
  let names := up ++ go.1
  if names.isEmpty then "." else "/".intercalate names
where
  commonNames : List String → List String → List String × List String
    | a :: as, b :: bs => if a = b then commonNames as bs else (a :: as, b :: bs)
    | as, bs => (as, bs)

def readlink (args : List String) : Work Unit := do
  let (given, operands) ← options
    [.flag 'f' "canonicalize", .flag 'e' "canonicalize-existing", .flag 'm' "canonicalize-missing",
      .flag 'n' "no-newline", .flag 'q' "quiet", .flag 's' "silent", .flag 'v' "verbose",
      .flag 'z' "zero"] false 1 args
  if operands.isEmpty then misused 1 "missing operand"
  let isSingle := isGiven given 'n' && operands.length = 1
  if isGiven given 'n' && !isSingle then
    complain "ignoring --no-newline with multiple arguments"
  let lineEnd := if isSingle then "" else if isGiven given 'z' then "\x00" else "\n"
  let isLoud := (given.reverse.find? fun g => "qsv".toList.contains g.1).any (·.1 = 'v')
  let way := (given.reverse.find? fun g => "fem".toList.contains g.1).map (·.1)
  for path in operands do
    let r ← match way with
      | some 'f' => realPath path .last
      | some 'e' => realPath path .none
      | some _ => realPath path .all
      | none => ask (.readLink path)
    match r with
    | .ok text => printText (text ++ lineEnd)
    | .error e =>
      if isLoud then complain (Quoting.shellIfNeeded path ++ ": " ++ e.reason)
      setCode 1

def realpath (args : List String) : Work Unit := do
  let (given, operands) ← options
    [.flag 'e' "canonicalize-existing", .flag 'm' "canonicalize-missing", .flag 'q' "quiet",
      .flag 's' "no-symlinks", .named 'S' "strip" .none, .flag 'z' "zero", .flag 'L' "logical",
      .flag 'P' "physical", .named 't' "relative-to" .required,
      .named 'b' "relative-base" .required] false 1 args
  if operands.isEmpty then misused 1 "missing operand"
  let missing : MayMiss := match given.reverse.find? fun g => g.1 = 'e' || g.1 = 'm' with
    | some ('e', _) => .none
    | some _ => .all
    | none => .last
  -- The last of these options tells whether names that go up are taken before links.
  let way := (given.reverse.find? fun g => "sSLP".toList.contains g.1).map (·.1)
  let resolve (path : String) : Work (Except OsError String) := do
    match way with
    | some 's' | some 'S' => realPath path missing false
    | some 'L' =>
      match ← realPath path missing false with
      | .ok plain => realPath plain missing
      | .error e => pure (.error e)
    | _ => realPath path missing
  let directory (text : String) : Work String := do
    match ← resolve text with
    | .ok path =>
      if (missing matches .none) && !(← isDirectory path) then
        fail 1 (Quoting.shellIfNeeded text ++ ": " ++ OsError.notADirectory.reason)
      pure path
    | .error e => fail 1 (Quoting.shellIfNeeded text ++ ": " ++ e.reason)
  let start ← (argument? given 't').mapM directory
  let base ← (argument? given 'b').mapM directory
  let start := match start, base with
    | some s, some b => if isBelow s b then some s else none
    | some s, none => some s
    | none, b => b
  let base := if start.isNone then none else base
  for path in operands do
    match ← resolve path with
    | .ok text =>
      let shown := match start with
        | some s => if base.all (isBelow text) then relativePath text s else text
        | none => text
      printText (shown ++ if isGiven given 'z' then "\x00" else "\n")
    | .error e =>
      if !isGiven given 'q' then
        complain ((if path.isEmpty then "''" else Quoting.shellIfNeeded path) ++ ": " ++ e.reason)
      setCode 1

/-! ## Printing parts -/

def baseName (args : List String) : Work Unit := do
  let (given, operands) ← options
    [.flag 'a' "multiple", .taking 's' "suffix", .flag 'z' "zero"] true 1 args
  let ending := argument? given 's'
  let isMultiple := isGiven given 'a' || ending.isSome
  let lineEnd := if isGiven given 'z' then "\x00" else "\n"
  match operands with
  | [] => misused 1 "missing operand"
  | path :: rest =>
    if isMultiple then
      for p in operands do
        printText (withoutEnding (lastName p) (ending.getD "") ++ lineEnd)
    else match rest with
      | [] => printText (lastName path ++ lineEnd)
      | [e] => printText (withoutEnding (lastName path) e ++ lineEnd)
      | _ :: extra :: _ => misused 1 ("extra operand " ++ Quoting.typographic extra)

def directoryName (args : List String) : Work Unit := do
  let (given, operands) ← options [.flag 'z' "zero"] true 1 args
  if operands.isEmpty then misused 1 "missing operand"
  for p in operands do
    printText (directoryPart p ++ if isGiven given 'z' then "\x00" else "\n")

def printDirectory (args : List String) : Work Unit := do
  let (given, operands) ← options [.flag 'L' "logical", .flag 'P' "physical"] true 1 args
  if !operands.isEmpty then complain "ignoring non-option arguments"
  let physical : String ← ask .directory
  let isLogical := (given.getLast?.map (·.1)) = some 'L'
  let known := (← get).environment.lookup "PWD"
  let here ← match if isLogical then known else none with
    | some p => do
      match ← ask (.inspect p true), ← ask (.inspect "." true) with
      | .ok a, .ok b => pure (if a.id = b.id && p.toList.head? == some '/' then p else physical)
      | _, _ => pure physical
    | none => pure physical
  printLine here

end JobLaunch.Rehearsal.Utility
