import JobLaunch.Rehearsal.Calendar
import JobLaunch.Rehearsal.Patch
import JobLaunch.Rehearsal.Script.Pattern
import JobLaunch.Rehearsal.Utility.Paths
import JobLaunch.Rehearsal.Utility.Reading

/-!
# Comparing files

* `Utility.cmp` — the first bytes in which two files differ, or all of them.
* `Utility.diff` — what makes one file out of another one.
-/

namespace JobLaunch.Rehearsal.Utility

/-- Complains about the way in which it is used, tells how to learn more, and ends the utility. -/
def misusedComparison {α : Type} (text : String) : Work α := do
  complain text
  complain ("Try '" ++ (← get).name ++ " --help' for more information.")
  leave 2

def comparisonOptions (forms : List OptionForm) (args : List String) :
    Work (List OptionForm.Given × List String) := do
  match OptionForm.read forms false args with
  | .ok r => pure r
  | .error f => misusedComparison f.message

def plainlyQuoted (word : String) : String := "'" ++ word ++ "'"

/-! ## Bytes -/

def visibleByte (b : UInt8) : String :=
  if b = lineFeed then "^J" else Bytes.text (shownByte true b)

def printDifferences (width : Nat) (showsBytes : Bool) :
    Nat → Bytes → Bytes → Bool → Work Bool
  | place, a :: as, b :: bs, found => do
    if a ≠ b then
      let octal (b : UInt8) : String := spaced 3 (Nat.toDigits 8 b.toNat)
      let text := visibleByte a
      printLine (numberText width place ++ " " ++
        if showsBytes then
          octal a ++ " " ++ text ++ String.ofList (List.replicate (4 - text.length) ' ') ++ " " ++
            octal b ++ " " ++ visibleByte b
        else octal a ++ " " ++ octal b)
    printDifferences width showsBytes (place + 1) as bs (found || a ≠ b)
  | _, _, _, found => pure found
where
  spaced (width : Nat) (cs : List Char) : String :=
    String.ofList (List.replicate (width - cs.length) ' ' ++ cs)

def skippedBytes (texts : List (Nat × String)) : Work (Nat × Nat) := do
  let mut skipped := (0, 0)
  for (side, text) in texts do
    let number := if side = 0 then text.toList.takeWhile (· ≠ ':') else text.toList
    match basedCount (String.ofList number) with
    | .ok n =>
      skipped := if side = 0 then (max skipped.1 n, skipped.2) else (skipped.1, max skipped.2 n)
    | .error _ =>
      misusedComparison ("invalid --ignore-initial value " ++ plainlyQuoted text)
  pure skipped

def sayEnd (name : String) (isList : Bool) (shorter : Bytes) : Work Unit := do
  let lines := (shorter.filter (· = lineFeed)).length
  let place := if isList then ""
    else if shorter.getLast? = some lineFeed then ", line " ++ Decimal.text lines
    else ", in line " ++ Decimal.text (lines + 1)
  complain ("EOF on " ++ name ++
    if shorter.isEmpty then " which is empty"
    else " after byte " ++ Decimal.text shorter.length ++ place)

/-- Opens the files that are compared; they are not read if they are the same. -/
def openCompared (quiet : Bool) (files : List String) (skipped : Nat × Nat) :
    Work (List (Nat × Option FileInfo)) := do
  let mut opened := []
  for file in files do
    if opened.length = 1 && files.head? = some file && skipped.1 = skipped.2 then leave 0
    match ← openInput file with
    | .error e =>
      if quiet then leave 2
      fail 2 (file ++ ": " ++ e.reason)
    | .ok stream =>
      let info ← match ← ask (.inspectStream stream) with
        | .ok info => pure (some info)
        | .error _ => pure none
      opened := opened ++ [(stream, info)]
  pure opened

def cmp (args : List String) : Work Unit := do
  let (given, operands) ← comparisonOptions
    [.flag 'b' "print-bytes", .flag 'c' "print-chars", .taking 'i' "ignore-initial",
      .flag 'l' "verbose", .taking 'n' "bytes", .flag 's' "silent", .named '1' "quiet" .none] args
  let quiet := isGiven given 's' || isGiven given '1'
  let isList := isGiven given 'l'
  let showsBytes := isGiven given 'b' || isGiven given 'c'
  let initial := given.flatMap fun (c, arg) =>
    if c ≠ 'i' then [] else
      let (first, second) := (arg.getD "").toList.span (· ≠ ':')
      [(0, arg.getD ""), (1, String.ofList (if second.isEmpty then first else second.drop 1))]
  let skipped ← skippedBytes initial
  let mut most : Option Nat := none
  for (c, arg) in given do
    if c = 'n' then
      match basedCount (arg.getD "") with
      | .ok n => most := some (most.elim n (min n))
      | .error _ =>
        misusedComparison ("invalid --bytes value " ++ plainlyQuoted (arg.getD ""))
  if quiet && isList then misusedComparison "options -l and -s are incompatible"
  let (files, rest) ← match operands with
    | [] => misusedComparison ("missing operand after " ++
        plainlyQuoted (args.getLastD (← get).name))
    | [a] => pure ([a, "-"], [])
    | a :: b :: rest => pure ([a, b], rest)
  let more ← skippedBytes ((rest.take 2).zipIdx.map fun (text, i) => (i, text))
  let skipped := (max skipped.1 more.1, max skipped.2 more.2)
  if let extra :: _ := rest.drop 2 then
    misusedComparison ("extra operand " ++ plainlyQuoted extra)
  let opened ← openCompared quiet files skipped
  if let [(_, some a), (_, some b)] := opened then
    if a.id = b.id && skipped.1 = skipped.2 && (a.node.content matches .regular _) then leave 0
  let mut contents : List Bytes := []
  for (file, stream, _) in files.zip opened do
    match ← lift (Routine.readAll stream) with
    | .ok bytes => contents := contents ++ [bytes]
    | .error e => fail 2 (file ++ ": " ++ e.reason)
  let part (bytes : Bytes) (skipped : Nat) : Bytes :=
    match most with
    | some n => (bytes.drop skipped).take n
    | none => bytes.drop skipped
  let a := part (contents.getD 0 []) skipped.1
  let b := part (contents.getD 1 []) skipped.2
  let common := ((a.zip b).takeWhile fun (x, y) => x = y).length
  let shorter := if b.length < a.length then b else a
  let shorterName := files.getD (if b.length < a.length then 1 else 0) ""
  if isList then
    let sizes := (opened.zip [skipped.1, skipped.2]).filterMap fun ((_, info), skipped) =>
      match info with
      | some info =>
        if info.node.content matches .regular _ then some (info.node.size - skipped) else none
      | none => none
    let bound := sizes.foldl min (most.getD Format.greatest)
    let width := (Decimal.digits bound).length
    if ← printDifferences width showsBytes 1 a b false then setCode 1
    if a.length ≠ b.length then
      sayEnd shorterName true shorter
      setCode 1
  else if common < shorter.length then
    if !quiet then
      let x := a.getD common 0
      let y := b.getD common 0
      let octal (b : UInt8) : String := String.ofList (Nat.toDigits 8 b.toNat)
      let line := ((a.take common).filter (· = lineFeed)).length + 1
      let spaced (text : String) : String :=
        String.ofList (List.replicate (3 - text.length) ' ') ++ text
      printLine (files.getD 0 "" ++ " " ++ files.getD 1 "" ++ " differ: " ++
        (if showsBytes then "byte " else "char ") ++ Decimal.text (common + 1) ++ ", line " ++
        Decimal.text line ++
        if showsBytes then
          " is " ++ spaced (octal x) ++ " " ++ visibleByte x ++ " " ++ spaced (octal y) ++ " " ++
            visibleByte y
        else "")
    setCode 1
  else if a.length ≠ b.length then
    if !quiet then sayEnd shorterName false shorter
    setCode 1

/-! ## Lines -/

def diffForms : List OptionForm :=
  [.flag 'a' "text", .flag 'b' "ignore-space-change", .flag 'B' "ignore-blank-lines",
    { letter := 'c', long := "" }, .taking 'C' "", .flag 'd' "minimal", .flag 'e' "ed",
    .flag 'E' "ignore-tab-expansion", .flag 'H' "speed-large-files", .flag 'i' "ignore-case",
    .taking 'L' "label", .flag 'n' "rcs", .flag 'N' "new-file", .flag 'p' "show-c-function",
    .flag 'P' "unidirectional-new-file", .flag 'q' "brief", .flag 'r' "recursive",
    .flag 's' "report-identical-files", .taking 'S' "starting-file", .flag 't' "expand-tabs",
    .flag 'T' "initial-tab", .flag 'u' "", .taking 'U' "", .flag 'w' "ignore-all-space",
    .taking 'x' "exclude", .flag 'Z' "ignore-trailing-space", .named '*' "normal" .none,
    .named '=' "context" .optional, .named '+' "unified" .optional,
    .named '%' "strip-trailing-cr" .none, .named '!' "no-dereference" .none,
    .named '&' "color" .optional] ++
  "0123456789".toList.map (.flag · "")

/-- How changes are shown. -/
inductive PatchStyle where
  | normal
  | unified
  | context
  | commands
  | counted
  deriving DecidableEq, Inhabited

/-- What is asked of `diff`. -/
structure DiffChoice where
  rules : LineRules
  style : PatchStyle
  around : Nat
  labels : List String
  excluded : List String
  words : String
  has : Char → Bool

def patchStyle? : Char → Option PatchStyle
  | 'c' | 'C' | '=' => some .context
  | 'u' | 'U' | '+' => some .unified
  | 'e' => some .commands
  | 'n' => some .counted
  | '*' => some .normal
  | _ => none

def linesAround (given : List OptionForm.Given) : Work Nat := do
  let mut around : Option Nat := none
  let mut isExplicit := false
  for (c, arg) in given do
    match c, arg with
    | 'c', _ | 'u', _ => around := some (around.elim 3 (max 3))
    | 'C', some text | 'U', some text | '=', some text | '+', some text =>
      if text.isEmpty || !text.toList.all Text.isDigit then
        misusedComparison ("invalid context length " ++ plainlyQuoted text)
      let n := Decimal.value text.toList
      around := some (around.elim n (max n))
      isExplicit := true
    | '=', none | '+', none =>
      around := some (around.elim 3 (max 3))
      isExplicit := true
    | _, _ => pure ()
  let digits := (given.map (·.1)).filter Text.isDigit
  if !digits.isEmpty then
    let n := Decimal.value digits
    if around.any fun k => k < n || (n < k && !isExplicit) then around := some n
  pure (around.getD 0)

def diffChoice (given : List OptionForm.Given) (words : List String) : Work DiffChoice := do
  let has (c : Char) : Bool := isGiven given c
  let styles := given.filterMap fun (c, _) => patchStyle? c
  if styles.any (some · ≠ styles.head?) then misusedComparison "conflicting output style options"
  let texts (c : Char) : List String := given.filterMap fun (d, arg) => if d = c then arg else none
  let style := styles.headD .normal
  let around ← linesAround given
  return {
    rules := {
      ignoresCase := has 'i',
      blanks := if has 'w' then .all else if has 'b' then .amount else .none,
      trimsEnd := has 'Z', expandsTabs := has 'E',
      countsEnd := style ≠ .commands, ignoresEmpty := has 'B' },
    style, around := if style = .unified || style = .context then around else 0,
    labels := texts 'L', excluded := texts 'x',
    words := "".intercalate (words.map fun w => " " ++ Quoting.shellIfNeeded w), has }

/-- A file that is compared, if it is there. -/
structure DiffSide where
  name : String
  info : Option FileInfo

namespace DiffSide

def isDirectory (s : DiffSide) : Bool := s.info.any (·.node.isDirectory)

def kind (s : DiffSide) : String :=
  match s.info with
  | some ⟨_, node, _⟩ =>
    match node.content with
    | .directory .. => "directory"
    | .symlink _ => "symbolic link"
    | .device _ => "character special file"
    | .regular [] => "regular empty file"
    | _ => "regular file"
  | none => "regular file"

def title (s : DiffSide) : String :=
  let isSpecial (c : Char) : Bool := c ≤ ' ' || c = '"' || c = '\\'
  if s.name.toList.any isSpecial then
    "\"" ++ String.ofList (s.name.toList.flatMap fun c =>
      if c = '"' || c = '\\' then ['\\', c] else [c]) ++ "\""
  else s.name

def time (s : DiffSide) (isShort : Bool) : String :=
  match s.info with
  | none => if isShort then "Thu Jan  1 00:00:00 1970" else "1970-01-01 00:00:00.000000000 +0000"
  | some info =>
    Calendar.fill true (Calendar.atClock info.node.changed)
      (if isShort then "%a %b %e %H:%M:%S %Y" else "%Y-%m-%d %H:%M:%S.%N %z")

def named (name : String) : Work (Except OsError DiffSide) := do
  let r ← if name = "-" then ask (.inspectStream 0) else ask (.inspect name true)
  match r with
  | .ok info => pure (.ok ⟨name, some info⟩)
  | .error e => pure (.error e)

def read (s : DiffSide) : Work (Except OsError Bytes) :=
  if s.info.isNone then pure (.ok []) else readInput s.name

end DiffSide

def diffTitle (choice : DiffChoice) (a b : DiffSide) : String :=
  "diff" ++ choice.words ++ " " ++ (choice.labels[0]?.getD a.title) ++ " " ++
    (choice.labels[1]?.getD b.title) ++ "\n"

/-- Prints the changes between lines; tells whether there are any. -/
def printPatch (choice : DiffChoice) (nested : Bool) (a b : DiffSide) (old new : Bytes) :
    Work Bool := do
  let lines (bytes : Bytes) : List Bytes :=
    (linesOf bytes).map fun line =>
      if choice.has '%' && line.getLast? = some lineFeed && line.dropLast.getLast? = some 13 then
        line.dropLast.dropLast ++ [lineFeed]
      else line
  let around := choice.around
  let p := Patch.of choice.rules around (lines old) (lines new)
  let hunks := p.hunks choice.rules around
  if hunks.isEmpty then return false
  let label (i : Nat) (s : DiffSide) : String :=
    match choice.labels[i]? with
    | some text => text
    | none => s.title ++ "\t" ++ s.time (choice.style = .context)
  if choice.has 'q' then
    printText ("Files " ++ choice.labels[0]?.getD a.name ++ " and " ++
      choice.labels[1]?.getD b.name ++ " differ\n")
    return true
  if nested then printText (diffTitle choice a b)
  match choice.style with
  | .normal => for hunk in hunks do print (p.normal hunk)
  | .unified =>
    printText ("--- " ++ label 0 a ++ "\n+++ " ++ label 1 b ++ "\n")
    for hunk in hunks do print (p.unified around hunk)
  | .context =>
    printText ("*** " ++ label 0 a ++ "\n--- " ++ label 1 b ++ "\n")
    for hunk in hunks do print (p.context around hunk)
  | .commands => print (p.commands hunks)
  | .counted => print (p.counted hunks)
  return true

/-- Compares two files that are no directories. Tells the exit code. -/
def diffFiles (choice : DiffChoice) (nested : Bool) (a b : DiffSide) : Work Nat := do
  let nameOf (i : Nat) (s : DiffSide) : String := choice.labels[i]?.getD s.name
  let readSide (s : DiffSide) : Work (Option Bytes) := do
    match ← s.read with
    | .ok bytes => pure (some bytes)
    | .error e =>
      complain (s.name ++ ": " ++ e.reason)
      pure none
  let isSame : Bool := match a.info, b.info with
    | some x, some y => x.id == y.id
    | _, _ => false
  let code ← if isSame then pure 0 else do
    match ← readSide a, ← readSide b with
    | some old, some new =>
      let isBinary (bytes : Bytes) : Bool := (bytes.take 4096).contains 0
      if (isBinary old || isBinary new) && !choice.has 'a' then
        if old = new then pure 0
        else
          printText ((if choice.has 'q' then "Files " else "Binary files ") ++ nameOf 0 a ++
            " and " ++ nameOf 1 b ++ " differ\n")
          pure 1
      else do
        let differs ← printPatch choice nested a b old new
        let unended := if choice.style ≠ .commands || choice.has 'q' then []
          else [(a, old), (b, new)].filter fun (_, bytes) =>
            !bytes.isEmpty && bytes.getLast? ≠ some lineFeed
        for (s, _) in unended do complain (s.name ++ ": No newline at end of file\n")
        pure (if !unended.isEmpty then 2 else if differs then 1 else 0)
    | _, _ => pure 2
  if code = 0 && choice.has 's' then
    printText ("Files " ++ nameOf 0 a ++ " and " ++ nameOf 1 b ++ " are identical\n")
  pure code

def comparedNames (choice : DiffChoice) (s : DiffSide) : Work (List String) := do
  if s.info.isNone then return []
  match ← ask (.list s.name) with
  | .ok names =>
    return names.filter fun name =>
      !choice.excluded.any fun text =>
        (Script.Pattern.ofGlyphs (text.toList.map fun c => ⟨c, .literal⟩)).accepts name.toList
  | .error e =>
    complain (s.name ++ ": " ++ e.reason)
    return []

def diffTrees (choice : DiffChoice) : Nat → DiffSide → DiffSide → Work Nat
  | 0, _, _ => pure 0
  | n + 1, a, b => do
    let names ← comparedNames choice a
    let names' ← comparedNames choice b
    let all := sortedNames (names ++ names'.filter (!names.contains ·))
    let mut code := 0
    for name in all do
      let side (s : DiffSide) (names : List String) : Work DiffSide := do
        let path := pathIn s.name name
        if names.contains name then return ⟨path, ← inspect? path true⟩
        else return ⟨path, none⟩
      let x ← side a names
      let y ← side b names'
      let isAbsent := x.info.isNone || y.info.isNone
      let fills := choice.has 'N' || (choice.has 'P' && x.info.isNone)
      let result ←
        if isAbsent && !fills then do
          let directory := if x.info.isNone then b.name else a.name
          printText ("Only in " ++ directory ++ ": " ++ name ++ "\n")
          pure 1
        else if (x.isDirectory || x.info.isNone) && (y.isDirectory || y.info.isNone) &&
            (x.isDirectory || y.isDirectory) then
          if choice.has 'r' then diffTrees choice n x y
          else if isAbsent then do
            let directory := if x.info.isNone then b.name else a.name
            printText ("Only in " ++ directory ++ ": " ++ name ++ "\n")
            pure 1
          else do
            printText ("Common subdirectories: " ++ x.name ++ " and " ++ y.name ++ "\n")
            pure 0
        else if x.isDirectory || y.isDirectory then do
          printText ("File " ++ choice.labels[0]?.getD x.name ++ " is a " ++ x.kind ++
            " while file " ++ choice.labels[1]?.getD y.name ++ " is a " ++ y.kind ++ "\n")
          pure 1
        else diffFiles choice true x y
      code := max code result
    pure code

/-- Compares two files or directories by name. Tells the exit code. -/
def diffNamed (choice : DiffChoice) (a b : String) : Work Nat := do
  match ← DiffSide.named a, ← DiffSide.named b with
  | .ok x, .ok y =>
    if x.isDirectory && y.isDirectory then diffTrees choice deepest x y
    else if x.isDirectory || y.isDirectory then
      if a = "-" || b = "-" then fail 2 "cannot compare '-' to a directory"
      let (file, directory) := if x.isDirectory then (b, a) else (a, b)
      let base := String.ofList (file.toList.reverse.takeWhile (· ≠ '/')).reverse
      let inner := pathIn directory base
      match ← DiffSide.named inner with
      | .error e =>
        complain (inner ++ ": " ++ e.reason)
        pure 2
      | .ok z => if x.isDirectory then diffFiles choice false z y else diffFiles choice false x z
    else diffFiles choice false x y
  | x, y =>
    match x, y with
    | .error .notFound, .ok y =>
      if (choice.has 'N' || choice.has 'P') && !y.isDirectory then
        return ← diffFiles choice false ⟨a, none⟩ y
    | .ok x, .error .notFound =>
      if choice.has 'N' && !x.isDirectory then
        return ← diffFiles choice false x ⟨b, none⟩
    | _, _ => pure ()
    for (name, side) in [(a, x), (b, y)] do
      if let .error e := side then complain (name ++ ": " ++ e.reason)
    pure 2

def diff (args : List String) : Work Unit := do
  let (given, operands) ← comparisonOptions diffForms args
  let words := args.filter fun word => !operands.contains word
  let choice ← diffChoice given words
  match operands with
  | [a, b] => setCode (← diffNamed choice a b)
  | _ :: _ :: extra :: _ => misusedComparison ("extra operand " ++ plainlyQuoted extra)
  | _ => misusedComparison ("missing operand after " ++
      plainlyQuoted (args.getLastD (← get).name))

end JobLaunch.Rehearsal.Utility
