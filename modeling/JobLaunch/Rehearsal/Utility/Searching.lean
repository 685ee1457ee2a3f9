import JobLaunch.Rehearsal.Search
import JobLaunch.Rehearsal.Utility.Paths
import JobLaunch.Rehearsal.Utility.Reading

/-!
# Searching in files

* `Utility.searchOf` — the search that options ask for.
* `Utility.searchFile` — searches a file.
* `Utility.grep` — searches files.
-/

namespace JobLaunch.Rehearsal.Utility

def grepForms : List OptionForm :=
  [.flag 'E' "extended-regexp", .flag 'F' "fixed-strings", .flag 'G' "basic-regexp",
    .flag 'P' "perl-regexp", .taking 'e' "regexp", .taking 'f' "file", .flag 'i' "ignore-case",
    .flag 'y' "", .flag 'v' "invert-match", .flag 'w' "word-regexp", .flag 'x' "line-regexp",
    .flag 'c' "count", .taking 'm' "max-count", .flag 'o' "only-matching", .flag 'q' "quiet",
    .named '!' "silent" .none, .flag 's' "no-messages", .flag 'b' "byte-offset",
    .flag 'H' "with-filename", .flag 'h' "no-filename", .flag 'n' "line-number",
    .flag 'l' "files-with-matches", .flag 'L' "files-without-match", .flag 'a' "text",
    .taking 'A' "after-context", .taking 'B' "before-context",
    { letter := 'C', long := "context", arity := .required },
    .flag 'r' "recursive", .flag 'R' "dereference-recursive", .flag 'z' "null-data",
    .flag 'U' "binary", .flag 'u' "unix-byte-offsets", .flag 'Z' "null", .flag 'T' "initial-tab", .flag 'I' "",
    .taking 'd' "directories", .taking 'D' "devices", .named '%' "color" .optional,
    .named '%' "colour" .optional, .named '#' "line-buffered" .none,
    .named '+' "include" .required, .named '^' "exclude" .required,
    .named '~' "exclude-dir" .required, .named ':' "label" .required,
    .named '&' "binary-files" .required, .named '*' "group-separator" .required,
    .named '?' "no-group-separator" .none, .named '=' "no-ignore-case" .none] ++
  "0123456789".toList.map (.flag · "")

def literal (text : List Char) : Regex :=
  text.foldl (fun r c => .both r (.char c)) .empty

/-- The texts of expressions that options give, which stand on lines of their own. -/
def searchTexts : List OptionForm.Given → Option (List (List Char)) →
    Work (Option (List (List Char)))
  | [], texts => pure texts
  | (c, arg) :: rest, texts => do
    let arg := arg.getD ""
    let texts ←
      if c = 'e' then pure (some (texts.getD [] ++ arg.toList.splitOn '\n'))
      else if c = 'f' then
        match ← readInput arg with
        | .ok bytes =>
          let lines := (linesOf bytes).map fun l => Bytes.chars (withoutEnd l)
          pure (some (texts.getD [] ++ lines))
        | .error e => fail 2 (arg ++ ": " ++ e.reason)
      else pure texts
    searchTexts rest texts

def searchPatterns (style : Option Regex.Style) : List (List Char) → Work (List Regex)
  | [] => pure []
  | text :: rest => do
    let r ← match style with
      | none => pure (literal text)
      | some style =>
        match Regex.readNoting style (String.ofList text) with
        | .ok (r, s) => do
          if r.hasLooseKind then fail 2 Regex.looseKindText
          for warning in s.warnings do complain ("warning: " ++ warning)
          pure r
        | .error f => fail 2 f.message
    return r :: (← searchPatterns style rest)

/-- How expressions are written, if they are not meant as they stand. -/
def searchStyle (program : String) (given : List OptionForm.Given) : Option Regex.Style :=
  match (given.reverse.find? fun g => "EFGP".toList.contains g.1).map (·.1) with
  | some 'F' => none
  | some 'G' => some .basic
  | some _ => some .lenient
  | none =>
    if program = "egrep" then some .lenient
    else if program = "fgrep" then none
    else some .basic

def searchNumber (given : List OptionForm.Given) (c : Char) : Work (Option Nat) := do
  match argument? given c with
  | none => pure none
  | some text =>
    let cs := text.toList
    let digits := match cs with
      | '-' :: rest => if c = 'm' then rest else cs
      | _ => cs
    if digits.isEmpty || !digits.all Text.isDigit then
      if c = 'm' then fail 2 "invalid max count"
      else fail 2 (text ++ ": invalid context length argument")
    else
      -- A count below zero has no effect.
      pure (if digits.length < cs.length then none else some (Decimal.value digits))

def searchOf (given : List OptionForm.Given) : Work Search := do
  let has (c : Char) : Bool := isGiven given c
  let digits := (given.map (·.1)).filter Text.isDigit
  let context := (← searchNumber given 'C').or
    (if digits.isEmpty then none else some (Decimal.value digits))
  let cases := given.reverse.find? fun g => "iy=".toList.contains g.1
  let divider := match given.reverse.find? fun g => g.1 = '*' || g.1 = '?' with
    | some ('*', text) => text
    | some _ => none
    | none => some "--"
  let binary := (argument? given '&').getD "binary"
  return {
    patterns := [], folds := cases.any (·.1 ≠ '='), inverts := has 'v', wholeLine := has 'x'
    wholeWord := has 'w' && !has 'x', counts := has 'c', onlyMatches := has 'o', numbers := has 'n'
    places := has 'b', silent := has 'q' || has '!'
    names := (given.reverse.find? fun g => g.1 = 'l' || g.1 = 'L').map (·.1 = 'l')
    most := ← searchNumber given 'm', before := (← searchNumber given 'B').or context
    after := (← searchNumber given 'A').or context, divider
    stop := if has 'z' then 0 else lineFeed, zeros := has 'Z', tab := if has 'T' then some 0 else none
    takesAll := has 'a' || binary = "text"
    colors := (argument? given '%').any (["always", "yes", "force"].contains ·) }

def howToSearch {α : Type} : Work α := do
  say ("Usage: " ++ (← get).name ++ " [OPTION]... PATTERNS [FILE]...\n")
  advise
  leave 2

/-- What is done with directories, if what options say has a meaning. -/
def checked (given : List OptionForm.Given) : Work String := do
  if let some kind := argument? given '&' then
    if !(["binary", "text", "without-match"].contains kind) then fail 2 "unknown binary-files type"
  if isGiven given 'u' then complain "warning: --unix-byte-offsets (-u) is obsolete"
  let action := (argument? given 'd').getD "read"
  if !(["read", "recurse", "skip"].contains action) then
    let quoted := ["read", "recurse", "skip"].map fun t => "  - " ++ Quoting.typographic t ++ "\n"
    complain ("invalid argument " ++ Quoting.typographic action ++ " for " ++
      Quoting.typographic "--directories" ++ "\nValid arguments are:\n" ++
      String.ofList ("".intercalate quoted).toList.dropLast)
    say ("Usage: " ++ (← get).name ++ " [OPTION]... PATTERNS [FILE]...\n")
    advise
    leave 1
  pure action

/-! ## Files -/

def isNamed (patterns : List String) (name : String) : Bool :=
  patterns.any fun text =>
    let p := Script.Pattern.ofGlyphs (text.toList.map fun c => ⟨c, .literal⟩)
    let cs := name.toList
    p.accepts cs || (cs.zipIdx.any fun (c, i) => c = '/' && p.accepts (cs.drop (i + 1)))

structure SearchScope where
  included : List String
  excluded : List String
  excludedDirectories : List String
  followsLinks : Bool

def SearchScope.contains (s : SearchScope) (path : String) : Bool :=
  !isNamed s.excluded path && (s.included.isEmpty || isNamed s.included path)

def filesBelow (scope : SearchScope) : Nat → String → Work (List String)
  | 0, _ => pure []
  | n + 1, path => do
    match ← ask (.list path) with
    | .error _ => pure [path]
    | .ok names =>
      let mut all := []
      for name in names do
        let inner := pathIn path name
        match ← inspect? inner scope.followsLinks with
        | some info =>
          if info.node.isDirectory then
            if !isNamed scope.excludedDirectories name then
              all := all ++ (← filesBelow scope n inner)
          else if (info.node.content matches .regular _) && scope.contains inner then
            all := all ++ [inner]
        | none => pure ()
      pure all

/-- Searches a file. Tells how often something was found, or why it could not be read. -/
def searchFile (search : Search) (given : List OptionForm.Given) (title : Option String)
    (shownName : String) (begun : Bool) (stream : Nat) :
    Work (Except OsError Search.Progress) := do
  let size ← match ← ask (.inspectStream stream) with
    | .ok ⟨_, node, _⟩ => pure (if node.content matches .regular _ then node.size else Format.greatest)
    | .error _ => pure Format.greatest
  let width := if 0 < size then (Decimal.digits size).length else 0
  let search := { search with tab := search.tab.map fun _ => width }
  let skips := isGiven given 'I' || argument? given '&' = some "without-match"
  let start : Search.Progress × Bytes × Bool × Nat := ({ begun }, [], false, 0)
  let r ← readParts stream (fun s => !s.1.isOver) (fun (p, rest, hasZero, count) bytes => do
    -- Zeros show that it is no text.
    let hasZero := hasZero || (!search.takesAll && search.stop ≠ (0 : UInt8) && bytes.contains 0)
    let total := count + bytes.length
    if hasZero && skips && count = 0 then
      return ({ p with isOver := true }, [], hasZero, total)
    let bytes := if hasZero then bytes.map fun b => if b = 0 then lineFeed else b else bytes
    let all := linesBy search.stop (rest ++ bytes)
    let (whole, rest) := match all.getLast? with
      | some l => if l.getLast? = some search.stop then (all, []) else (all.dropLast, l)
      | none => ([], [])
    let p := { p with isHidden := p.isHidden || hasZero }
    let (out, p) := search.lines title (whole.map (withoutStop search.stop)) p []
    if !out.isEmpty then print out
    pure (p, rest, hasZero, total)) Routine.mostChunks start
  match r with
  | .error e => pure (.error e)
  | .ok (p, rest, _, total) =>
    -- What comes after the last line that counts is left to others.
    if stream = 0 && search.most.any (· ≤ p.found) && p.foundEnd < total then
      let _ ← ask (.goBack stream (total - p.foundEnd))
    let (out, p) :=
      if rest.isEmpty || p.isOver then ([], p) else search.lines title [rest] p []
    if !out.isEmpty then print out
    if (p.isHidden || p.isBroken) && search.showsLines && 0 < p.found then
      complain (shownName ++ ": binary file matches")
    pure (.ok p)

def grep (args : List String) : Work Unit := do
  let (given, operands) ← match OptionForm.read grepForms false args with
    | .ok r => pure r
    | .error f => do
      complain f.message
      howToSearch
  let has (c : Char) : Bool := isGiven given c
  let name := (← get).name
  let search ← searchOf given
  let action ← checked given
  let (texts, files) ← match ← searchTexts given none, operands with
    | some texts, files => pure (texts, files)
    | none, pattern :: files => pure (pattern.toList.splitOn '\n', files)
    | none, [] => howToSearch
  let patterns ← searchPatterns (searchStyle (lastName name) given) texts
  let search := { search with patterns }
  let isRecursive := has 'r' || has 'R' || action = "recurse"
  let all (c : Char) : List String := given.filterMap fun g => if g.1 = c then g.2 else none
  let scope : SearchScope := {
    included := all '+', excluded := all '^', excludedDirectories := all '~'
    followsLinks := has 'R' }
  let mut inputs : List String := []
  for file in if files.isEmpty then [if isRecursive then "." else "-"] else files do
    if isRecursive && (← isDirectory file) then
      if files.isEmpty || !isNamed scope.excludedDirectories file then
        let below ← filesBelow scope deepest file
        let dot := files.isEmpty
        inputs := inputs ++ below.map fun p => if dot then String.ofList (p.toList.drop 2) else p
    else inputs := inputs ++ [file]
  let titled : Bool := match given.reverse.find? fun g => g.1 = 'h' || g.1 = 'H' with
    | some (c, _) => c = 'H'
    | none => isRecursive || 1 < files.length
  let mut anyFound := false
  let mut anyError := false
  let mut begun := false
  let isBare := !search.wholeLine && !search.wholeWord
  let isVain := search.most = some 0 || (texts.isEmpty && !search.inverts) ||
    (texts = [[]] && search.inverts && isBare)
  if isVain && search.names ≠ some false then leave 1
  for file in inputs do
    if !(search.silent && anyFound) then
      match ← openInput file with
      | .error e =>
        if !has 's' then complain (file ++ ": " ++ e.reason)
        anyError := true
      | .ok stream =>
        let shownName := if file = "-" then (argument? given ':').getD "(standard input)" else file
        let title := bif titled then some shownName else none
        let isOwn ← if !search.showsLines || search.most.any (· < 2) then pure false
          else isSameFile stream 1
        let isDirectory ← match ← ask (.inspectStream stream) with
          | .ok ⟨_, node, _⟩ => pure node.isDirectory
          | .error _ => pure false
        let isSkipped := (action = "skip" && isDirectory) || (file ≠ "-" && !scope.contains file)
        if isOwn && !isSkipped then
          complain (shownName ++ ": input file is also the output")
          anyError := true
        let r ← if isOwn || isSkipped then pure (.ok {})
          else searchFile search given title shownName begun stream
        closeInput stream
        match r with
        | .error e =>
          if !has 's' then complain (file ++ ": " ++ e.reason)
          anyError := true
        | .ok p =>
          begun := begun || p.begun
          let isFound : Bool := 0 < p.found
          if isFound then anyFound := true
          if search.counts && !search.silent && search.names.isNone && !isSkipped then
            printLine ((title.map (search.titled · ':')).getD "" ++ Decimal.text p.found)
          if search.names = some isFound && !search.silent && !isSkipped then
            printText (search.painted "35" shownName ++ if search.zeros then "\x00" else "\n")
  setCode (if anyError && !(search.silent && anyFound) then 2 else if anyFound then 0 else 1)

end JobLaunch.Rehearsal.Utility
