import JobLaunch.Rehearsal.Calendar
import JobLaunch.Rehearsal.LineOrder
import JobLaunch.Rehearsal.Permission
import JobLaunch.Rehearsal.Script.Pattern
import JobLaunch.Rehearsal.Utility.Paths
import JobLaunch.Rehearsal.Utility.Reading

/-!
# Lists of files

* `ListPlan` — which files are listed, in which order, and what is told of them.
* `ListPlan.sorted`, `ListPlan.written` — files in their order, and as they are written.
* `Utility.ls` — lists files and directories.
-/

namespace JobLaunch.Rehearsal

open Utility

/-! ## Plans -/

/-- How names are laid out. -/
inductive ListLayout where
  | lines
  | long
  | columns
  | across
  | commas
  deriving DecidableEq, Inhabited

/-- Which names with a point at their start are listed. -/
inductive HiddenNames where
  | none
  | most
  | all
  deriving DecidableEq, Inhabited

inductive ListOrder where
  | name
  | size
  | time
  | ending
  | version
  | width
  | none
  deriving DecidableEq, Inhabited

/-- Which kinds of files get a sign behind their names. -/
inductive ListSigns where
  | none
  | directories
  | kinds
  | all
  deriving DecidableEq, Inhabited

inductive NameQuoting where
  | plain
  | shellIfNeeded
  | shell
  | escapes
  | text
  deriving DecidableEq, Inhabited

/-- In which links are seen as what they lead to. -/
inductive ListLinks where
  | never
  | toDirectories
  | operands
  | always
  deriving DecidableEq, Inhabited

structure ListPlan where
  layout : ListLayout := .lines
  hidden : HiddenNames := .none
  order : ListOrder := .name
  isReversed : Bool := false
  directoriesFirst : Bool := false
  signs : ListSigns := .none
  quoting : NameQuoting := .plain
  hidesControls : Bool := false
  links : ListLinks := .toDirectories
  isDeep : Bool := false
  seesDirectories : Bool := false
  showsNumber : Bool := false
  showsBlocks : Bool := false
  showsOwner : Bool := true
  showsGroup : Bool := true
  showsAuthor : Bool := false
  isNumeric : Bool := false
  units : Option Nat := none
  times : String × String := ("%b %e  %Y", "%b %e %H:%M")
  ignored : List Script.Pattern := []
  unseen : List Script.Pattern := []
  width : Nat := 80
  tab : Nat := 8
  stop : Char := '\n'
  deriving Inhabited

structure Listed where
  name : String
  info : FileInfo
  target : Option FileNode := none
  deriving Inhabited

namespace ListPlan

/-! ## Order -/

def compareTexts (a b : String) : Ordering :=
  compareBytes (Bytes.ofText a) (Bytes.ofText b)

def endingOf (name : String) : String :=
  let cs := name.toList.reverse.takeWhile (· ≠ '.')
  if cs.length < name.length then String.ofList ('.' :: cs.reverse) else ""

def compare (p : ListPlan) (a b : Listed) : Ordering :=
  let byName := compareTexts a.name b.name
  match p.order with
  | .name | .none => byName
  | .size => (Ord.compare b.info.node.size a.info.node.size).then byName
  | .time => (Ord.compare b.info.node.changed a.info.node.changed).then byName
  | .ending => (compareTexts (endingOf a.name) (endingOf b.name)).then byName
  | .version =>
    (LineOrder.compareVersions (Bytes.ofText a.name) (Bytes.ofText b.name)).then byName
  | .width => (Ord.compare a.name.length b.name.length).then byName

def leadsToDirectory (f : Listed) : Bool :=
  f.info.node.isDirectory || f.target.any (·.isDirectory)

def sorted (p : ListPlan) (files : List Listed) : List Listed :=
  if p.order = .none then files
  else
    let before (a b : Listed) : Bool :=
      if p.directoriesFirst && leadsToDirectory a != leadsToDirectory b then leadsToDirectory a
      else if p.isReversed then p.compare b a ≠ .gt else p.compare a b ≠ .gt
    files.mergeSort before

/-! ## Parts -/

def quotientUp (n d : Nat) : Nat := (n + d - 1) / d

def sizeWithin (base : Nat) (size : Nat) : Nat → Nat → List Char → String
  | 0, _, _ => Decimal.text size
  | _, _, [] => Decimal.text size
  | n + 1, unit, letter :: letters =>
    let tenths := quotientUp (size * 10) unit
    let whole := quotientUp size unit
    let named (text : List Char) : String := String.ofList (text ++ [letter])
    if tenths < 100 then
      named (Decimal.digits (tenths / 10) ++ '.' :: Decimal.digits (tenths % 10))
    else if whole < base then named (Decimal.digits whole)
    else sizeWithin base size n (unit * base) letters

def sizeText (units : Option Nat) (size : Nat) : String :=
  match units with
  | none => Decimal.text size
  | some base =>
    if size < base then Decimal.text size
    else sizeWithin base size 8 base
      (if base = 1000 then "kMGTPEZY".toList else "KMGTPEZY".toList)

def blockText (p : ListPlan) (node : FileNode) : String :=
  if p.units.isSome then sizeText p.units (node.blocks * 1024) else Decimal.text node.blocks

def escapedChar (quotes : Bool) (c : Char) : List Char :=
  if c = '\\' then ['\\', '\\']
  else if c = '"' && quotes then ['\\', '"']
  else if c = ' ' && !quotes then ['\\', ' ']
  else if Quoting.isHidden c then Quoting.escaped c
  else [c]

def nameText (p : ListPlan) (name : String) : String :=
  let shown := match p.quoting with
    | .plain => name
    | .shellIfNeeded => Quoting.shellIfNeeded name
    | .shell => Quoting.shell name
    | .escapes => String.ofList (name.toList.flatMap (escapedChar false))
    | .text => "\"" ++ String.ofList (name.toList.flatMap (escapedChar true)) ++ "\""
  if p.hidesControls then
    String.ofList (shown.toList.map fun c => if Quoting.isHidden c then '?' else c)
  else shown

def sign (p : ListPlan) (node : FileNode) : String :=
  match p.signs with
  | .none => ""
  | .directories => if node.isDirectory then "/" else ""
  | signs =>
    match node.content with
    | .directory .. => "/"
    | .symlink _ => "@"
    | .device _ => ""
    | _ => if signs = .all && node.isExecutable then "*" else ""

def right (width : Nat) (text : String) : String :=
  String.ofList (List.replicate (width - text.length) ' ') ++ text

def left (width : Nat) (text : String) : String :=
  text ++ String.ofList (List.replicate (width - text.length) ' ')

def widest (texts : List String) : Nat := texts.foldl (fun w t => max w t.length) 0

def frills (p : ListPlan) (numberWidth blockWidth : Nat) (f : Listed) : String :=
  (if p.showsNumber then right numberWidth (Decimal.text (f.info.id + 1)) ++ " " else "") ++
    (if p.showsBlocks then right blockWidth (p.blockText f.info.node) ++ " " else "")

def halfYear : Int := 15778476000000

def timeText (p : ListPlan) (now : Int) (node : FileNode) : String :=
  let isRecent := now - halfYear < node.changed && node.changed ≤ now
  Calendar.fill true (Calendar.atClock node.changed) (if isRecent then p.times.2 else p.times.1)

def longLines (p : ListPlan) (now : Int) (start : Listed → String) (files : List Listed) :
    List String :=
  let size (f : Listed) : String :=
    match f.info.node.content with
    | .device _ => "1, " ++ right 3 "3"
    | _ => sizeText p.units f.info.node.size
  let linkWidth := widest (files.map fun f => Decimal.text f.info.links)
  let sizeWidth := widest (files.map size)
  let user := if p.isNumeric then "0" else "root"
  files.map fun f =>
    let name := p.nameText f.name
    let shown := match f.info.node.content with
      | .symlink target =>
        name ++ " -> " ++ p.nameText target ++ (f.target.map p.sign).getD ""
      | _ => name ++ p.sign f.info.node
    start f ++ Mode.ofFile f.info.node ++ " " ++ right linkWidth (Decimal.text f.info.links) ++
      " " ++ (if p.showsOwner then user ++ " " else "") ++
      (if p.showsGroup then user ++ " " else "") ++ (if p.showsAuthor then user ++ " " else "") ++
      right sizeWidth (size f) ++ " " ++ p.timeText now f.info.node ++ " " ++ shown

/-! ## Columns -/

def columnWidths (down : Bool) (lengths : List Nat) (count : Nat) : List Nat :=
  let rows := (lengths.length + count - 1) / count
  let placed := lengths.zipIdx.map fun (n, i) =>
    let column := if down then i / rows else i % count
    (column, if column + 1 = count then n else n + 2)
  (List.range count).map fun c => placed.foldl (fun w e => if e.1 = c then max w e.2 else w) 3

def fittingWidths (down : Bool) (lengths : List Nat) (width : Nat) : Nat → List Nat
  | 0 => columnWidths down lengths 1
  | n + 1 =>
    let widths := columnWidths down lengths (n + 1)
    if n = 0 || widths.foldl (· + ·) 0 < width then widths
    else fittingWidths down lengths width n

def indent (tab : Nat) : Nat → Nat → Nat → List Char
  | 0, _, _ => []
  | n + 1, start, stop =>
    if stop ≤ start then []
    else if tab ≠ 0 && (start + 1) / tab < stop / tab then
      '\t' :: indent tab n (start + tab - start % tab) stop
    else ' ' :: indent tab n (start + 1) stop

def rowText (tab : Nat) : Nat → List (Nat × String) → String
  | _, [] => ""
  | _, [(_, text)] => text
  | place, (width, text) :: rest =>
    text ++ String.ofList (indent tab (width + 1) (place + text.length) (place + width)) ++
      rowText tab (place + width) rest

def columnLines (p : ListPlan) (down : Bool) (texts : List String) : List String :=
  if texts.isEmpty then []
  else
    let most := min ((p.width + 2) / 3) texts.length
    let widths := fittingWidths down (texts.map (·.length)) p.width most
    let count := widths.length
    let rows := (texts.length + count - 1) / count
    (List.range rows).map fun row =>
      let places := (List.range count).filterMap fun c =>
        (texts[if down then c * rows + row else row * count + c]?).map fun t => (widths.getD c 0, t)
      rowText p.tab 0 places

/-- Texts with a separator between them, as many on a line as fit into it. -/
def joinedText (p : ListPlan) (separator : String) : Nat → List String → String
  | _, [] => ""
  | _, [t] => t
  | place, t :: u :: rest =>
    let place := place + t.length
    if p.width = 0 || place + u.length + 2 < p.width then
      t ++ separator ++ " " ++ joinedText p separator (place + 2) (u :: rest)
    else t ++ separator ++ "\n" ++ joinedText p separator 0 (u :: rest)

def written (p : ListPlan) (now : Int) (files : List Listed) : String :=
  let numbers := widest (files.map fun f => Decimal.text (f.info.id + 1))
  let blocks := widest (files.map fun f => p.blockText f.info.node)
  let start := if p.layout = .commas then p.frills 0 0 else p.frills numbers blocks
  let texts := files.map fun f => start f ++ p.nameText f.name ++ p.sign f.info.node
  let stop := String.ofList [p.stop]
  let lines (ls : List String) : String := "".intercalate (ls.map (· ++ stop))
  match p.layout with
  | .lines => lines texts
  | .long => lines (p.longLines now start files)
  | .commas => if texts.isEmpty then "" else p.joinedText "," 0 texts ++ stop
  | layout =>
    if p.width = 0 then if texts.isEmpty then "" else " ".intercalate texts ++ stop
    else lines (p.columnLines (layout = .columns) texts)

/-! ## Directories -/

def lists (p : ListPlan) (name : String) : Bool :=
  let cs := name.toList
  let isHidden := cs.head? == some '.'
  let isOwn := name = "." || name = ".."
  let fits (q : Script.Pattern) : Bool :=
    !(isHidden && !(q.head? matches some (.char '.'))) && q.accepts cs
  (match p.hidden with
    | .all => true
    | .most => !isOwn
    | .none => !isHidden && !p.unseen.any fits) && !p.ignored.any fits

def look (p : ListPlan) (isOperand : Bool) (path name : String) :
    Work (Except OsError Listed) := do
  let follows := p.links = .always || (isOperand && p.links = .operands)
  let r ← if isOperand && p.links = .toDirectories then do
      match ← ask (.inspect path true) with
      | .ok info =>
        if info.node.isDirectory then pure (.ok info) else ask (.inspect path false)
      | .error .notFound => ask (.inspect path false)
      | .error e => pure (.error e)
    else do
      match ← ask (.inspect path follows) with
      | .error .notFound => if isOperand then ask (.inspect path false) else pure (.error .notFound)
      | r => pure r
  match r with
  | .error e => pure (.error e)
  | .ok info =>
    let target ← match info.node.content with
      | .symlink _ => inspect? path true
      | _ => pure none
    pure (.ok ⟨name, info, target.map (·.node)⟩)

/-- Lists a directory, and those below it. The directories above it are given. -/
def listDirectory (p : ListPlan) (now : Int) (isTitled : Bool) :
    Nat → Bool → List FileId → String → Work Unit
  | 0, _, _, _ => pure ()
  | n + 1, isFirst, above, path => do
    match ← ask (.list path) with
    | .error e =>
      complain ("cannot open directory " ++ Quoting.shell path ++ ": " ++ e.reason)
      setCode 2
    | .ok names =>
      let own := if p.hidden = .all then [".", ".."] else []
      let mut files := []
      for name in own ++ names do
        if p.lists name then
          match ← p.look false (pathIn path name) name with
          | .ok f => files := f :: files
          | .error e =>
            complain ("cannot access " ++ Quoting.shell (pathIn path name) ++ ": " ++ e.reason)
            if (← get).code = 0 then setCode 1
      let shown := p.sorted files.reverse
      if isTitled then
        printText ((if isFirst then "" else "\n") ++ p.nameText path ++ ":\n")
      if p.layout = .long || p.showsBlocks then
        let total := shown.foldl (fun n f => n + f.info.node.blocks) 0
        printText ("total " ++ (if p.units.isSome then sizeText p.units (total * 1024)
          else Decimal.text total) ++ String.ofList [p.stop])
      printText (p.written now shown)
      if p.isDeep then
        for f in shown do
          if f.info.node.isDirectory && f.name ≠ "." && f.name ≠ ".." then
            let inner := pathIn path f.name
            if above.contains f.info.id then
              complain (Quoting.shellIfNeeded inner ++ ": not listing already-listed directory")
              setCode 2
            else p.listDirectory now true n false (f.info.id :: above) inner

end ListPlan

namespace Utility

/-! ## Options -/

def namePattern (text : String) : Script.Pattern :=
  Script.Pattern.ofGlyphs (text.toList.map fun c => ⟨c, .literal⟩)

def timeStyle (style : String) : Work (String × String) := do
  match style.toList with
  | '+' :: form =>
    let first := form.takeWhile (· ≠ '\n')
    let second := (form.drop (first.length + 1)).takeWhile (· ≠ '\n')
    let first := String.ofList first
    pure (first, if form.contains '\n' then String.ofList second else first)
  | _ =>
    let plain := style.toList
    let isPosix := "posix-".toList.isPrefixOf plain
    let name := if isPosix then String.ofList (plain.drop 6) else style
    if isPosix then pure ("%b %e  %Y", "%b %e %H:%M")
    else match name with
      | "full-iso" =>
        pure ("%Y-%m-%d %H:%M:%S.%N %z", "%Y-%m-%d %H:%M:%S.%N %z")
      | "long-iso" => pure ("%Y-%m-%d %H:%M", "%Y-%m-%d %H:%M")
      | "iso" => pure ("%Y-%m-%d ", "%m-%d %H:%M")
      | "locale" => pure ("%b %e  %Y", "%b %e %H:%M")
      | _ =>
        complain ("invalid argument " ++ Quoting.typographic style ++ " for " ++
          Quoting.typographic "time style")
        say ("Valid arguments are:\n  - [posix-]full-iso\n  - [posix-]long-iso\n" ++
          "  - [posix-]iso\n  - [posix-]locale\n  - +FORMAT (e.g., +%H:%M) for a 'date'-style " ++
          "format\n")
        advise
        leave 2

def listForms : List OptionForm :=
  [.flag 'a' "all", .flag 'A' "almost-all", .named '0' "author" .none, .flag 'b' "escape",
    .named '3' "block-size" .required, .flag 'B' "ignore-backups", .flag 'c' "", .flag 'C' "",
    .named '4' "color" .optional, .flag 'd' "directory", .flag 'D' "dired", .flag 'f' "",
    { letter := 'F', long := "classify" }, .named '5' "file-type" .none,
    .named '6' "format" .required, .named '7' "full-time" .none, .flag 'g' "",
    .named '8' "group-directories-first" .none, .flag 'G' "no-group", .flag 'h' "human-readable",
    .named '9' "si" .none, .flag 'H' "dereference-command-line",
    .named '&' "dereference-command-line-symlink-to-dir" .none, .named '!' "hide" .required,
    .named '$' "hyperlink" .optional, .named '%' "indicator-style" .required, .flag 'i' "inode",
    .taking 'I' "ignore", .flag 'k' "kibibytes", .flag 'l' "", .flag 'L' "dereference",
    .flag 'm' "", .flag 'n' "numeric-uid-gid", .flag 'N' "literal", .flag 'o' "", .flag 'p' "",
    .flag 'q' "hide-control-chars", .named '(' "show-control-chars" .none,
    .flag 'Q' "quote-name", .named ')' "quoting-style" .required, .flag 'r' "reverse",
    .flag 'R' "recursive", .flag 's' "size", .flag 'S' "", .named '*' "sort" .required,
    .named '+' "time" .required, .named ',' "time-style" .required, .flag 't' "",
    .taking 'T' "tabsize", .flag 'u' "", .flag 'U' "", .flag 'v' "", .taking 'w' "width",
    .flag 'x' "", .flag 'X' "", .flag 'Z' "context", .named '-' "zero" .none, .flag '1' ""]

/-- The pieces of a plan that are settled after all options have been read. -/
structure ListChoice where
  plan : ListPlan := {}
  order : Option ListOrder := none
  links : Option ListLinks := none
  hasOtherTime : Bool := false
  deriving Inhabited

def listNumber (what text : String) : Work Nat := do
  if !text.isEmpty && text.toList.all Text.isDigit then pure (Decimal.value text.toList)
  else fail 2 (what ++ ": " ++ Quoting.typographic text)

def wordOption (s : ListChoice) (c : Char) (arg : String) : Work ListChoice := do
  let p := s.plan
  match c with
  | '4' | '$' =>
    let _ ← choiceOf 1 (if c = '4' then "--color" else "--hyperlink") arg
      [["always", "yes", "force"], ["never", "no", "none"], ["auto", "tty", "if-tty"]]
    pure s
  | '6' =>
    match ← choiceOf 1 "--format" arg
      [["verbose", "long"], ["commas"], ["horizontal", "across"], ["vertical"],
        ["single-column"]] with
    | "verbose" => pure { s with plan := { p with layout := .long } }
    | "commas" => pure { s with plan := { p with layout := .commas } }
    | "horizontal" => pure { s with plan := { p with layout := .across } }
    | "vertical" => pure { s with plan := { p with layout := .columns } }
    | _ => pure { s with plan := { p with layout := .lines } }
  | '%' =>
    match ← choiceOf 1 "--indicator-style" arg
      [["none"], ["slash"], ["file-type"], ["classify"]] with
    | "none" => pure { s with plan := { p with signs := .none } }
    | "slash" => pure { s with plan := { p with signs := .directories } }
    | "file-type" => pure { s with plan := { p with signs := .kinds } }
    | _ => pure { s with plan := { p with signs := .all } }
  | ')' =>
    match ← choiceOf 1 "--quoting-style" arg
      [["literal"], ["shell"], ["shell-always"], ["shell-escape"], ["shell-escape-always"], ["c"],
        ["c-maybe"], ["escape"], ["locale"], ["clocale"]] with
    | "literal" => pure { s with plan := { p with quoting := .plain } }
    | "shell" | "shell-escape" => pure { s with plan := { p with quoting := .shellIfNeeded } }
    | "shell-always" | "shell-escape-always" => pure { s with plan := { p with quoting := .shell } }
    | "escape" => pure { s with plan := { p with quoting := .escapes } }
    | _ => pure { s with plan := { p with quoting := .text } }
  | '*' =>
    match ← choiceOf 1 "--sort" arg
      [["none"], ["time"], ["size"], ["extension"], ["version"], ["width"]] with
    | "none" => pure { s with order := some .none }
    | "time" => pure { s with order := some .time }
    | "size" => pure { s with order := some .size }
    | "extension" => pure { s with order := some .ending }
    | "version" => pure { s with order := some .version }
    | _ => pure { s with order := some .width }
  | _ =>
    match ← choiceOf 1 "--time" arg
      [["atime", "access", "use"], ["ctime", "status"], ["mtime", "modification"],
        ["birth", "creation"]] with
    | "mtime" => pure { s with hasOtherTime := false }
    | _ => pure { s with hasOtherTime := true }

def listOption (s : ListChoice) (c : Char) (arg : Option String) : Work ListChoice := do
  let p := s.plan
  let plan' (p : ListPlan) : Work ListChoice := pure { s with plan := p }
  match c with
  | 'a' => plan' { p with hidden := .all }
  | 'A' => plan' { p with hidden := if p.hidden = .all then .all else .most }
  | '0' => plan' { p with showsAuthor := true }
  | 'b' => plan' { p with quoting := .escapes }
  | 'B' => plan' { p with ignored := namePattern "*~" :: namePattern ".*~" :: p.ignored }
  | 'c' | 'u' => pure { s with hasOtherTime := true }
  | 'C' => plan' { p with layout := .columns }
  | 'd' => plan' { p with seesDirectories := true }
  | 'f' =>
    pure { s with
      plan := { p with
        hidden := .all, showsBlocks := false
        layout := if p.layout = .long then .lines else p.layout }
      order := some .none }
  | 'F' => plan' { p with signs := .all }
  | '5' => plan' { p with signs := .kinds }
  | '7' =>
    plan' { p with
      layout := .long, times := ("%Y-%m-%d %H:%M:%S.%N %z", "%Y-%m-%d %H:%M:%S.%N %z") }
  | 'g' => plan' { p with layout := .long, showsOwner := false }
  | '8' => plan' { p with directoriesFirst := true }
  | 'G' => plan' { p with showsGroup := false }
  | 'h' => plan' { p with units := some 1024 }
  | '9' => plan' { p with units := some 1000 }
  | 'H' => pure { s with links := some .operands }
  | '&' => pure { s with links := some .toDirectories }
  | '!' => plan' { p with unseen := namePattern (arg.getD "") :: p.unseen }
  | 'i' => plan' { p with showsNumber := true }
  | 'I' => plan' { p with ignored := namePattern (arg.getD "") :: p.ignored }
  | 'l' => plan' { p with layout := .long }
  | 'L' => pure { s with links := some .always }
  | 'm' => plan' { p with layout := .commas }
  | 'n' => plan' { p with layout := .long, isNumeric := true }
  | 'N' => plan' { p with quoting := .plain }
  | 'o' => plan' { p with layout := .long, showsGroup := false }
  | 'p' => plan' { p with signs := .directories }
  | 'q' => plan' { p with hidesControls := true }
  | '(' => plan' { p with hidesControls := false }
  | 'Q' => plan' { p with quoting := .text }
  | 'r' => plan' { p with isReversed := true }
  | 'R' => plan' { p with isDeep := true }
  | 's' => plan' { p with showsBlocks := true }
  | 'S' => pure { s with order := some .size }
  | ',' => do plan' { p with times := ← timeStyle (arg.getD "") }
  | 't' => pure { s with order := some .time }
  | 'T' => do plan' { p with tab := ← listNumber "invalid tab size" (arg.getD "") }
  | 'U' => pure { s with order := some .none }
  | 'v' => pure { s with order := some .version }
  | 'w' => do plan' { p with width := ← listNumber "invalid line width" (arg.getD "") }
  | 'x' => plan' { p with layout := .across }
  | 'X' => pure { s with order := some .ending }
  | '-' =>
    plan' { p with
      stop := '\x00', layout := if p.layout = .long then .long else .lines, quoting := .plain }
  | '1' => plan' { p with layout := if p.layout = .long then .long else .lines }
  | '4' | '$' => wordOption s c (arg.getD "always")
  | '6' | '%' | ')' | '*' | '+' => wordOption s c (arg.getD "")
  | _ => pure s

def listPlan (given : List OptionForm.Given) : Work ListPlan := do
  let width := match (← get).environment.lookup "COLUMNS" with
    | some text => if !text.isEmpty && text.toList.all Text.isDigit then Decimal.value text.toList
      else 80
    | none => 80
  let mut s : ListChoice := { plan := { width } }
  for (c, arg) in given do
    s ← listOption s c arg
  let p := s.plan
  let order := match s.order with
    | some o => o
    | none => if p.layout ≠ .long && s.hasOtherTime then .time else .name
  let links := match s.links with
    | some l => l
    | none =>
      if p.seesDirectories || p.signs = .all || p.layout = .long then .never else .toDirectories
  pure { p with order, links }

def ls (args : List String) : Work Unit := do
  let (given, operands) ← options listForms false 2 args
  let p ← listPlan given
  let now : Nat ← ask .time
  let mut files := []
  let mut directories := []
  for path in if operands.isEmpty then ["."] else operands do
    match ← p.look true path path with
    | .error e =>
      complain ("cannot access " ++ Quoting.shell path ++ ": " ++ e.reason)
      setCode 2
    | .ok f =>
      if f.info.node.isDirectory && !p.seesDirectories then directories := f :: directories
      else files := f :: files
  let shown := p.sorted files.reverse
  printText (p.written now shown)
  let isTitled := 1 < operands.length || p.isDeep
  let mut isFirst := shown.isEmpty
  for d in p.sorted directories.reverse do
    p.listDirectory now isTitled deepest isFirst [d.info.id] d.name
    isFirst := false

end Utility

end JobLaunch.Rehearsal
