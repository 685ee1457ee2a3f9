import JobLaunch.Rehearsal.LineOrder
import JobLaunch.Rehearsal.Utility.Reading

/-!
# Lines in order

* `Utility.sort` — puts lines in order.
* `Utility.uniq` — prints one of several equal lines that follow each other.
-/

namespace JobLaunch.Rehearsal.Utility

/-! ## Sorting -/

def sortForms : List OptionForm :=
  [.flag 'b' "ignore-leading-blanks", .flag 'd' "dictionary-order", .flag 'f' "ignore-case",
    .flag 'g' "general-numeric-sort", .flag 'i' "ignore-nonprinting", .flag 'M' "month-sort",
    .flag 'h' "human-numeric-sort", .flag 'n' "numeric-sort", .flag 'R' "random-sort",
    .flag 'r' "reverse", .flag 'V' "version-sort", .flag 'c' "", .flag 'C' "", .flag 'm' "merge",
    .flag 's' "stable", .flag 'u' "unique", .flag 'z' "zero-terminated", .taking 'k' "key",
    .taking 't' "field-separator", .taking 'o' "output", .taking 'S' "buffer-size",
    .taking 'T' "temporary-directory", .named '1' "sort" .required,
    .named '2' "check" .optional, .named '3' "parallel" .required,
    .named '4' "batch-size" .required, .named '5' "random-source" .required,
    .named '6' "compress-program" .required]

def sortWays : List (String × Char) :=
  [("general-numeric", 'g'), ("human-numeric", 'h'), ("month", 'M'), ("numeric", 'n'),
    ("random", 'R'), ("version", 'V')]

/-- What options say about the order. -/
structure SortChoice where
  general : SortKey := {}
  keys : List SortKey := []
  separator : Option UInt8 := none
  output : Option String := none
  check : Option Bool := none

def SortChoice.next (s : SortChoice) (c : Char) (arg : String) : Work SortChoice := do
  let way (c : Char) : SortChoice :=
    { s with general := { s.general with letters := s.general.letters ++ [c] } }
  if "dfghiMnRrV".toList.contains c then return way c
  match c with
  | 'b' => return { s with general := { s.general with trimsStart := true, trimsEnd := true } }
  | 'c' => return { s with check := some true }
  | 'C' => return { s with check := some false }
  | '1' =>
    match sortWays.find? fun w => arg.toList.isPrefixOf w.1.toList with
    | some (_, letter) => return way letter
    | none => unknownWord 1 "--sort" arg (sortWays.map (·.1))
  | '2' =>
    if ["quiet", "silent"].contains arg then return { s with check := some false }
    else if ["", "diagnose-first"].contains arg then return { s with check := some true }
    else unknownWord 1 "--check" arg ["quiet\u2019, \u2018silent", "diagnose-first"]
  | 'k' =>
    match SortKey.read arg with
    | .ok k => return { s with keys := s.keys ++ [k] }
    | .error text => fail 2 text
  | 't' =>
    let separator ← match Bytes.ofText arg with
      | [b] => pure b
      | [92, 48] => pure 0
      | [] => fail 2 "empty tab"
      | _ => fail 2 ("multi-character tab " ++ Quoting.typographic arg)
    if s.separator.any (· ≠ separator) then fail 2 "incompatible tabs"
    return { s with separator := some separator }
  | 'o' =>
    if s.output.any (· ≠ arg) then fail 2 "multiple output files specified"
    return { s with output := some arg }
  | 'S' =>
    if (count? arg).isNone && !arg.endsWith "%" then
      fail 2 ("invalid -S argument '" ++ arg ++ "'")
    return s
  | '3' =>
    if arg.isEmpty || !arg.toList.all Text.isDigit then
      fail 2 ("invalid --parallel argument '" ++ arg ++ "'")
    if Decimal.value arg.toList = 0 then fail 2 "number in parallel must be nonzero"
    return s
  | _ => return s

def sortChoice : List OptionForm.Given → SortChoice → Work SortChoice
  | [], s => pure s
  | (c, arg) :: rest, s => do sortChoice rest (← s.next c (arg.getD ""))

/-- A key in the form of old: the fields before it after a plus sign, and those before its end after
a hyphen. -/
def oldKey? (start : List Char) (finish : Option (List Char)) : Option String :=
  let parts (cs : List Char) : Option (Nat × Option Nat × List Char) :=
    let (ds, rest) := cs.span Text.isDigit
    if ds.isEmpty then none
    else match rest with
      | '.' :: more =>
        let (es, rest) := more.span Text.isDigit
        if es.isEmpty then none else some (Decimal.value ds, some (Decimal.value es), rest)
      | _ => some (Decimal.value ds, none, rest)
  let text (field : Nat) (char : Option Nat) (letters : List Char) : String :=
    Decimal.text field ++ (char.map fun c => "." ++ Decimal.text c).getD "" ++ String.ofList letters
  match parts start with
  | none => none
  | some (field, char, letters) =>
    let first := text (field + 1) (char.map (· + 1)) letters
    match finish.map parts with
    | none => some first
    | some none => none
    | some (some (field, char, letters)) =>
      if char.getD 0 = 0 then some (first ++ "," ++ text field none letters)
      else some (first ++ "," ++ text (field + 1) char letters)

def sortArguments : List String → List String
  | [] => []
  | "--" :: rest => "--" :: rest
  | arg :: rest =>
    let more := sortArguments rest
    match arg.toList with
    | '+' :: start =>
      let finish := match rest.map (·.toList) with
        | ('-' :: c :: cs) :: _ => if Text.isDigit c then some (c :: cs) else none
        | _ => none
      match oldKey? start finish with
      | some key => "-k" :: key :: if finish.isSome then more.tail else more
      | none => arg :: more
    | _ => arg :: more

def checkReadable (files : List String) : Work Unit := do
  for file in files do
    if file ≠ "-" then
      match ← ask (.inspect file true) with
      | .ok _ => pure ()
      | .error e => fail 2 ("cannot read: " ++ Quoting.shellIfNeeded file ++ ": " ++ e.reason)

def linesToSort (stop : UInt8) (file : String) : Work (List Bytes) := do
  match ← readInput file with
  | .error e =>
    fail 2 ((if e = .isADirectory then "read failed: " else "cannot read: ") ++
      Quoting.shellIfNeeded file ++ ": " ++ e.reason)
  | .ok bytes => pure ((linesBy stop bytes).map (withoutStop stop))

def allLinesToSort (stop : UInt8) : List String → Work (List (List Bytes))
  | [] => pure []
  | file :: rest => do
    let lines ← linesToSort stop file
    return lines :: (← allLinesToSort stop rest)

def checkOrder (o : LineOrder) (unique tells : Bool) (stop : UInt8) (operands : List String) :
    Work Unit := do
  if let _ :: extra :: _ := operands then
    fail 2 ("extra operand " ++ Quoting.shell extra ++ " not allowed with -" ++
      if tells then "c" else "C")
  let file := operands.headD "-"
  let lines := (← linesToSort stop file).map o.line
  let wrong := (lines.zip lines.tail).zipIdx.find? fun ((a, b), _) =>
    let order := o.compare a b
    order == .gt || (unique && order == .eq)
  match wrong with
  | some ((_, b), i) =>
    if tells then
      complain (file ++ ":" ++ Decimal.text (i + 2) ++ ": disorder: " ++ Bytes.text b.bytes)
    leave 1
  | none => pure ()

def sort (args : List String) : Work Unit := do
  let (given, operands) ← options sortForms false 2 (sortArguments args)
  let has (c : Char) : Bool := isGiven given c
  let s ← sortChoice given {}
  let keys := if s.keys.isEmpty then
      let plain := s.general.letters.all (· = 'r') && !s.general.trimsStart
      if plain then [] else [s.general]
    else s.keys.map (·.inherit s.general)
  for key in keys do
    if let some letters := key.conflict? then
      fail 2 ("options '-" ++ letters ++ "' are incompatible")
  let unique := has 'u'
  let o : LineOrder := {
    keys, separator := s.separator, isStable := unique || has 's'
    reverses := s.general.letters.contains 'r' }
  let stop : UInt8 := if has 'z' then 0 else lineFeed
  if let some tells := s.check then
    return ← checkOrder o unique tells stop operands
  let files := if operands.isEmpty then ["-"] else operands
  checkReadable files
  let lists := (← allLinesToSort stop files).map (·.map o.line)
  let sorted := if has 'm' then o.merge (lists.flatten.length + 1) lists
    else lists.flatten.mergeSort fun a b => o.compare a b != .gt
  let sorted := if unique then o.distinct sorted else sorted
  let out := (sorted.map fun l => l.bytes ++ [stop]).flatten
  match s.output with
  | none => print out
  | some file =>
    match ← ask (.openFile file .output) with
    | .ok stream =>
      let _ ← lift (Routine.write stream out)
      let _ ← ask (.close stream)
    | .error e => fail 2 ("open failed: " ++ Quoting.shellIfNeeded file ++ ": " ++ e.reason)

/-! ## Equal lines -/

def equalGroups (key : Bytes → Bytes) : List Bytes → List (List Bytes)
  | [] => []
  | line :: rest =>
    match equalGroups key rest with
    | (l :: ls) :: more =>
      if key l = key line then (line :: l :: ls) :: more else [line] :: (l :: ls) :: more
    | more => [line] :: more

def uniqForms : List OptionForm :=
  [.flag 'c' "count", .flag 'd' "repeated", .flag 'D' "", .named '&' "all-repeated" .optional,
    .named '%' "group" .optional, .flag 'u' "unique", .flag 'i' "ignore-case",
    .taking 'f' "skip-fields", .taking 's' "skip-chars", .taking 'w' "check-chars",
    .flag 'z' "zero-terminated"]

/-- The arguments of `uniq` with numbers of fields and bytes in the usual form. -/
def uniqArguments : List String → List String
  | [] => []
  | arg :: rest =>
    let more := uniqArguments rest
    match arg.toList with
    | sign :: ds =>
      if ds.isEmpty || !ds.all Text.isDigit then arg :: more
      else if sign = '-' then "-f" :: String.ofList ds :: more
      else if sign = '+' then "-s" :: String.ofList ds :: more
      else arg :: more
    | [] => arg :: more

/-- Where empty lines stand among groups. -/
structure GroupGaps where
  before : Bool := false
  between : Bool := false
  after : Bool := false

def withGaps (stop : UInt8) (gaps : GroupGaps) (groups : List (List Bytes)) : Bytes :=
  let shown := groups.map fun g => (g.map (· ++ [stop])).flatten
  (if gaps.before && !groups.isEmpty then [stop] else []) ++
    (if gaps.between then [stop] else ([] : Bytes)).intercalate shown ++
    if gaps.after && !groups.isEmpty then [stop] else []

def uniq (args : List String) : Work Unit := do
  let (given, operands) ← options uniqForms false 1 (uniqArguments args)
  let has (c : Char) : Bool := isGiven given c
  let number (c : Char) (what : String) : Work (Option Nat) := do
    match argument? given c with
    | none => pure none
    | some text =>
      if text.isEmpty || !text.toList.all Text.isDigit then
        fail 1 (text ++ ": invalid number of " ++ what)
      pure (some (Decimal.value text.toList))
  let fields ← number 'f' "fields to skip"
  let skipped ← number 's' "bytes to skip"
  let width ← number 'w' "bytes to compare"
  if let _ :: _ :: extra :: _ := operands then
    misused 1 ("extra operand " ++ Quoting.typographic extra)
  let repeats := (argument? given '&').getD "none"
  if !(["none", "prepend", "separate"].contains repeats) then
    unknownWord 1 "--all-repeated" repeats ["none", "prepend", "separate"]
  let grouping := (argument? given '%').getD "separate"
  if !(["prepend", "append", "separate", "both"].contains grouping) then
    unknownWord 1 "--group" grouping ["prepend", "append", "separate", "both"]
  let showsAll := has 'D' || has '&'
  if has '%' && (has 'c' || has 'd' || showsAll || has 'u') then
    misused 1 "--group is mutually exclusive with -c/-d/-D/-u"
  if showsAll && has 'c' then
    misused 1 "printing all duplicated lines and repeat counts is meaningless"
  let stop : UInt8 := if has 'z' then 0 else lineFeed
  let key (line : Bytes) : Bytes :=
    let rest := (SortKey.afterFields none (fields.getD 0) line).drop (skipped.getD 0)
    let rest := match width with
      | some n => rest.take n
      | none => rest
    if has 'i' then rest.map LineOrder.capitalByte else rest
  match ← readInput (operands.headD "-") with
  | .error e =>
    let file := operands.headD "-"
    fail 1 (if e = .isADirectory then "error reading '" ++ file ++ "': " ++ e.reason
      else Quoting.shellIfNeeded file ++ ": " ++ e.reason)
  | .ok bytes =>
    let groups := equalGroups key ((linesBy stop bytes).map (withoutStop stop))
    let all := if has '%' then
        withGaps stop {
          before := grouping = "prepend" || grouping = "both", between := true
          after := grouping = "append" || grouping = "both" } groups
      else if showsAll then
        withGaps stop { before := repeats = "prepend", between := repeats ≠ "none" }
          (groups.filter fun g => 1 < g.length && !has 'u')
      else
        (groups.filter fun g =>
          if g.length = 1 then !has 'd' else !has 'u').flatMap fun g =>
            (if has 'c' then Bytes.ofText (numberText 7 g.length ++ " ") else []) ++
              g.headD [] ++ [stop]
    match operands[1]? with
    | none | some "-" => print all
    | some file =>
      match ← ask (.openFile file .output) with
      | .ok stream =>
        let _ ← lift (Routine.write stream all)
      | .error e => fail 1 (Quoting.shellIfNeeded file ++ ": " ++ e.reason)

end JobLaunch.Rehearsal.Utility
