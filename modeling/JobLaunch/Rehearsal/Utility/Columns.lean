import JobLaunch.Rehearsal.Utility.Reading

/-!
# Columns of lines

* `Columns.read` — ranges of columns from their texts.
* `Columns.chosen` — the parts of a line that are in ranges.
* `Utility.cut` — prints columns of lines.
* `Utility.paste` — prints lines side by side.
-/

namespace JobLaunch.Rehearsal

/-- Ranges of columns in their order; the last one may have no end. -/
abbrev Columns := List (Nat × Option Nat)

namespace Columns

/-! ## Reading -/

/-- What is wrong with a list of columns. -/
inductive Fault where
  | range
  | zero
  | noEnds
  | decreasing
  | tooLarge (digits : String)
  | value (text : String)
  deriving DecidableEq, Inhabited

def Fault.message (ofFields : Bool) : Fault → String
  | range => if ofFields then "invalid field range" else "invalid byte or character range"
  | zero => if ofFields then "fields are numbered from 1"
    else "byte/character positions are numbered from 1"
  | noEnds => "invalid range with no endpoint: -"
  | decreasing => "invalid decreasing range"
  | tooLarge digits =>
    (if ofFields then "field number " else "byte/character offset ") ++
      Quoting.typographic digits ++ " is too large"
  | value text =>
    (if ofFields then "invalid field value " else "invalid byte/character position ") ++
      Quoting.typographic text

def bound : Nat := 2 * Format.greatest + 1

def number? (cs : List Char) : Except Fault (Option Nat × List Char) :=
  let (ds, rest) := cs.span Text.isDigit
  if ds.isEmpty then .ok (none, cs)
  else if bound ≤ Decimal.value ds then .error (.tooLarge (String.ofList ds))
  else .ok (some (Decimal.value ds), rest)

def rangesWithin : Nat → List Char → Except Fault Columns
  | 0, _ => .ok []
  | n + 1, cs => do
    let (low, rest) ← number? cs
    let (range, rest) ← match rest with
      | '-' :: more => do
        if low = some 0 then .error .zero
        let (high, rest) ← number? more
        match rest with
        | '-' :: _ => .error .range
        | c :: _ => if c ≠ ',' && c ≠ ' ' && c ≠ '\t' then .error (.value (String.ofList rest))
        | [] => .ok ()
        if low.isNone && high.isNone then .error .noEnds
        if high.any (· < low.getD 1) then .error .decreasing
        .ok ((low.getD 1, high), rest)
      | c :: _ => do
        if c ≠ ',' && c ≠ ' ' && c ≠ '\t' then .error (.value (String.ofList rest))
        if low.getD 0 = 0 then .error .zero
        .ok ((low.getD 0, low), rest)
      | [] => do
        if low.getD 0 = 0 then .error .zero
        .ok ((low.getD 0, low), rest)
    match rest with
    | [] => .ok [range]
    | _ :: more => do .ok (range :: (← rangesWithin n more))

/-- Ranges in their order, of which those with common columns are joined. -/
def merged : Columns → Columns
  | [] => []
  | (low, high) :: rest =>
    match merged rest with
    | [] => [(low, high)]
    | (low', high') :: more =>
      match high with
      | none => [(low, none)]
      | some h =>
        if low' ≤ h then
          let last := match high' with
            | none => none
            | some h' => some (max h h')
          absorb low last more
        else (low, high) :: (low', high') :: more
where
  absorb (low : Nat) (high : Option Nat) : Columns → Columns
    | [] => [(low, high)]
    | (low', high') :: more =>
      match high with
      | none => [(low, none)]
      | some h =>
        if low' ≤ h then
          absorb low (match high' with
            | none => none
            | some h' => some (max h h')) more
        else (low, high) :: (low', high') :: more

def complement (columns : Columns) : Columns :=
  go 1 columns
where
  go (start : Nat) : Columns → Columns
    | [] => [(start, none)]
    | (low, high) :: rest =>
      let before := if start < low then [(start, some (low - 1))] else []
      match high with
      | none => before
      | some h => before ++ go (h + 1) rest

def read (inverts : Bool) (text : String) : Except Fault Columns := do
  let cs := text.toList
  let columns ← rangesWithin (cs.length + 1) cs
  let columns := merged (columns.mergeSort fun a b => a.1 ≤ b.1)
  .ok (if inverts then complement columns else columns)

/-! ## Choosing -/

def parts {α : Type} (columns : Columns) (xs : List α) : List (List α) :=
  columns.filterMap fun (low, high) =>
    let after := xs.drop (low - 1)
    let part := match high with
      | none => after
      | some h => after.take (h + 1 - low)
    if part.isEmpty then none else some part

def chosen {α : Type} (columns : Columns) (xs : List α) : List α := (columns.parts xs).flatten

end Columns

namespace Utility

/-- The bytes of a text that stands between parts; if it is empty, they are a zero. -/
def jointBytes (text : String) : Bytes := if text.isEmpty then [0] else Bytes.ofText text

/-- What `cut` prints. -/
structure Cut where
  columns : Columns
  ofFields : Bool
  delimiter : UInt8
  joint : Option Bytes
  onlyDelimited : Bool
  stop : UInt8

def Cut.fields (c : Cut) (bytes : Bytes) : Bytes :=
  let fields := bytes.splitOn c.delimiter
  if fields.length = 1 then
    if c.onlyDelimited then [] else bytes ++ [c.stop]
  else (c.joint.getD [c.delimiter]).intercalate (c.columns.chosen fields) ++ [c.stop]

def Cut.output (c : Cut) (bytes : Bytes) : Bytes :=
  if c.ofFields && c.delimiter = c.stop then
    if bytes.isEmpty then [] else c.fields (withoutStop c.stop bytes)
  else
    (linesBy c.stop bytes).flatMap fun line =>
      let body := withoutStop c.stop line
      if c.ofFields then c.fields body
      else (c.joint.getD []).intercalate (c.columns.parts body) ++ [c.stop]

/-- The delimiter and the list of `cut`, if the options go together. -/
def cutChoice : List OptionForm.Given → Option UInt8 → Option (Char × String) →
    Work (Option UInt8 × Option (Char × String))
  | [], delimiter, list => pure (delimiter, list)
  | (c, arg) :: rest, delimiter, list => do
    let text := arg.getD ""
    if "bcf".toList.contains c then
      if list.isSome then misused 1 "only one list may be specified"
      cutChoice rest delimiter (some (c, text))
    else if c = 'd' then
      match Bytes.ofText text with
      | [] => cutChoice rest (some 0) list
      | [b] => cutChoice rest (some b) list
      | _ => misused 1 "the delimiter must be a single character"
    else cutChoice rest delimiter list

def cut (args : List String) : Work Unit := do
  let (given, operands) ← options
    [.taking 'b' "bytes", .taking 'c' "characters", .taking 'f' "fields", .taking 'd' "delimiter",
      .flag 's' "only-delimited", .flag 'n' "", .named '1' "complement" .none,
      .named '2' "output-delimiter" .required, .flag 'z' "zero-terminated"] false 1 args
  match ← cutChoice given none none with
  | (_, none) => misused 1 "you must specify a list of bytes, characters, or fields"
  | (delimiter, some (kind, list)) =>
    let ofFields := kind = 'f'
    if delimiter.isSome && !ofFields then
      misused 1 "an input delimiter may be specified only when operating on fields"
    if isGiven given 's' && !ofFields then
      misused 1 "suppressing non-delimited lines makes sense\n\tonly when operating on fields"
    let columns ← match Columns.read (isGiven given '1') list with
      | .ok columns => pure columns
      | .error f => misused 1 (f.message ofFields)
    let c : Cut := {
      columns, ofFields, delimiter := delimiter.getD 9
      joint := (argument? given '2').map jointBytes, onlyDelimited := isGiven given 's'
      stop := if isGiven given 'z' then 0 else lineFeed }
    for file in if operands.isEmpty then ["-"] else operands do
      match ← readInput file with
      | .error e =>
        complain (Quoting.shellIfNeeded file ++ ": " ++ e.reason)
        setCode 1
      | .ok bytes => print (c.output bytes)

/-! ## Lines side by side -/

/-- The delimiters of `paste`; nothing if a backslash hides nothing. -/
def delimitersOf : Bytes → Option (List Bytes)
  | [92] => none
  | 92 :: c :: rest =>
    let found : Bytes := match Char.ofNat c.toNat with
      | 'b' => [8]
      | 'f' => [12]
      | 'n' => [10]
      | 'r' => [13]
      | 't' => [9]
      | 'v' => [11]
      | '0' => []
      | _ => [c]
    (delimitersOf rest).map (found :: ·)
  | b :: rest => (delimitersOf rest).map ([b] :: ·)
  | [] => some []

/-- Joins lines; the delimiters are used one after the other, and then again. -/
def joined (delimiters : List Bytes) : Nat → List Bytes → Bytes
  | _, [] => []
  | _, [line] => line
  | i, line :: rest =>
    line ++ (delimiters[i % delimiters.length]?).getD [] ++ joined delimiters (i + 1) rest

/-- The rows of lines of inputs, which are named by operands; an input that is named again goes on
where it was. -/
def rowsOf (operands : List String) : Nat → List (String × List Bytes) → List (List Bytes)
  | 0, _ => []
  | n + 1, inputs =>
    if inputs.all (·.2.isEmpty) then []
    else
      let (row, inputs) := operands.zipIdx.foldl
        (fun (r : List Bytes × List (String × List Bytes)) (file, i) =>
          let key := if file = "-" then "-" else Decimal.text i
          let lines := (r.2.lookup key).getD []
          (lines.headD [] :: r.1, (key, lines.tail) :: r.2.filter (·.1 ≠ key))) ([], inputs)
      row.reverse :: rowsOf operands n inputs

def paste (args : List String) : Work Unit := do
  let (given, operands) ← options
    [.taking 'd' "delimiters", .flag 's' "serial", .flag 'z' "zero-terminated"] false 1 args
  let list := (argument? given 'd').getD "\t"
  let delimiters ← match delimitersOf (Bytes.ofText list) with
    | some ds => pure (if ds.isEmpty then [[]] else ds)
    | none => fail 1 ("delimiter list ends with an unescaped backslash: " ++ list)
  let stop : UInt8 := if isGiven given 'z' then 0 else lineFeed
  let files := if operands.isEmpty then ["-"] else operands
  let serial := isGiven given 's'
  let mut inputs : List (String × List Bytes) := []
  let mut number := 0
  for file in files do
    let isRead := file ≠ "-" || serial || (inputs.lookup "-").isNone
    match ← if isRead then readInput file else pure (.ok []) with
    | .error e =>
      let text := Quoting.shellIfNeeded file ++ ": " ++ e.reason
      if serial then
        if e = .isADirectory then print [stop]
        complain text
        setCode 1
      else fail 1 text
    | .ok bytes =>
      let lines := (linesBy stop bytes).map (withoutStop stop)
      if serial then print (joined delimiters 0 lines ++ [stop])
      else if isRead then
        inputs := inputs ++ [(if file = "-" then "-" else Decimal.text number, lines)]
    number := number + 1
  let rows := inputs.foldl (fun n i => n + i.2.length) 0
  for row in rowsOf files rows inputs do
    print (joined delimiters 0 row ++ [stop])

end Utility

end JobLaunch.Rehearsal
