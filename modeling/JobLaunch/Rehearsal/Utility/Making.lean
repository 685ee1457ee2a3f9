import JobLaunch.Rehearsal.Permission
import JobLaunch.Rehearsal.Utility.Dating
import JobLaunch.Rehearsal.Utility.Paths
import JobLaunch.Rehearsal.Utility.Reading

/-!
# Utilities that make files

* `Utility.touch` — marks files as changed, and makes those that are missing.
* `Utility.mkdir`, `Utility.mktemp` — make directories and files with new names.
* `Utility.truncate` — gives files a size.
-/

namespace JobLaunch.Rehearsal.Utility

/-! ## Times -/

/-- The point in time of digits for month, day, hour and minute, maybe with the year before them and
the seconds behind a point. -/
def stampTime? (year : Int) (text : String) : Option Timestamp := do
  let (ds, rest) := text.toList.span Text.isDigit
  let seconds ← match rest with
    | [] => some 0
    | ['.', a, b] => if Text.isDigit a && Text.isDigit b then some (Decimal.value [a, b]) else none
    | _ => none
  let number (cs : List Char) (i : Nat) : Nat := Decimal.value ((cs.drop i).take 2)
  let years := ds.take (ds.length - 8)
  let cs := ds.drop years.length
  let year : Int ← match years with
    | [] => some year
    | [_, _] => some (DateDraft.yearOf years)
    | [_, _, _, _] => some (Decimal.value years)
    | _ => none
  let d : DateDraft ← DateDraft.withDate {} year (number cs 0) (number cs 2)
  let (hour, minute) := (number cs 4, number cs 6)
  if cs.length ≠ 8 || 23 < hour || 59 < minute || 60 < seconds then none
  else some ({ d with time := some (hour * 3600 + minute * 60 + seconds, 0) }.resolve default)

/-- The time to which files are set by options; nothing means now. -/
def timeGiven (given : List OptionForm.Given) : Work (Option Int) := do
  let now : Nat ← ask .time
  let start ← match argument? given 'r' with
    | some file => do
      match ← ask (.inspect file (!isGiven given 'h')) with
      | .ok ⟨_, node, _⟩ => pure (some node.changed)
      | .error e =>
        fail 1 ("failed to get attributes of " ++ Quoting.shell file ++ ": " ++ e.reason)
    | none => pure none
  let stamp ← match argument? given 't' with
    | some text =>
      match stampTime? (Timestamp.dateOf (Calendar.atClock now).day).1 text with
      | some t => pure (some (Calendar.toClock t))
      | none => fail 1 ("invalid date format " ++ Quoting.typographic text)
    | none => pure none
  let described ← match argument? given 'd' with
    | some text =>
      match DateDraft.read? (Calendar.atClock (start.getD now)) text with
      | some t => pure (some (Calendar.toClock t))
      | none => fail 1 ("invalid date format " ++ Quoting.typographic text)
    | none => pure none
  if stamp.isSome && (start.isSome || described.isSome) then
    misused 1 "cannot specify times from more than one source"
  pure ((described.or stamp).or start)

def setTime (path : String) (time : Option Int) (changes : Bool) : Work (Except OsError Unit) := do
  if changes then ask (.touch path time)
  else match ← ask (.inspect path true) with
    | .ok _ => pure (.ok ())
    | .error e => pure (.error e)

def touch (args : List String) : Work Unit := do
  let (given, operands) ← options
    [.flag 'a' "", .flag 'm' "", .flag 'c' "no-create", .flag 'f' "", .taking 'd' "date",
      .taking 't' "", .taking 'r' "reference", .flag 'h' "no-dereference",
      .named 'T' "time" .required] false 1 args
  let kinds ← (given.filter (·.1 = 'T')).mapM fun g =>
    choiceOf 1 "--time" (g.2.getD "") [["atime", "access", "use"], ["mtime", "modify"]]
  let time ← timeGiven given
  if operands.isEmpty then misused 1 "missing file operand"
  let changesLast := isGiven given 'm' || kinds.contains "mtime"
  let changesFirst := isGiven given 'a' || kinds.contains "atime"
  let changes := changesLast || !changesFirst
  for file in operands do
    if file ≠ "-" then
      let found ← inspect? file true
      let made ← if isGiven given 'c' || isGiven given 'h' || found.isSome then pure (.ok ())
        else match ← ask (.openFile file { writes := true, creates := true }) with
          | .ok stream => ask (.close stream)
          | .error e => pure (.error e)
      match made, ← setTime file time (changes || (found.isNone && time.isSome)) with
      | .ok (), .ok () => pure ()
      | .error .isADirectory, .error e | .ok (), .error e =>
        if !(isGiven given 'c' && e = .notFound) then
          note ("setting times of " ++ Quoting.shell file ++ ": " ++ e.reason)
      | .error e, _ => note ("cannot touch " ++ Quoting.shell file ++ ": " ++ e.reason)

/-! ## Directories -/

def mkdir (args : List String) : Work Unit := do
  let (given, operands) ← options
    [.flag 'p' "parents", .taking 'm' "mode", .flag 'v' "verbose", .flag 'Z' ""] false 1 args
  if operands.isEmpty then misused 1 "missing operand"
  let mask ← currentMask
  let mode ← match argument? given 'm' with
    | none => pure none
    | some text =>
      match ModeChange.parse? text with
      | some steps => pure (some (ModeChange.applyAll mask true steps Mode.rights))
      | none => fail 1 ("invalid mode " ++ Quoting.typographic text)
  let tell (path : String) : Work Unit :=
    if isGiven given 'v' then do
      printLine ((← get).name ++ ": created directory " ++ Quoting.shell path)
    else pure ()
  let finish (path : String) : Work Unit := do
    tell path
    match mode with
    | some m => let _ ← ask (.changeMode path m)
    | none => pure ()
  for path in operands do
    if isGiven given 'p' then
      let mut failed := false
      let steps := ancestors path
      for step in if steps.isEmpty then [path] else steps do
        if !failed then
          let isLast := steps.getLast? = some step
          match ← inspect? step true with
          | some info =>
            if !info.node.isDirectory then
              failed := true
              note ("cannot create directory " ++
                Quoting.typographic (if isLast then path else step) ++ ": " ++
                (if isLast then OsError.alreadyExists else OsError.notADirectory).reason)
          | none =>
            match ← ask (.makeDirectory step 0o777) with
            | .ok () => if isLast then finish path else tell step
            | .error e =>
              failed := true
              note ("cannot create directory " ++ Quoting.typographic step ++ ": " ++ e.reason)
    else
      match ← ask (.makeDirectory path 0o777) with
      | .ok () => finish path
      | .error e =>
        note ("cannot create directory " ++ Quoting.typographic path ++ ": " ++ e.reason)

/-! ## New names -/

def newLetters (seed count : Nat) : List Char :=
  let letters := ("0123456789ABCDEFGHIJKLMNOPQRSTUVWXYZabcdefghijklmnopqrstuvwxyz").toList
  ((List.range count).foldl (fun (r : List Char × Nat) _ =>
    (letters.getD (r.2 / 65536 % 62) 'a' :: r.1, (r.2 * 1103515245 + 12345) % 4294967296))
    ([], seed)).1

/-- The start of a template, the number of characters that are chosen, and its end. -/
def templateParts (template : String) (ending : Option String) :
    Except String (String × Nat × String) :=
  let cs := template.toList
  let reversed := cs.reverse
  let endingFound := reversed.takeWhile (· ≠ 'X')
  let (start, tail) := match ending with
    | some e => (cs, e.toList)
    | none =>
      if endingFound.length = cs.length then (cs, [])
      else (cs.take (cs.length - endingFound.length), endingFound.reverse)
  let count := (start.reverse.takeWhile (· = 'X')).length
  if ending.isSome && start.getLast? ≠ some 'X' then
    .error ("with --suffix, template " ++ Quoting.typographic template ++ " must end in X")
  else if tail.contains '/' then
    .error ("invalid suffix " ++ Quoting.typographic (String.ofList tail) ++
      ", contains directory separator")
  else if count < 3 then
    .error ("too few X's in template " ++
      Quoting.typographic (template ++ ending.getD ""))
  else .ok (String.ofList (start.take (start.length - count)), count, String.ofList tail)

/-- The directory in which a new name is made, if it is not the working directory. -/
def templatePlace (given : List OptionForm.Given) (template : Option String) :
    Work (Option String) := do
  let usual := match (← get).environment.lookup "TMPDIR" with
    | some d => if d.isEmpty then none else some d
    | none => none
  let chosen := match (given.reverse.find? fun g => g.1 = 'p' || g.1 = 'T').bind (·.2) with
    | some d => if d.isEmpty then none else some d
    | none => none
  let text := template.getD ""
  if isGiven given 't' then
    if text.toList.contains '/' then
      fail 1 ("invalid template, " ++ Quoting.typographic text ++
        ", contains directory separator")
    pure (some ((usual.or chosen).getD "/tmp"))
  else if template.isNone || isGiven given 'p' || isGiven given 'T' then
    if isAbsolute text then
      fail 1 ("invalid template, " ++ Quoting.typographic text ++
        "; with --tmpdir, it may not be absolute")
    pure (some ((chosen.or usual).getD "/tmp"))
  else pure none

def mktemp (args : List String) : Work Unit := do
  let (given, operands) ← options
    [.flag 'd' "directory", .flag 'u' "dry-run", .flag 'q' "quiet", .flag 't' "", .taking 'p' "",
      .named 'T' "tmpdir" .optional, .named 's' "suffix" .required] false 1 args
  if 1 < operands.length then misused 1 "too many templates"
  let template := operands.headD "tmp.XXXXXXXXXX"
  let (start, count, ending) ← match templateParts template (argument? given 's') with
    | .ok r => pure r
    | .error text => fail 1 text
  let place ← templatePlace given operands.head?
  let inPlace (name : String) : String := (place.map (pathIn · name)).getD name
  let now : Nat ← ask .time
  let pid : Nat ← ask .pid
  let name := start ++ String.ofList (newLetters (now * 7919 + pid * 104729) count) ++ ending
  let path := inPlace name
  let r ← if isGiven given 'u' then pure (.ok ())
    else if isGiven given 'd' then ask (.makeDirectory path 0o700)
    else do
      match ← ask (.openFile path { writes := true, creates := true, excludes := true }) with
      | .ok stream => do
        let _ ← ask (.close stream)
        ask (.changeMode path 0o600)
      | .error e => pure (.error e)
  match r with
  | .ok () => printLine path
  | .error e =>
    if isGiven given 'q' then leave 1
    let what := if isGiven given 'd' then "directory" else "file"
    let shown := inPlace (if (argument? given 's').isSome then template ++ ending else template)
    fail 1 ("failed to create " ++ what ++ " via template " ++ Quoting.typographic shown ++ ": " ++
      e.reason)

/-! ## Sizes -/

def changedSize (sign : Option Char) (n size : Nat) : Nat :=
  match sign with
  | some '+' => size + n
  | some '-' => size - n
  | some '<' => min size n
  | some '>' => max size n
  | some '/' => size / n * n
  | some '%' => (size + n - 1) / n * n
  | _ => n

def truncate (args : List String) : Work Unit := do
  let (given, operands) ← options
    [.flag 'c' "no-create", .flag 'o' "io-blocks", .taking 'r' "reference", .taking 's' "size"]
    false 1 args
  let (sign, size) ← match argument? given 's' with
    | none => pure (none, none)
    | some text =>
      let cs := Text.trimStart text.toList
      let (sign, digits) := match cs with
        | c :: rest => if "+-<>/%".toList.contains c then (some c, Text.trimStart rest)
          else (none, cs)
        | [] => (none, [])
      match count? (String.ofList digits) with
      | some n =>
        if n = 0 && (sign = some '/' || sign = some '%') then fail 1 "division by zero"
        pure (sign, some n)
      | none => fail 1 ("Invalid number: " ++ Quoting.typographic text)
  let reference ← match argument? given 'r' with
    | none => pure none
    | some file => do
      match ← ask (.inspect file true) with
      | .ok ⟨_, node, _⟩ => pure (some node.size)
      | .error e => fail 1 ("cannot stat " ++ Quoting.shell file ++ ": " ++ e.reason)
  if size.isNone && reference.isNone then
    misused 1 ("you must specify either " ++ Quoting.typographic "--size" ++ " or " ++
      Quoting.typographic "--reference")
  if size.isSome && reference.isSome && sign.isNone then
    misused 1 ("you must specify a relative " ++ Quoting.typographic "--size" ++ " with " ++
      Quoting.typographic "--reference")
  if isGiven given 'o' && size.isNone then
    misused 1 (Quoting.typographic "--io-blocks" ++ " was specified but " ++
      Quoting.typographic "--size" ++ " was not")
  if operands.isEmpty then misused 1 "missing file operand"
  let unit := if isGiven given 'o' then 4096 else 1
  for file in operands do
    let made : Option (Except OsError Unit) ← if isGiven given 'c' && (← inspect? file true).isNone then pure none
      else match ← ask (.openFile file { writes := true, creates := true }) with
        | .ok stream =>
          let _ ← ask (.close stream)
          pure (some (.ok ()))
        | .error e => pure (some (.error e))
    match made with
    | none => pure ()
    | some (.error e) =>
      note ("cannot open " ++ Quoting.shell file ++ " for writing: " ++ e.reason)
    | some (.ok ()) =>
      let old := ((← inspect? file true).map (·.node.size)).getD 0
      let size := match size with
        | some n => changedSize sign (n * unit) (reference.getD old)
        | none => reference.getD 0
      match ← ask (.truncate file size) with
      | .ok () => pure ()
      | .error e =>
        note ("failed to truncate " ++ Quoting.shell file ++ " at " ++ Decimal.text size ++
          " bytes: " ++ e.reason)

end JobLaunch.Rehearsal.Utility
