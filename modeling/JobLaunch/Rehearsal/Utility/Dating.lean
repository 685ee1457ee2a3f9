import JobLaunch.Rehearsal.Calendar
import JobLaunch.Rehearsal.Utility.Options

/-!
# Dates

* `DateDraft`, `DateDraft.read?` — a point in time that is given in words.
* `Utility.date` — tells a point in time.
-/

namespace JobLaunch.Rehearsal

open Text (isDigit)

/-- What words tell of a point in time. -/
structure DateDraft where
  date : Option (Int × Nat × Nat) := none
  time : Option (Nat × Nat) := none
  zone : Int := 0
  weekday : Option Nat := none
  months : Int := 0
  days : Int := 0
  seconds : Int := 0
  last : Int × String := (0, "")
  deriving Inhabited

namespace DateDraft

def named? (names : List String) (word : List Char) : Option Nat :=
  let lower (s : String) : List Char := s.toList.map Char.toLower
  names.findIdx? fun n => lower n = word || (lower n).take 3 = word ||
    (word = "sept".toList && n = "September")

def add (d : DateDraft) (n : Int) (unit : String) : Option DateDraft :=
  let d := { d with last := (n, unit) }
  match if unit.length = 1 then unit else String.ofList
      ((unit.toList.reverse.dropWhile (· = 's')).reverse) with
  | "year" => some { d with months := d.months + 12 * n }
  | "month" => some { d with months := d.months + n }
  | "fortnight" => some { d with days := d.days + 14 * n }
  | "week" => some { d with days := d.days + 7 * n }
  | "day" => some { d with days := d.days + n }
  | "hour" => some { d with seconds := d.seconds + 3600 * n }
  | "minute" | "min" => some { d with seconds := d.seconds + 60 * n }
  | "second" | "sec" => some { d with seconds := d.seconds + n }
  | _ => none

def zone? (cs : List Char) : Option (Int × List Char) :=
  match cs with
  | sign :: rest =>
    if sign ≠ '+' && sign ≠ '-' then none
    else
      let (hours, rest) := rest.span isDigit
      let (hours, minutes, rest) := match hours, rest with
        | [_, _, _, _], rest => (hours.take 2, hours.drop 2, rest)
        | hs, ':' :: rest => (hs, rest.takeWhile isDigit, rest.dropWhile isDigit)
        | hs, rest => (hs, [], rest)
      if hours.isEmpty || 2 < hours.length then none
      else
        let n : Int := Decimal.value hours * 3600 + Decimal.value minutes * 60
        some (if sign = '-' then -n else n, rest)
  | [] => none

def readTime (d : DateDraft) (hours : Nat) (cs : List Char) : Option (DateDraft × List Char) := do
  let (minutes, rest) := cs.span isDigit
  if minutes.isEmpty || 2 < minutes.length then none
  let (secs, nano, rest) := match rest with
    | ':' :: rest =>
      let (secs, rest) := rest.span isDigit
      match rest with
      | '.' :: rest | ',' :: rest =>
        let (ds, rest) := rest.span isDigit
        (secs, Decimal.value ((ds ++ List.replicate 9 '0').take 9), rest)
      | rest => (secs, 0, rest)
    | rest => (['0'], 0, rest)
  if secs.isEmpty then none
  let m := Decimal.value minutes
  let s := Decimal.value secs
  let word := (Text.trimStart rest).takeWhile fun c => c.isAlpha || c = '.'
  let half := word.filter (· ≠ '.') |>.map Char.toLower
  let (hours, rest) ← match half with
    | ['a', 'm'] => if 1 ≤ hours && hours ≤ 12 then
        some (hours % 12, (Text.trimStart rest).drop word.length) else none
    | ['p', 'm'] => if 1 ≤ hours && hours ≤ 12 then
        some (hours % 12 + 12, (Text.trimStart rest).drop word.length) else none
    | _ => some (hours, rest)
  if 23 < hours || 59 < m || 59 < s || d.time.isSome then none
  let d := { d with time := some (hours * 3600 + m * 60 + s, nano) }
  match zone? (Text.trimStart rest) with
  | some (zone, rest) => some ({ d with zone }, rest)
  | none => some (d, rest)

def withDate (d : DateDraft) (year : Int) (month day : Nat) : Option DateDraft :=
  if d.date.isSome || month < 1 || 12 < month || day < 1 ||
      Timestamp.monthLength year month < day then none
  else some { d with date := some (year, month, day) }

def yearOf (ds : List Char) : Int :=
  let n := Decimal.value ds
  if ds.length ≤ 2 then if n < 69 then 2000 + n else 1900 + n else n

def readNumber (d : DateDraft) (now : Int) (ds rest : List Char) :
    Option (DateDraft × List Char) := do
  let n := Decimal.value ds
  match rest with
  | ':' :: rest => d.readTime n rest
  | '-' :: rest =>
    let (month, rest) := rest.span isDigit
    match rest with
    | '-' :: rest =>
      let (day, rest) := rest.span isDigit
      if month.isEmpty || day.isEmpty then none
      let d ← d.withDate (yearOf ds) (Decimal.value month) (Decimal.value day)
      match rest with
      | 'T' :: rest | 't' :: rest => some (d, rest)
      | rest => some (d, rest)
    | _ => none
  | '/' :: rest =>
    let (second, rest) := rest.span isDigit
    if second.isEmpty then none
    match rest with
    | '/' :: rest =>
      let (third, rest) := rest.span isDigit
      if third.isEmpty then none
      let d ← if 4 ≤ ds.length then
          d.withDate n (Decimal.value second) (Decimal.value third)
        else d.withDate (yearOf third) n (Decimal.value second)
      some (d, rest)
    | rest => return (← d.withDate now n (Decimal.value second), rest)
  | rest =>
    let after := Text.trimStart rest
    let word := (after.takeWhile Char.isAlpha).map Char.toLower
    match named? Calendar.monthNames word with
    | some month =>
      let rest := Text.trimStart (after.drop word.length)
      let (year, more) := rest.span isDigit
      if year.isEmpty || more.head? == some ':' then
        return (← d.withDate now (month + 1) n, after.drop word.length)
      else return (← d.withDate (yearOf year) (month + 1) n, more)
    | none =>
      match d.add n (String.ofList word) with
      | some d => some (d, after.drop word.length)
      | none =>
        if ds.length = 8 then
          return (← d.withDate (Decimal.value (ds.take 4)) (Decimal.value ((ds.drop 4).take 2))
            (Decimal.value (ds.drop 6)), rest)
        else if ds.length = 4 && d.date.isSome && d.time.isSome then
          match d.date with
          | some (_, month, day) =>
            let bare : DateDraft := { d with date := none }
            return (← bare.withDate n month day, rest)
          | none => none
        else if ds.length ≤ 2 && (word = ['a', 'm'] || word = ['p', 'm']) then
          d.readTime n ("00 ".toList ++ rest)
        else if ds.length = 4 && d.time.isNone then
          d.readTime (Decimal.value (ds.take 2)) (ds.drop 2 ++ rest)
        else if ds.length ≤ 2 && d.time.isNone then d.readTime n ("00".toList ++ rest)
        else none

def readWord (d : DateDraft) (now : Int) (word rest : List Char) :
    Option (DateDraft × List Char) := do
  let text := String.ofList (word.map Char.toLower)
  let unitAfter : List Char × List Char := (Text.trimStart rest).span Char.isAlpha
  let unit := String.ofList (unitAfter.1.map Char.toLower)
  match text with
  | "now" | "today" | "t" | "and" => some (d, rest)
  | "z" | "utc" | "gmt" | "ut" => some (d, rest)
  | "yesterday" => return (← d.add (-1) "day", rest)
  | "tomorrow" => return (← d.add 1 "day", rest)
  | "ago" =>
    -- What has been added last has counted forwards.
    return (← d.add (-2 * d.last.1) d.last.2, rest)
  | "next" => return (← d.add 1 unit, unitAfter.2)
  | "last" => return (← d.add (-1) unit, unitAfter.2)
  | "this" => return (← d.add 0 unit, unitAfter.2)
  | _ =>
    match named? Calendar.monthNames text.toList, named? Calendar.dayNames text.toList with
    | some month, _ =>
      let rest := Text.trimStart rest
      let (day, rest) := rest.span isDigit
      if day.isEmpty then none
      let after := Text.trimStart (if rest.head? == some ',' then rest.drop 1 else rest)
      let (year, more) := after.span isDigit
      if year.isEmpty || more.head? == some ':' then
        return (← d.withDate now (month + 1) (Decimal.value day), rest)
      else return (← d.withDate (yearOf year) (month + 1) (Decimal.value day), more)
    | none, some day =>
      some ({ d with weekday := some day }, if rest.head? == some ',' then rest.drop 1 else rest)
    | none, none => return (← d.add 1 text, rest)

def readWithin (now : Int) : Nat → DateDraft → List Char → Option DateDraft
  | 0, _, _ => none
  | n + 1, d, cs =>
    match Text.trimStart cs with
    | [] => some d
    | c :: rest =>
      if isDigit c then do
        let (ds, rest) := (c :: rest).span isDigit
        let (d, rest) ← d.readNumber now ds rest
        readWithin now n d rest
      else if c.isAlpha then do
        let (word, rest) := (c :: rest).span Char.isAlpha
        let (d, rest) ← d.readWord now word rest
        readWithin now n d rest
      else if c = '+' || c = '-' then do
        let (ds, rest) := (Text.trimStart rest).span isDigit
        if ds.isEmpty then none
        let (word, rest) := (Text.trimStart rest).span Char.isAlpha
        let m : Int := Decimal.value ds
        let d ← d.add (if c = '-' then -m else m) (String.ofList (word.map Char.toLower))
        readWithin now n d rest
      else none

def resolve (d : DateDraft) (now : Timestamp) : Timestamp :=
  let (year, month, day) := d.date.getD (Timestamp.dateOf now.day)
  let isRelative := d.date.isNone && d.time.isNone && d.weekday.isNone
  let (second, nano) := d.time.getD (if isRelative then (now.second, now.nano) else (0, 0))
  let months := year * 12 + (month - 1 : Nat) + d.months
  let start := Timestamp.dayOf (months.fdiv 12) ((months % 12).toNat + 1) 1 + (day - 1 : Nat)
  let start := match d.weekday.filter fun _ => d.date.isNone with
    | some w => start + ((w + 7 - Calendar.weekday ⟨start, 0, 0⟩) % 7 : Nat)
    | none => start
  let seconds := (start + d.days - Calendar.firstDay) * 86400 + second + d.seconds - d.zone
  Calendar.ofNanos (seconds * Timestamp.nanosInSecond + nano)

def readSeconds (cs : List Char) : Option Timestamp := do
  let (negative, rest) := match cs with
    | '-' :: rest => (true, rest)
    | '+' :: rest => (false, rest)
    | rest => (false, rest)
  let (ds, rest) := rest.span isDigit
  if ds.isEmpty then none
  let fraction ← match rest with
    | [] => some []
    | '.' :: fs | ',' :: fs => if fs.all isDigit then some fs else none
    | _ => none
  let nanos : Int := Decimal.value ds * Timestamp.nanosInSecond +
    Decimal.value ((fraction ++ List.replicate 9 '0').take 9)
  some (Calendar.ofNanos (if negative then -nanos else nanos))

def read? (now : Timestamp) (text : String) : Option Timestamp :=
  match Text.trim text.toList with
  | '@' :: rest => readSeconds rest
  | [] => some { now with second := 0, nano := 0 }
  | cs => (readWithin (Timestamp.dateOf now.day).1 (cs.length + 1) {} cs).map (·.resolve now)

end DateDraft

namespace Utility

def isoForm (part : String) : Option String :=
  [("hours", "%Y-%m-%dT%H%:z"), ("minutes", "%Y-%m-%dT%H:%M%:z"), ("date", "%Y-%m-%d"),
    ("seconds", "%Y-%m-%dT%H:%M:%S%:z"), ("ns", "%Y-%m-%dT%H:%M:%S,%N%:z")].lookup part

def plainForm (part : String) : Option String :=
  [("date", "%Y-%m-%d"), ("seconds", "%Y-%m-%d %H:%M:%S%:z"),
    ("ns", "%Y-%m-%d %H:%M:%S.%N%:z")].lookup part

def formsGiven : List OptionForm.Given → Work (List String)
  | [] => pure []
  | (c, arg) :: rest => do
    let forms ← match c with
      | 'R' => pure ["%a, %d %b %Y %H:%M:%S %z"]
      | 'I' =>
        match isoForm (arg.getD "date") with
        | some f => pure [f]
        | none =>
          unknownWord 1 "--iso-8601" (arg.getD "") ["hours", "minutes", "date", "seconds", "ns"]
      | '3' =>
        match plainForm (arg.getD "") with
        | some f => pure [f]
        | none => unknownWord 1 "--rfc-3339" (arg.getD "") ["date", "seconds", "ns"]
      | _ => pure []
    return forms ++ (← formsGiven rest)

def date (args : List String) : Work Unit := do
  let (given, operands) ← options
    [.taking 'd' "date", .taking 'f' "file", { letter := 'I', long := "iso-8601", arity := .optional },
      .flag 'R' "rfc-email", .named '3' "rfc-3339" .required, .taking 'r' "reference",
      .taking 's' "set", .flag 'u' "utc"] false 1 args
  let time : Nat ← ask .time
  let now := Calendar.atClock time
  let sources := (given.map (·.1)).filter fun c => c = 'd' || c = 'f' || c = 'r'
  if 1 < sources.eraseDups.length then
    misused 1 "the options to specify dates for printing are mutually exclusive"
  let forms ← formsGiven given
  if 1 < forms.length then fail 1 "multiple output formats specified"
  let form ← match operands with
    | [] => pure none
    | [operand] =>
      if operand.toList.head? == some '+' then
        if !forms.isEmpty then fail 1 "multiple output formats specified"
        pure (some (String.ofList (operand.toList.drop 1)))
      else if !sources.isEmpty || isGiven given 's' then
        misused 1 ("the argument " ++ Quoting.typographic operand ++
          " lacks a leading '+';\nwhen using an option to specify date(s), any non-option\n" ++
          "argument must be a format string beginning with '+'")
      else fail 1 ("invalid date " ++ Quoting.typographic operand)
    | _ :: extra :: _ => misused 1 ("extra operand " ++ Quoting.typographic extra)
  let form := (form.or forms.head?).getD "%a %b %e %H:%M:%S %Z %Y"
  let moment ← match argument? given 'd', argument? given 'r' with
    | some text, _ =>
      match DateDraft.read? now text with
      | some t => pure t
      | none => fail 1 ("invalid date " ++ Quoting.typographic text)
    | none, some path =>
      match ← ask (.inspect path true) with
      | .ok ⟨_, node, _⟩ => pure (Calendar.atClock node.changed)
      | .error e => fail 1 (Quoting.shellIfNeeded path ++ ": " ++ e.reason)
    | none, none => pure now
  match argument? given 's' with
  | some text =>
    match DateDraft.read? now text with
    | some t =>
      complain "cannot set date: Operation not permitted"
      printLine (Calendar.fill true t form)
      setCode 1
    | none => fail 1 ("invalid date " ++ Quoting.typographic text)
  | none => printLine (Calendar.fill true moment form)

end Utility

end JobLaunch.Rehearsal
