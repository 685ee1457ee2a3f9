import JobLaunch.Text.Blank
import JobLaunch.Text.Decimal

/-!
# Points in time

* `Timestamp` — a day and a time of day in UTC, down to nanoseconds.
* `Timestamp.parse?` — reads the RFC 3339 form, with blanks allowed between its parts.
* `Timestamp.text` — writes it in UTC, with the fewest of 0, 3, 6 or 9 fraction digits.

Days are counted in the proleptic Gregorian calendar, from 0000-03-01 so that a leap day ends a
year.
-/

namespace JobLaunch

/-- A point in time, in UTC. -/
structure Timestamp where
  /-- Days since 0000-03-01. -/
  day : Int
  /-- Seconds of the day, below 86400. -/
  second : Nat
  /-- Nanoseconds of the second; a second or more within a leap second. -/
  nano : Nat
  deriving DecidableEq, Inhabited

namespace Timestamp

open Text (isBlank isDigit trimStart)

def nanosInSecond : Nat := 1000000000

/-! ## The calendar -/

def isLeapYear (y : Int) : Bool := y % 4 == 0 && (y % 100 != 0 || y % 400 == 0)

/-- The number of days of a month. -/
def monthLength (y : Int) (m : Nat) : Nat :=
  match m with
  | 2 => if isLeapYear y then 29 else 28
  | 4 | 6 | 9 | 11 => 30
  | _ => 31

/-- The day number of a date. -/
def dayOf (y : Int) (m d : Nat) : Int :=
  let y := if m ≤ 2 then y - 1 else y
  let era := y.fdiv 400
  let yearOfEra := y - era * 400
  let monthFromMarch : Int := (m + 9) % 12
  let dayOfYear := (153 * monthFromMarch + 2) / 5 + d - 1
  let dayOfEra := yearOfEra * 365 + yearOfEra / 4 - yearOfEra / 100 + dayOfYear
  era * 146097 + dayOfEra

def dateOf (day : Int) : Int × Nat × Nat :=
  let era := day.fdiv 146097
  let dayOfEra := day - era * 146097
  let yearOfEra := (dayOfEra - dayOfEra / 1460 + dayOfEra / 36524 - dayOfEra / 146096) / 365
  let dayOfYear := dayOfEra - (365 * yearOfEra + yearOfEra / 4 - yearOfEra / 100)
  let monthFromMarch := (5 * dayOfYear + 2) / 153
  let d := dayOfYear - (153 * monthFromMarch + 2) / 5 + 1
  let m := if monthFromMarch < 10 then monthFromMarch + 3 else monthFromMarch - 9
  let y := yearOfEra + era * 400
  (if m ≤ 2 then y + 1 else y, m.toNat, d.toNat)

/-- The first and the last year of the calendar. -/
def yearRange : Int × Int := (-262143, 262142)

/-! ## Reading -/

def number? (most : Nat) (cs : List Char) : Option (Nat × List Char) :=
  let ds := (cs.takeWhile isDigit).take most
  if ds.isEmpty then none else some (Decimal.value ds, cs.drop ds.length)

/-- A year: four digits, or any number of them after a sign. -/
def year? (cs : List Char) : Option (Int × List Char) :=
  match trimStart cs with
  | '-' :: r => (number? r.length r).map fun (n, r) => (-(n : Int), r)
  | '+' :: r => (number? r.length r).map fun (n, r) => ((n : Int), r)
  | r => (number? 4 r).map fun (n, r) => ((n : Int), r)

def twoDigits? (cs : List Char) : Option (Nat × List Char) := number? 2 (trimStart cs)

/-- The text after a character that may have blanks before it. -/
def after? (c : Char) (cs : List Char) : Option (List Char) :=
  match trimStart cs with
  | c' :: r => if c' = c then some r else none
  | [] => none

/-- Nanoseconds after a point; digits beyond the ninth are dropped. -/
def fraction? : List Char → Option (Nat × List Char)
  | '.' :: r => do
    let ds := (r.takeWhile isDigit).take 9
    let (n, _) ← number? 9 r
    some (n * Nat.pow 10 (9 - ds.length), r.dropWhile isDigit)
  | cs => some (0, cs)

/-- The seconds by which local time is ahead of UTC. -/
def offset? (cs : List Char) : Option (Int × List Char) :=
  match cs with
  | 'Z' :: r | 'z' :: r => some (0, r)
  | sign :: h :: h' :: r => do
    let negative ←
      if sign = '+' then some false
      else if sign = '-' || sign = '\u2212' then some true
      else if (cs.take 3).map Char.toUpper = ['U', 'T', 'C'] then some false
      else none
    if Char.toUpper sign = 'U' then some (0, r) else
    if !(isDigit h && isDigit h') then none else
    match r.dropWhile fun c => c == ':' || isBlank c with
    | m :: m' :: r =>
      if '0' ≤ m && m ≤ '5' && isDigit m' then
        let n : Int := Decimal.value [h, h'] * 3600 + Decimal.value [m, m'] * 60
        some (if negative then -n else n, r)
      else none
    | _ => none
  | _ => none

/-- The point in time of a date, a local time and its offset. -/
def ofParts? (y : Int) (m d hour minute second nano : Nat) (offset : Int) : Option Timestamp :=
  let dateOk := yearRange.1 ≤ y && y ≤ yearRange.2 && 1 ≤ m && m ≤ 12 && 1 ≤ d &&
    d ≤ monthLength y m
  let timeOk := hour < 24 && minute < 60 && second ≤ 60 && offset.natAbs < 86400
  if dateOk && timeOk then
    let leap := if second = 60 then 1 else 0
    let localSecond : Int := hour * 3600 + minute * 60 + (second - leap : Nat)
    let total := localSecond - offset
    let day := dayOf y m d + total.fdiv 86400
    let y' := (dateOf day).1
    if yearRange.1 ≤ y' && y' ≤ yearRange.2 then
      some ⟨day, (total - total.fdiv 86400 * 86400).toNat, nano + leap * nanosInSecond⟩
    else none
  else none

/-- Reads a point in time. -/
def parse? (s : String) : Option Timestamp := do
  let (y, cs) ← year? s.toList
  let cs ← after? '-' cs
  let (m, cs) ← twoDigits? cs
  let cs ← after? '-' cs
  let (d, cs) ← twoDigits? cs
  let cs ← match cs with
    | 'T' :: r | 't' :: r | ' ' :: r => some r
    | _ => none
  let (hour, cs) ← twoDigits? cs
  let cs ← after? ':' cs
  let (minute, cs) ← twoDigits? cs
  let cs ← after? ':' cs
  let (second, cs) ← twoDigits? cs
  let (nano, cs) ← fraction? cs
  let (offset, cs) ← offset? (trimStart cs)
  if (trimStart cs).isEmpty then ofParts? y m d hour minute second nano offset else none

/-! ## Writing -/

def padded (width n : Nat) : List Char :=
  let ds := Decimal.digits n
  List.replicate (width - ds.length) '0' ++ ds

/-- A year: four digits, or a sign and at least four outside 0 to 9999. -/
def yearText (y : Int) : List Char :=
  if 0 ≤ y ∧ y ≤ 9999 then padded 4 y.toNat
  else (if y < 0 then '-' else '+') :: padded 4 y.natAbs

/-- A fraction of a second, with the fewest of 0, 3, 6 or 9 digits that hold it. -/
def fractionText (nano : Nat) : List Char :=
  if nano = 0 then []
  else if nano % 1000000 = 0 then '.' :: padded 3 (nano / 1000000)
  else if nano % 1000 = 0 then '.' :: padded 6 (nano / 1000)
  else '.' :: padded 9 nano

/-- The RFC 3339 form in UTC. -/
def text (t : Timestamp) : String :=
  let (y, m, d) := dateOf t.day
  let leap := t.nano / nanosInSecond
  String.ofList (yearText y ++ '-' :: padded 2 m ++ '-' :: padded 2 d ++
    'T' :: padded 2 (t.second / 3600) ++ ':' :: padded 2 (t.second / 60 % 60) ++
    ':' :: padded 2 (t.second % 60 + leap) ++ fractionText (t.nano % nanosInSecond) ++ ['Z'])

end Timestamp

end JobLaunch
