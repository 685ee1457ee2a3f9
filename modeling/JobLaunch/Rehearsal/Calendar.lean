import JobLaunch.Timestamp

/-!
# Telling times

* `Calendar.ofNanos`, `Calendar.seconds` — points in time by the time since 1970 and back.
* `Calendar.fill` — a point in time in the form that is asked for.
-/

namespace JobLaunch.Rehearsal.Calendar

/-! ## Days -/

def firstDay : Int := Timestamp.dayOf 1970 1 1

/-- The point in time after so many nanoseconds since the start of 1970. -/
def ofNanos (n : Int) : Timestamp :=
  let perSecond : Int := Timestamp.nanosInSecond
  let seconds := n.fdiv perSecond
  let days := seconds.fdiv 86400
  ⟨firstDay + days, (seconds - days * 86400).toNat, (n - seconds * perSecond).toNat⟩

def seconds (t : Timestamp) : Int := (t.day - firstDay) * 86400 + t.second

def nanos (t : Timestamp) : Int := seconds t * Timestamp.nanosInSecond + t.nano

def clockStart : Int := 1735689600

/-- The point in time that the clock of the machine shows in microseconds. -/
def atClock (time : Int) : Timestamp := ofNanos ((clockStart * 1000000 + time) * 1000)

def toClock (t : Timestamp) : Int := (nanos t).fdiv 1000 - clockStart * 1000000

def weekday (t : Timestamp) : Nat := ((t.day - firstDay + 4) % 7).toNat

def dayOfYear (t : Timestamp) : Nat :=
  (t.day - Timestamp.dayOf (Timestamp.dateOf t.day).1 1 1).toNat

/-- The week of the year if weeks begin on a day; the days before the first one are in week zero. -/
def week (first : Nat) (t : Timestamp) : Nat :=
  (dayOfYear t + 7 - (weekday t + 7 - first) % 7) / 7

def weekAndYear (t : Timestamp) : Int × Nat :=
  let monday := t.day - ((weekday t + 6) % 7 : Nat)
  let year := (Timestamp.dateOf (monday + 3)).1
  let fourth := Timestamp.dayOf year 1 4
  let start := fourth - ((weekday ⟨fourth, 0, 0⟩ + 6) % 7 : Nat)
  (year, ((monday - start) / 7).toNat + 1)

def dayNames : List String :=
  ["Sunday", "Monday", "Tuesday", "Wednesday", "Thursday", "Friday", "Saturday"]

def monthNames : List String :=
  ["January", "February", "March", "April", "May", "June", "July", "August", "September",
    "October", "November", "December"]

def short (name : String) : String := String.ofList (name.toList.take 3)

/-! ## Forms -/

/-- A part of a point in time, as it is told. -/
inductive Shown where
  | number (width : Nat) (filler : Char) (n : Int)
  | text (s : String)
  | parts (form : String)

def shown? (t : Timestamp) (c : Char) : Option Shown :=
  let (year, month, day) := Timestamp.dateOf t.day
  let hour := t.second / 3600
  let twelve := if hour % 12 = 0 then 12 else hour % 12
  let two (n : Nat) : Option Shown := some (.number 2 '0' n)
  let blank (n : Nat) : Option Shown := some (.number 2 ' ' n)
  match c with
  | '%' => some (.text "%")
  | 'n' => some (.text "\n")
  | 't' => some (.text "\t")
  | 'a' => some (.text (short (dayNames.getD (weekday t) "")))
  | 'A' => some (.text (dayNames.getD (weekday t) ""))
  | 'b' | 'h' => some (.text (short (monthNames.getD (month - 1) "")))
  | 'B' => some (.text (monthNames.getD (month - 1) ""))
  | 'c' => some (.parts "%a %b %e %H:%M:%S %Y")
  | 'C' => some (.number 2 '0' (year.fdiv 100))
  | 'd' => two day
  | 'D' | 'x' => some (.parts "%m/%d/%y")
  | 'e' => blank day
  | 'F' => some (.parts "%Y-%m-%d")
  | 'g' => two ((weekAndYear t).1 % 100).toNat
  | 'G' => some (.number 4 '0' (weekAndYear t).1)
  | 'H' => two hour
  | 'I' => two twelve
  | 'j' => some (.number 3 '0' (dayOfYear t + 1 : Nat))
  | 'k' => blank hour
  | 'l' => blank twelve
  | 'm' => two month
  | 'M' => two (t.second / 60 % 60)
  | 'p' => some (.text (if hour < 12 then "AM" else "PM"))
  | 'P' => some (.text (if hour < 12 then "am" else "pm"))
  | 'r' => some (.parts "%I:%M:%S %p")
  | 'R' => some (.parts "%H:%M")
  | 's' => some (.number 1 '0' (seconds t))
  | 'S' => two (t.second % 60)
  | 'T' | 'X' => some (.parts "%H:%M:%S")
  | 'u' => some (.number 1 '0' (if weekday t = 0 then 7 else weekday t : Nat))
  | 'U' => two (week 0 t)
  | 'V' => two (weekAndYear t).2
  | 'w' => some (.number 1 '0' (weekday t))
  | 'W' => two (week 1 t)
  | 'y' => two (year % 100).toNat
  | 'Y' => some (.number 4 '0' year)
  | 'z' => some (.text "+0000")
  | 'Z' => some (.text "UTC")
  | _ => none

/-- How a part is to be told. -/
structure Wish where
  filler : Option Char := none
  upper : Bool := false
  swaps : Bool := false
  width : Option Nat := none
  colons : Nat := 0

def readWish : Nat → List Char → Wish → Wish × List Char
  | 0, cs, w => (w, cs)
  | n + 1, cs, w =>
    match cs with
    | '-' :: rest => readWish n rest { w with filler := some '-' }
    | '_' :: rest => readWish n rest { w with filler := some ' ' }
    | '0' :: rest => readWish n rest { w with filler := some '0' }
    | '^' :: rest => readWish n rest { w with upper := true }
    | '#' :: rest => readWish n rest { w with swaps := true }
    | ':' :: rest => readWish n rest { w with colons := w.colons + 1 }
    | cs =>
      let (ds, rest) := cs.span Text.isDigit
      let w := if ds.isEmpty then w else { w with width := some (Decimal.value ds) }
      match rest with
      | 'E' :: rest | 'O' :: rest => (w, rest)
      | rest => (w, rest)

def padded (width : Nat) (filler : Char) (cs : List Char) : List Char :=
  List.replicate (width - cs.length) filler ++ cs

def numberText (w : Wish) (width : Nat) (filler : Char) (n : Int) : List Char :=
  let ds := Decimal.digits n.natAbs
  let sign := if n < 0 then ['-'] else []
  match w.filler with
  | some '-' => sign ++ ds
  | f =>
    let filler := f.getD filler
    let width := w.width.getD width
    if filler = '0' then sign ++ padded (width - sign.length) '0' ds
    else padded width filler (sign ++ ds)

def fractionText (w : Wish) (t : Timestamp) : List Char :=
  let ds := padded 9 '0' (Decimal.digits t.nano)
  ds.take (w.width.getD 9)

def offsetText : Nat → String
  | 0 => "+0000"
  | 1 => "+00:00"
  | 2 => "+00:00:00"
  | _ => "+00"

/-- A point in time in a form; fractions and quarters are parts of it if that is wanted. -/
def fillWithin (full : Bool) (t : Timestamp) : Nat → List Char → List Char
  | 0, _ => []
  | n + 1, cs =>
    match cs with
    | [] => []
    | '%' :: rest =>
      let (w, after) := readWish rest.length rest {}
      match after with
      | [] => cs
      | c :: after =>
        let shown := if full && c = 'N' then some (.text (String.ofList (fractionText w t)))
          else if full && c = 'q' then
            some (.number 1 '0' (((Timestamp.dateOf t.day).2.1 + 2) / 3 : Nat))
          else if c = 'z' && (full || w.colons = 0) then some (.text (offsetText w.colons))
          else if 0 < w.colons then none
          else shown? t c
        let told : List Char := match shown with
          | none => '%' :: rest.take (rest.length - after.length)
          | some (.number width filler v) => numberText w width filler v
          | some (.text s) => (changed w c s.toList)
          | some (.parts form) => (changed w c (fillWithin full t n form.toList))
        told ++ fillWithin full t n after
    | c :: rest => c :: fillWithin full t n rest
where
  changed (w : Wish) (c : Char) (cs : List Char) : List Char :=
    let cs := if w.upper then cs.map Char.toUpper
      else if w.swaps then
        if c = 'p' || c = 'Z' then cs.map Char.toLower else cs.map Char.toUpper
      else cs
    match w.filler with
    | some '-' => cs
    | f => padded (w.width.getD 0) (f.getD ' ') cs

/-- A point in time in a form; fractions and quarters are parts of it if that is wanted. -/
def fill (full : Bool) (t : Timestamp) (form : String) : String :=
  String.ofList (fillWithin full t (form.length + 24) form.toList)

end JobLaunch.Rehearsal.Calendar
