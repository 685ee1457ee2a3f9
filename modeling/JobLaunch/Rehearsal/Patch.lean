import JobLaunch.Rehearsal.Difference
import JobLaunch.Text.Decimal

/-!
# Patches

What makes the lines of one file out of the lines of another one, and how that is shown.

* `LineRules` — which lines count as equal.
* `Patch.of` — the changes between the lines of two files.
* `Patch.hunks` — changes that are shown together.
* `Patch.normal`, `Patch.unified`, `Patch.context`, `Patch.commands`, `Patch.counted` — ways to show
  them.
-/

namespace JobLaunch.Rehearsal

inductive BlankRule where
  | none
  | amount
  | all
  deriving DecidableEq, Inhabited

/-- Which lines count as equal. -/
structure LineRules where
  ignoresCase : Bool := false
  blanks : BlankRule := .none
  trimsEnd : Bool := false
  expandsTabs : Bool := false
  countsEnd : Bool := true
  ignoresEmpty : Bool := false
  deriving DecidableEq, Inhabited

namespace LineRules

def isBlank (b : UInt8) : Bool := b = 32 || (9 ≤ b && b ≤ 13)

def expanded : Nat → Bytes → Bytes
  | _, [] => []
  | column, b :: rest =>
    if b = 9 then
      let count := 8 - column % 8
      List.replicate count 32 ++ expanded (column + count) rest
    else b :: expanded (column + 1) rest

def squeezed : Bool → Bytes → Bytes
  | _, [] => []
  | afterBlank, b :: rest =>
    if isBlank b then if afterBlank then squeezed true rest else 32 :: squeezed true rest
    else b :: squeezed false rest

def trimmed (line : Bytes) : Bytes := (line.reverse.dropWhile isBlank).reverse

def forgivesEnd (r : LineRules) : Bool := r.blanks ≠ .none || r.trimsEnd || !r.countsEnd

def key (r : LineRules) (line : Bytes) : Bytes :=
  let ended := line.getLast? = some 10
  let body := if ended then line.dropLast else line
  let body := if r.expandsTabs then expanded 0 body else body
  let body := if r.trimsEnd then trimmed body else body
  let body := match r.blanks with
    | .none => body
    | .amount => trimmed (squeezed false body)
    | .all => body.filter (!isBlank ·)
  let body := if r.ignoresCase then
      body.map fun b => if 65 ≤ b && b ≤ 90 then b + 32 else b
    else body
  if ended || r.forgivesEnd then body ++ [10] else body

def isEmptyLine (r : LineRules) (line : Bytes) : Bool :=
  if r.blanks ≠ .none || r.trimsEnd then line.all isBlank else line = [10] || line = []

end LineRules

/-- The lines of two files and the changes between them. -/
structure Patch where
  old : Array Bytes
  new : Array Bytes
  changes : List Change
  deriving Inhabited

namespace Patch

/-! ## Changes -/

def commonStart : List Bytes → List Bytes → Nat
  | a :: as, b :: bs => if a = b then commonStart as bs + 1 else 0
  | _, _ => 0

/-- Numbers for lines, equal ones for lines that count as equal. -/
def classes (keys : List Bytes) (lines : List Bytes) : Array Nat :=
  (lines.map fun line => keys.idxOf line).toArray

/-- The changes between the lines of two files, of which so many are shown around each. -/
def of (rules : LineRules) (around : Nat) (old new : List Bytes) : Patch :=
  let raw (lines : List Bytes) : List Bytes :=
    if rules.countsEnd then lines
    else lines.map fun line => if line.getLast? = some 10 then line else line ++ [10]
  let (old', new') := (raw old, raw new)
  let start := commonStart old' new' - around
  let (old', new') := (old'.drop start, new'.drop start)
  let stop := commonStart old'.reverse new'.reverse - around
  let body (lines : List Bytes) : List Bytes := (lines.take (lines.length - stop)).map rules.key
  let (old', new') := (body old', body new')
  let keys := (old' ++ new').eraseDups
  let changes := Change.all (classes keys old') (classes keys new')
  { old := old.toArray, new := new.toArray,
    changes := changes.map fun c => { c with old := c.old + start, new := c.new + start } }

def slice (lines : Array Bytes) (start count : Nat) : List Bytes :=
  (lines.toList.drop start).take count

def isIdle (rules : LineRules) (p : Patch) (c : Change) : Bool :=
  rules.ignoresEmpty &&
    (slice p.old c.old c.taken ++ slice p.new c.new c.put).all rules.isEmptyLine

/-- Changes that are shown together: those that are not further apart than lines around them
reach. -/
def together (around : Nat) (isIdle : Change → Bool) : List Change → List (List Change)
  | [] => []
  | c :: rest =>
    match rest, together around isIdle rest with
    | next :: _, hunk :: hunks =>
      let distance := if isIdle c || isIdle next then around else 2 * around + 1
      if next.old - (c.old + c.taken) < distance then (c :: hunk) :: hunks
      else [c] :: hunk :: hunks
    | _, hunks => [c] :: hunks

def hunks (rules : LineRules) (around : Nat) (p : Patch) : List (List Change) :=
  (together around (p.isIdle rules) p.changes).filter fun hunk => !hunk.all (p.isIdle rules)

/-! ## Ways to show it -/

def shownLine (sign : String) (line : Bytes) : Bytes :=
  Bytes.ofText sign ++ line ++
    if line.getLast? = some 10 then [] else Bytes.ofText "\n\\ No newline at end of file\n"

def shownLines (sign : String) (lines : List Bytes) : Bytes := lines.flatMap (shownLine sign)

/-- The numbers of some lines from a place on; of no lines, the number of the one before. -/
def range (separator : String) (start count : Nat) : String :=
  if 1 < count then Decimal.text (start + 1) ++ separator ++ Decimal.text (start + count)
  else Decimal.text (start + count)

def letter (c : Change) : String := if c.taken = 0 then "a" else if c.put = 0 then "d" else "c"

def extent (p : Patch) (around : Nat) (hunk : List Change) : Change :=
  let first := hunk.headD default
  let last := hunk.getLastD default
  let before := min around first.old
  let start := first.old - before
  let newStart := first.new - min around first.new
  let stop := min p.old.size (last.old + last.taken + around)
  let newStop := min p.new.size (last.new + last.put + around)
  ⟨start, newStart, stop - start, newStop - newStart⟩

def normal (p : Patch) (hunk : List Change) : Bytes :=
  hunk.flatMap fun c =>
    Bytes.ofText (range "," c.old c.taken ++ letter c ++ range "," c.new c.put ++ "\n") ++
      shownLines "< " (slice p.old c.old c.taken) ++
      (if 0 < c.taken && 0 < c.put then Bytes.ofText "---\n" else []) ++
      shownLines "> " (slice p.new c.new c.put)

def unifiedLines (p : Patch) (stop : Nat) : Nat → List Change → Bytes
  | place, [] => shownLines " " (slice p.old place (stop - place))
  | place, c :: rest =>
    shownLines " " (slice p.old place (c.old - place)) ++
      shownLines "-" (slice p.old c.old c.taken) ++ shownLines "+" (slice p.new c.new c.put) ++
      p.unifiedLines stop (c.old + c.taken) rest

def unified (p : Patch) (around : Nat) (hunk : List Change) : Bytes :=
  let e := p.extent around hunk
  let part (start count : Nat) : String :=
    if count = 0 then Decimal.text start ++ ",0"
    else if count = 1 then Decimal.text (start + 1)
    else Decimal.text (start + 1) ++ "," ++ Decimal.text count
  Bytes.ofText ("@@ -" ++ part e.old e.taken ++ " +" ++ part e.new e.put ++ " @@\n") ++
    p.unifiedLines (e.old + e.taken) e.old hunk

def contextLines (lines : Array Bytes) (stop : Nat) : Nat → List (Nat × Nat × String) → Bytes
  | place, [] => shownLines "  " (slice lines place (stop - place))
  | place, (start, count, sign) :: rest =>
    shownLines "  " (slice lines place (start - place)) ++
      shownLines sign (slice lines start count) ++ contextLines lines stop (start + count) rest

def context (p : Patch) (around : Nat) (hunk : List Change) : Bytes :=
  let e := p.extent around hunk
  let sign (c : Change) (alone : String) : String :=
    if 0 < c.taken && 0 < c.put then "! " else alone
  let old := if hunk.all (·.taken = 0) then [] else
    contextLines p.old (e.old + e.taken) e.old (hunk.map fun c => (c.old, c.taken, sign c "- "))
  let new := if hunk.all (·.put = 0) then [] else
    contextLines p.new (e.new + e.put) e.new (hunk.map fun c => (c.new, c.put, sign c "+ "))
  Bytes.ofText ("***************\n*** " ++ range "," e.old e.taken ++ " ****\n") ++ old ++
    Bytes.ofText ("--- " ++ range "," e.new e.put ++ " ----\n") ++ new

/-- Lines that are put in by an editor. A line with a single dot would end them. -/
def putLines : Bool → List Bytes → Bytes
  | inserting, [] => if inserting then Bytes.ofText ".\n" else []
  | inserting, line :: rest =>
    (if inserting then [] else Bytes.ofText "a\n") ++
      if line = [46, 10] then Bytes.ofText "..\n.\ns/.//\n" ++ putLines false rest
      else line ++ (if line.getLast? = some 10 then [] else [10]) ++ putLines true rest

/-- Commands for an editor; they go from the end to the start, so that the numbers of lines stay as
they are. -/
def commands (p : Patch) (hunks : List (List Change)) : Bytes :=
  (hunks.flatten.reverse.flatMap fun c =>
    Bytes.ofText (range "," c.old c.taken ++ letter c ++ "\n") ++
      if c.put = 0 then [] else putLines true (slice p.new c.new c.put))

def counted (p : Patch) (hunks : List (List Change)) : Bytes :=
  hunks.flatten.flatMap fun c =>
    (if c.taken = 0 then [] else
      Bytes.ofText ("d" ++ Decimal.text (c.old + 1) ++ " " ++ Decimal.text c.taken ++ "\n")) ++
    if c.put = 0 then [] else
      Bytes.ofText ("a" ++ Decimal.text (c.old + c.taken) ++ " " ++ Decimal.text c.put ++ "\n") ++
        (slice p.new c.new c.put).flatten

end Patch

end JobLaunch.Rehearsal
