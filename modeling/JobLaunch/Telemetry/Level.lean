import JobLaunch.Text.Blank
import JobLaunch.Text.Decimal

/-!
# Log levels

* `Level` — a level, from errors to traces.
* `Level.rankOf?` — the rank that a text stands for.
-/

namespace JobLaunch

/-- How urgent a log record is. -/
inductive Level where
  | error
  | warn
  | info
  | debug
  | trace
  deriving DecidableEq, Inhabited

namespace Level

/-- All levels, the most urgent first. -/
def all : List Level := [error, warn, info, debug, trace]

def name : Level → String
  | error => "ERROR"
  | warn => "WARN"
  | info => "INFO"
  | debug => "DEBUG"
  | trace => "TRACE"

/-- The place of a level among all, from one on. -/
def rank : Level → Nat
  | error => 1
  | warn => 2
  | info => 3
  | debug => 4
  | trace => 5

/-- The rank that a text stands for: a number up to five, or a name in any case. Nothing is enabled
at rank zero, and the empty text stands for the rank of errors. -/
def rankOf? (cs : List Char) : Option Nat :=
  let digits := match cs with
    | '+' :: r => r
    | r => r
  if !digits.isEmpty && digits.all Text.isDigit && Decimal.value digits ≤ 5 then
    some (Decimal.value digits)
  else if cs.isEmpty then some 1
  else match (cs.map Char.toUpper) with
    | ['O', 'F', 'F'] => some 0
    | name => (all.find? (·.name.toList = name)).map (·.rank)

end Level

end JobLaunch
