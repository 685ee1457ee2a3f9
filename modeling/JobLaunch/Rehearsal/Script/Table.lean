import JobLaunch.Rehearsal.Bytes
import JobLaunch.Text.Decimal

/-!
# Lists of values

A variable of a large shell may have several values, by number or by name.

* `Table` — the values with their numbers or names.
* `Table.get?`, `Table.insert`, `Table.erase` — single values.
* `Table.keys`, `Table.values` — all of them, in the order in which they are listed.
-/

namespace JobLaunch.Rehearsal.Script

inductive Table where
  | numbered (entries : List (Nat × String))
  | named (entries : List (String × String))
  deriving DecidableEq, Inhabited

/-- What stands for one of several values. -/
inductive Key where
  | number (n : Nat)
  | name (text : String)
  deriving DecidableEq, Inhabited

namespace Table

def scatter (name : String) : UInt32 :=
  (Bytes.ofText name).foldl (fun h b => (h * 16777619) ^^^ b.toUInt32) 2166136261

def place (name : String) : Nat := (scatter name).toNat % 1024

def insertNumber (n : Nat) (value : String) : List (Nat × String) → List (Nat × String)
  | [] => [(n, value)]
  | (m, v) :: rest =>
    if n < m then (n, value) :: (m, v) :: rest
    else if n = m then (n, value) :: rest
    else (m, v) :: insertNumber n value rest

/-- Puts a name and its value among others; of names with one place the latest comes first. -/
def insertName (name value : String) : List (String × String) → List (String × String)
  | [] => [(name, value)]
  | (m, v) :: rest =>
    if name = m then (name, value) :: rest
    else if place name ≤ place m && rest.all (·.1 ≠ name) then (name, value) :: (m, v) :: rest
    else (m, v) :: insertName name value rest

def get? : Table → Key → Option String
  | numbered entries, .number n => entries.lookup n
  | named entries, .name t => entries.lookup t
  | _, _ => none

def insert : Table → Key → String → Table
  | numbered entries, .number n, v => numbered (insertNumber n v entries)
  | named entries, .name t, v => named (insertName t v entries)
  | t, _, _ => t

def erase : Table → Key → Table
  | numbered entries, .number n => numbered (entries.filter (·.1 ≠ n))
  | named entries, .name t => named (entries.filter (·.1 ≠ t))
  | t, _ => t

def keys : Table → List String
  | numbered entries => entries.map fun (n, _) => Decimal.text n
  | named entries => entries.map (·.1)

def values : Table → List String
  | numbered entries => entries.map (·.2)
  | named entries => entries.map (·.2)

def map (f : String → String) : Table → Table
  | numbered entries => numbered (entries.map fun (n, v) => (n, f v))
  | named entries => named (entries.map fun (x, v) => (x, f v))

def isNamed : Table → Bool
  | numbered _ => false
  | named _ => true

def firstKey (t : Table) : Key := if t.isNamed then .name "0" else .number 0

def next : Table → Nat
  | numbered entries => (entries.getLast?.map (·.1 + 1)).getD 0
  | named _ => 0

def ofList (vs : List String) : Table := numbered ((List.range vs.length).zip vs)

end Table

end JobLaunch.Rehearsal.Script
