import JobLaunch.Json.Basic
import JobLaunch.Dict

/-!
# Typed values from JSON

* `Json.text?`, `Json.integer?`, `Json.list?`, … — plain values of a type.
* `Json.dict?` — a dictionary from an object; the last of a repeated key wins.
* `Json.record?` — the fields of a record, from an object or, by position, from an array. A
  repeated field is refused and an unknown one ignored.
* `Json.variant?` — the name and the payload of a tagged choice.
-/

namespace JobLaunch.Json

variable {α : Type}

def text? : Json → Option String
  | .string t => t
  | _ => none

def bool? : Json → Option Bool
  | .bool b => some b
  | _ => none

/-- A whole number between two bounds, both included. -/
def integer? (low high : Int) : Json → Option Int
  | .number (.integer i) => if low ≤ i ∧ i ≤ high then some i else none
  | _ => none

/-- A whole number from zero up to below a bound. -/
def natural? (bound : Nat) : Json → Option Nat
  | .number (.integer (.ofNat n)) => if n < bound then some n else none
  | _ => none

/-- A signed number of 32 bits. -/
def int32? (j : Json) : Option Int32 :=
  (j.integer? (-2147483648) 2147483647).map Int32.ofInt

/-- An unsigned number of 32 bits. -/
def uint32? (j : Json) : Option UInt32 := (j.natural? UInt32.size).map UInt32.ofNat

/-- An unsigned number of 64 bits. -/
def uint64? (j : Json) : Option UInt64 := (j.natural? UInt64.size).map UInt64.ofNat

/-- A value that `null` leaves out. -/
def nullable? (read : Json → Option α) : Json → Option (Option α)
  | .null => some none
  | j => (read j).map some

def list? (read : Json → Option α) : Json → Option (List α)
  | .array es => es.mapM read
  | _ => none

def member? (read : Json → Option α) : Option String × Json → Option (String × α)
  | (some k, j) => (read j).map fun a => (k, a)
  | (none, _) => none

def dict? (read : Json → Option α) : Json → Option (Dict α)
  | .object ms => (ms.mapM (member? read)).map Dict.ofList
  | _ => none

/-! ## Records -/

/-- A declared field of a record. -/
structure Field where
  name : String
  /-- May the field be missing at the end of a record that is written as an array? -/
  hasDefault : Bool := false
  deriving DecidableEq, Inhabited

def Field.required (name : String) : Field := ⟨name, false⟩

def Field.defaulted (name : String) : Field := ⟨name, true⟩

/-- Does a key occur more than once? -/
def hasRepeat : List String → Bool
  | [] => false
  | k :: ks => ks.contains k || hasRepeat ks

/-- The members of an object that are declared fields; all keys must be texts, and no field may be
repeated. -/
def declared? (fields : List Field) (ms : List (Option String × Json)) :
    Option (List (String × Json)) := do
  let named ← ms.mapM (member? some)
  let known := named.filter fun m => fields.any (·.name == m.1)
  if hasRepeat (known.map (·.1)) then none else some known

def record? (fields : List Field) : Json → Option (List (String × Json))
  | .object ms => declared? fields ms
  | .array es =>
    if es.length ≤ fields.length && (fields.drop es.length).all (·.hasDefault) then
      some ((fields.map (·.name)).zip es)
    else none
  | _ => none

/-- The value of a field that has to be written. -/
def need (name : String) (read : Json → Option α) (fields : List (String × Json)) : Option α :=
  (Dict.lookup name fields).bind read

def orElse (name : String) (default : α) (read : Json → Option α)
    (fields : List (String × Json)) : Option α :=
  match Dict.lookup name fields with
  | some j => read j
  | none => some default

/-! ## Choices -/

/-- The name and the payload of a choice: a name alone, or an object with one member. -/
def variant? : Json → Option (String × Option Json)
  | .string (some name) => some (name, none)
  | .object [(some name, j)] => some (name, some j)
  | _ => none

/-- The name of a choice without payload; a payload of `null` counts as none. -/
def unitVariant? (j : Json) : Option String :=
  match variant? j with
  | some (name, none) => some name
  | some (name, some .null) => some name
  | _ => none

end JobLaunch.Json
