import JobLaunch.Rehearsal.Files
import JobLaunch.Text.Decimal

/-!
# Permissions

The mode of a file has three bits each for its owner, its group and others, and three special ones
above them. A change of a mode is given by an octal number, or by clauses such as `u+rw` and `go=r`.

* `ModeChange` — a step of a change.
* `ModeChange.parse?` — the steps that a text means.
* `ModeChange.applyAll` — the mode after some steps.
* `Mode.letters` — a mode as it is shown.
-/

namespace JobLaunch.Rehearsal

namespace Mode

def all : Nat := 0o7777

def rights : Nat := 0o777

def without (bits taken : Nat) : Nat := bits - (bits &&& taken)

def letters (mode : Nat) : List Char :=
  let has (bit : Nat) : Bool := mode &&& bit ≠ 0
  let right (bit : Nat) (c : Char) : Char := if has bit then c else '-'
  let run (bit special : Nat) (both alone : Char) : Char :=
    if has special then if has bit then both else alone else right bit 'x'
  [right 0o400 'r', right 0o200 'w', run 0o100 0o4000 's' 'S',
    right 0o40 'r', right 0o20 'w', run 0o10 0o2000 's' 'S',
    right 0o4 'r', right 0o2 'w', run 0o1 0o1000 't' 'T']

def kind (n : FileNode) : Char :=
  match n.content with
  | .directory .. => 'd'
  | .symlink _ => 'l'
  | .device _ => 'c'
  | _ => '-'

def ofFile (n : FileNode) : String := String.ofList (kind n :: letters n.mode)

def octal (mode : Nat) : String :=
  let ds := Nat.toDigits 8 mode
  String.ofList (List.replicate (4 - ds.length) '0' ++ ds)

end Mode

/-- How a step changes bits. -/
inductive ModeOperator where
  | put
  | add
  | remove
  deriving DecidableEq, Inhabited

inductive ModeBits where
  | these (bits : Nat)
  | runnable (bits : Nat)
  | copied (users : Nat)
  deriving DecidableEq, Inhabited

structure ModeChange where
  operator : ModeOperator
  /-- The bits of the users that are named; if none are, the mask decides. -/
  affected : Nat
  bits : ModeBits
  /-- The bits that are named. The special bits of a directory stay as they are if they are not. -/
  mentioned : Nat
  deriving DecidableEq, Inhabited

namespace ModeChange

def apply (mask : Nat) (isDirectory : Bool) (c : ModeChange) (mode : Nat) : Nat :=
  let kept := if isDirectory then Mode.without 0o6000 c.mentioned else 0
  let value := match c.bits with
    | .these b => b
    | .runnable b => if isDirectory || mode &&& 0o111 ≠ 0 then b ||| 0o111 else b
    | .copied users =>
      let own := mode &&& users
      let spread (bits : Nat) : Nat := if own &&& bits ≠ 0 then bits else 0
      own ||| spread 0o444 ||| spread 0o222 ||| spread 0o111
  let allowed := if c.affected = 0 then Mode.without Mode.all mask else c.affected
  let value := Mode.without (value &&& allowed) kept
  match c.operator with
  | .put =>
    let untouched := if c.affected = 0 then 0 else Mode.without Mode.all c.affected
    (mode &&& (untouched ||| kept)) ||| value
  | .add => mode ||| value
  | .remove => Mode.without mode value

def applyAll (mask : Nat) (isDirectory : Bool) (cs : List ModeChange) (mode : Nat) : Nat :=
  cs.foldl (fun mode c => c.apply mask isDirectory mode) mode

/-- The step that gives a file a mode. The special bits of a directory are only changed by five
digits, or if they are set. -/
def exactly (mode digits : Nat) : ModeChange :=
  ⟨.put, Mode.all, .these mode, if digits < 5 then (mode &&& 0o7000) ||| Mode.rights else Mode.all⟩

def users? : Char → Option Nat
  | 'u' => some 0o4700
  | 'g' => some 0o2070
  | 'o' => some 0o1007
  | 'a' => some Mode.all
  | _ => none

def right? : Char → Option Nat
  | 'r' => some 0o444
  | 'w' => some 0o222
  | 'x' => some 0o111
  | 's' => some 0o6000
  | 't' => some 0o1000
  | 'X' => some 0
  | _ => none

def operator? : Char → Option ModeOperator
  | '=' => some .put
  | '+' => some .add
  | '-' => some .remove
  | _ => none

def isOctal (c : Char) : Bool := '0' ≤ c && c ≤ '7'

def octalValue (ds : List Char) : Nat := ds.foldl (fun n c => n * 8 + Decimal.digitValue c) 0

/-- The step of an operator whose operand is at the start of a text, and the text after it. -/
def parseOperand (operator : ModeOperator) (affected : Nat) (cs : List Char) :
    Option (ModeChange × List Char) :=
  let step (bits : ModeBits) (mentioned : Nat) : ModeChange := ⟨operator, affected, bits, mentioned⟩
  let named (bits : Nat) : Nat := if affected = 0 then bits else affected &&& bits
  match cs with
  | 'u' :: rest => some (step (.copied 0o700) (named 0o700), rest)
  | 'g' :: rest => some (step (.copied 0o70) (named 0o70), rest)
  | 'o' :: rest => some (step (.copied 0o7) (named 0o7), rest)
  | cs =>
    let (ds, rest) := cs.span isOctal
    if ds.isEmpty then
      let (ls, rest) := cs.span fun c => (right? c).isSome
      let bits := ls.foldl (fun b c => b ||| (right? c).getD 0) 0
      some (step (if ls.contains 'X' then .runnable bits else .these bits) (named bits), rest)
    else if affected ≠ 0 || Mode.all < octalValue ds || !(rest.isEmpty || rest.head? = some ',') then
      none
    else some (⟨operator, Mode.all, .these (octalValue ds), Mode.all⟩, rest)

/-- The steps of the operators at the start of a clause, and the text after them. -/
def parseOperators (affected : Nat) : Nat → List Char → Option (List ModeChange × List Char)
  | 0, _ => none
  | n + 1, cs =>
    match cs with
    | [] => none
    | c :: cs => do
      let operator ← operator? c
      let (step, rest) ← parseOperand operator affected cs
      match rest with
      | d :: _ =>
        if (operator? d).isSome then
          let (steps, rest) ← parseOperators affected n rest
          some (step :: steps, rest)
        else some ([step], rest)
      | [] => some ([step], [])

def parseClauses : Nat → List Char → Option (List ModeChange)
  | 0, _ => none
  | n + 1, cs => do
    let (named, rest) := cs.span fun c => (users? c).isSome
    let affected := named.foldl (fun b c => b ||| (users? c).getD 0) 0
    let (steps, rest) ← parseOperators affected (rest.length + 1) rest
    match rest with
    | [] => some steps
    | ',' :: rest => do some (steps ++ (← parseClauses n rest))
    | _ => none

def parse? (text : String) : Option (List ModeChange) :=
  let cs := text.toList
  let (ds, rest) := cs.span isOctal
  if ds.isEmpty then parseClauses (cs.length + 1) cs
  else if rest.isEmpty && octalValue ds ≤ Mode.all then some [exactly (octalValue ds) ds.length]
  else none

end ModeChange

end JobLaunch.Rehearsal
