import JobLaunch.Rehearsal.Script.Command
import JobLaunch.Text.Decimal

/-!
# Alternatives in braces

A word like `a{b,c}` stands for several words, and so does one like `{1..3}`.

* `Brace.Atom` — a character of a word outside quotes, or another part of it.
* `Brace.words` — the words that a word stands for.
-/

namespace JobLaunch.Rehearsal.Script.Brace

/-- A character of a word outside quotes, or another part of it. -/
inductive Atom where
  | char (c : Char)
  | part (p : Part)

def Atom.isChar (c : Char) : Atom → Bool
  | char d => c == d
  | part _ => false

def atoms (w : Word) : List Atom :=
  w.flatMap fun
    | .text cs false => cs.map .char
    | p => [.part p]

def word (as : List Atom) : Word :=
  as.foldr (fun a w => match a, w with
    | .char c, .text cs false :: rest => .text (c :: cs) false :: rest
    | .char c, w => .text [c] false :: w
    | .part p, w => p :: w) []

/-- What stands between braces, up to the one that closes them, cut at the commas outside inner
braces, and what follows; nothing if they are not closed. The depth counts inner braces. -/
def inside : Nat → List Atom → Option (List (List Atom) × List Atom)
  | _, [] => none
  | depth, a :: rest =>
    if a.isChar '\x7d' && depth = 0 then some ([[]], rest)
    else if a.isChar ',' && depth = 0 then
      (inside depth rest).map fun (pieces, after) => ([] :: pieces, after)
    else
      let depth := if a.isChar '\x7b' then depth + 1
        else if a.isChar '\x7d' then depth - 1 else depth
      (inside depth rest).map fun (pieces, after) =>
        (match pieces with
          | p :: ps => (a :: p) :: ps
          | [] => [[a]], after)

/-! ## Sequences -/

def integer? (cs : List Char) : Option Int :=
  let (negative, ds) := match cs with
    | '-' :: ds => (true, ds)
    | '+' :: ds => (false, ds)
    | ds => (false, ds)
  if ds.isEmpty || !ds.all Text.isDigit then none
  else
    let n := Int.ofNat (Decimal.value ds)
    some (if negative then -n else n)

def range (first last : Int) (step : Nat) : List Int :=
  let step := max step 1
  let count := (last - first).natAbs / step + 1
  (List.range (min count 100000)).map fun i =>
    if first ≤ last then first + Int.ofNat (i * step) else first - Int.ofNat (i * step)

def filled (width : Nat) (n : Int) : List Char :=
  let ds := Decimal.digits n.natAbs
  let sign := if n < 0 then ['-'] else []
  sign ++ List.replicate (width - sign.length - ds.length) '0' ++ ds

def isFilled (cs : List Char) : Bool :=
  match cs.dropWhile (· = '-') with
  | '0' :: _ :: _ => true
  | _ => false

/-- The texts of a sequence like `1..5` or `a..e..2`, if it is one. -/
def sequence? (cs : List Char) : Option (List (List Char)) :=
  let pieces := (String.ofList cs).splitOn ".." |>.map String.toList
  let step? : Option Nat := match pieces with
    | [_, _] => some 1
    | [_, _, s] => (integer? s).map Int.natAbs
    | _ => none
  match pieces, step? with
  | first :: last :: _, some step =>
    match integer? first, integer? last, first, last with
    | some a, some b, _, _ =>
      let width := if isFilled first || isFilled last then max first.length last.length else 0
      some ((range a b step).map (filled width))
    | _, _, [a], [b] =>
      if a.isAlpha && b.isAlpha then
        some ((range a.toNat b.toNat step).map fun n => [Char.ofNat n.toNat])
      else none
    | _, _, _, _ => none
  | _, _ => none

def chars? (as : List Atom) : Option (List Char) :=
  as.mapM fun
    | .char c => some c
    | .part _ => none

/-! ## Words -/

def join (before : List Atom) (middles afters : List (List Atom)) : List (List Atom) :=
  middles.flatMap fun m => afters.map fun a => before ++ m ++ a

def expandWithin : Nat → List Atom → List (List Atom)
  | 0, as => [as]
  | n + 1, as =>
    let before := as.takeWhile fun a => !a.isChar '\x7b'
    match as.drop before.length with
    | [] => [as]
    | open_ :: rest =>
      let asItIs := (expandWithin n rest).map fun more => before ++ open_ :: more
      match inside 0 rest with
      | none => asItIs
      | some ([only], after) =>
        match (chars? only).bind sequence? with
        | some texts => join before (texts.map (·.map .char)) (expandWithin n after)
        | none => asItIs
      | some (pieces, after) =>
        join before (pieces.flatMap (expandWithin n)) (expandWithin n after)

def words (w : Word) : List Word :=
  let as := atoms w
  if as.any (·.isChar '\x7b') then
    (expandWithin (as.length + 1) as).map word
  else [w]

end JobLaunch.Rehearsal.Script.Brace
