import JobLaunch.Rehearsal.Condition
import JobLaunch.Rehearsal.Regex
import JobLaunch.Rehearsal.Utility.Options
import JobLaunch.Rehearsal.Utility.Quoting

/-!
# Utilities that calculate

* `Utility.expr` — the value of an expression whose parts are words.
* `Utility.test` — does a condition hold?
-/

namespace JobLaunch.Rehearsal.Utility

/-! ## Expressions -/

def wholeNumber? (s : String) : Option Int :=
  let (negative, ds) := match s.toList with
    | '-' :: rest => (true, rest)
    | rest => (false, rest)
  if ds.isEmpty || !ds.all Text.isDigit then none
  else
    let n := Int.ofNat (Decimal.value ds)
    some (if negative then -n else n)

def isNothing (s : String) : Bool :=
  s.isEmpty || ((match s.toList with
    | '-' :: rest => rest
    | cs => cs).all (· == '0') && s ≠ "-")

def matchStart (text pattern : String) : Except String String :=
  match Regex.read .basic pattern with
  | .error f => .error f.message
  | .ok (r, groups) =>
    let f : Regex.Field := { chars := text.toList.toArray }
    match r.matchAt? f 0 with
    | some m =>
      if 0 < groups then
        .ok (match m.groups.lookup 1 with
          | some (i, j) => String.ofList (f.chars.extract i j).toList
          | none => "")
      else .ok (Decimal.text m.finish)
    | none => .ok (if 0 < groups then "" else "0")

/-- How tightly the parts of an expression are bound. -/
inductive ExprGrade where
  | either
  | both
  | comparison
  | sum
  | product
  | matching
  | word

def ExprGrade.inner : ExprGrade → ExprGrade
  | .either => .both
  | .both => .comparison
  | .comparison => .sum
  | .sum => .product
  | .product => .matching
  | .matching | .word => .word

def ExprGrade.operators : ExprGrade → List String
  | .either => ["|"]
  | .both => ["&"]
  | .comparison => ["<", "<=", "=", "==", "!=", ">=", ">"]
  | .sum => ["+", "-"]
  | .product => ["*", "/", "%"]
  | .matching => [":"]
  | .word => []

def joinValues (operator a b : String) : Except (Nat × String) String :=
  let truth (b : Bool) : String := if b then "1" else "0"
  let numbers (f : Int → Int → Except (Nat × String) String) : Except (Nat × String) String :=
    match wholeNumber? a, wholeNumber? b with
    | some x, some y => f x y
    | _, _ => .error (2, "non-integer argument")
  let order (p : Ordering → Bool) : Except (Nat × String) String :=
    match wholeNumber? a, wholeNumber? b with
    | some x, some y => .ok (truth (p (compare x y)))
    | _, _ => .ok (truth (p (compare a b)))
  match operator with
  | "|" => .ok (if !isNothing a then a else if isNothing b then "0" else b)
  | "&" => .ok (if isNothing a || isNothing b then "0" else a)
  | "<" => order (· == .lt)
  | "<=" => order (· != .gt)
  | "=" | "==" => order (· == .eq)
  | "!=" => order (· != .eq)
  | ">=" => order (· != .lt)
  | ">" => order (· == .gt)
  | "+" => numbers fun x y => .ok (Decimal.intText (x + y))
  | "-" => numbers fun x y => .ok (Decimal.intText (x - y))
  | "*" => numbers fun x y => .ok (Decimal.intText (x * y))
  | "/" => numbers fun x y =>
    if y = 0 then .error (2, "division by zero") else .ok (Decimal.intText (x.tdiv y))
  | "%" => numbers fun x y =>
    if y = 0 then .error (2, "division by zero") else .ok (Decimal.intText (x.tmod y))
  | _ => (matchStart a b).mapError (2, ·)

abbrev ExprResult := Except (Nat × String) (String × List String)

def missingAfter (all : List String) : Nat × String :=
  (2, "syntax error: missing argument after " ++ Quoting.typographic (all.getLast?.getD ""))

def exprWithin (all : List String) : Nat → ExprGrade → List String → ExprResult
  | 0, _, _ => .error (2, "syntax error")
  | n + 1, .word, ws =>
    match ws with
    | [] => .error (missingAfter all)
    | "(" :: rest => do
      let (v, rest) ← exprWithin all n .either rest
      match rest with
      | ")" :: rest => .ok (v, rest)
      | [] => .error (2, "syntax error: expecting ')' after " ++
          Quoting.typographic (all.getLast?.getD ""))
      | w :: _ => .error (2, "syntax error: expecting ')' instead of " ++ Quoting.typographic w)
    | ")" :: _ => .error (2, "syntax error: unexpected ')'")
    | "+" :: w :: rest => .ok (w, rest)
    | ["+"] => .error (missingAfter all)
    | "length" :: rest =>
      if rest.isEmpty then .error (missingAfter all)
      else do
        let (v, rest) ← exprWithin all n .word rest
        .ok (Decimal.text v.length, rest)
    | "match" :: rest => do
      let (a, rest) ← exprWithin all n .word rest
      let (b, rest) ← exprWithin all n .word rest
      let v ← (matchStart a b).mapError (2, ·)
      .ok (v, rest)
    | "index" :: rest => do
      let (a, rest) ← exprWithin all n .word rest
      let (b, rest) ← exprWithin all n .word rest
      let i := a.toList.findIdx? b.toList.contains
      .ok (Decimal.text ((i.map (· + 1)).getD 0), rest)
    | "substr" :: rest => do
      let (a, rest) ← exprWithin all n .word rest
      let (i, rest) ← exprWithin all n .word rest
      let (k, rest) ← exprWithin all n .word rest
      match wholeNumber? i, wholeNumber? k with
      | some i, some k =>
        if i ≤ 0 || k ≤ 0 then .ok ("", rest)
        else .ok (String.ofList ((a.toList.drop (i.toNat - 1)).take k.toNat), rest)
      | _, _ => .ok ("", rest)
    | w :: rest => .ok (w, rest)
  | n + 1, grade, ws => do
    let (a, rest) ← exprWithin all n grade.inner ws
    joinWithin all n grade a rest
where
  joinWithin (all : List String) : Nat → ExprGrade → String → List String → ExprResult
    | 0, _, a, rest => .ok (a, rest)
    | n + 1, grade, a, rest =>
      match rest with
      | o :: more =>
        if grade.operators.contains o then do
          let (b, rest) ← exprWithin all n grade.inner more
          let v ← joinValues o a b
          joinWithin all n grade v rest
        else .ok (a, rest)
      | [] => .ok (a, [])

/-- Prints the value of an expression; the exit code tells whether it is nothing. -/
def expr (args : List String) : Work Unit := do
  let args := if args.head? = some "--" then args.tail else args
  if args.isEmpty then misused 2 "missing operand"
  match exprWithin args (20 * args.length + 20) .either args with
  | .error (code, text) => fail code text
  | .ok (_, w :: _) => fail 2 ("syntax error: unexpected argument " ++ Quoting.typographic w)
  | .ok (v, []) =>
    printLine v
    setCode (if isNothing v then 1 else 0)

/-! ## Conditions -/

def test (args : List String) : Work Unit := do
  let name := (← get).name
  match ← lift (Condition.evalWords .utility (name :: args)) with
  | .ok b => setCode (if b then 0 else 1)
  | .error f => fail 2 (f.message .utility)

end JobLaunch.Rehearsal.Utility
