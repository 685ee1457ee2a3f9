import JobLaunch.Rehearsal.Program
import JobLaunch.Text.Blank
import JobLaunch.Text.Decimal

/-!
# Conditions

Conditions on texts, numbers and files are written as words. Small shells read them in another way
than all others.

* `Condition` — conditions.
* `Condition.parsePlain`, `Condition.parse` — the two ways to read them.
* `Condition.eval` — does one hold?
* `Condition.Fault` — what may be wrong, and what is said about it.
-/

namespace JobLaunch.Rehearsal

inductive Condition where
  | constant (b : Bool)
  | text (s : String)
  | unary (operator arg : String)
  | binary (operator a b : String)
  | negated (c : Condition)
  | both (a b : Condition)
  | either (a b : Condition)
  deriving Inhabited

namespace Condition

/-- What is wrong with a condition. -/
inductive Fault where
  | missingBracket
  | missingArgument (operator : String)
  | unexpected (word : String)
  | unclosed
  | notNumber (word : String)
  | noUnary (word : String)
  | noBinary (word : String)
  | ended (last : String)
  | extra (word : String)
  deriving Inhabited

inductive Reader where
  | plain
  | extended
  | utility
  deriving DecidableEq, Inhabited

def inQuotes (text : String) : String := "\u2018" ++ text ++ "\u2019"

def Fault.message (r : Reader) (f : Fault) : String :=
  match r, f with
  | .plain, missingBracket => "missing ]"
  | .plain, missingArgument o => o ++ ": argument expected"
  | .plain, unclosed => "closing paren expected"
  | .plain, notNumber w => "Illegal number: " ++ w
  | .plain, unexpected w | .plain, noUnary w | .plain, noBinary w | .plain, ended w
  | .plain, extra w => w ++ ": unexpected operator"
  | .extended, missingBracket => "missing \x60]'"
  | .extended, notNumber w => w ++ ": integer expression expected"
  | .extended, noUnary w => w ++ ": unary operator expected"
  | .extended, noBinary w | .extended, unexpected w => w ++ ": binary operator expected"
  | .extended, extra _ => "too many arguments"
  | .extended, unclosed => "\x60)' expected"
  | .extended, missingArgument _ | .extended, ended _ => "argument expected"
  | .utility, missingBracket => "missing " ++ inQuotes "]"
  | .utility, notNumber w => "invalid integer " ++ inQuotes w
  | .utility, noUnary w => inQuotes w ++ ": unary operator expected"
  | .utility, noBinary w | .utility, unexpected w => inQuotes w ++ ": binary operator expected"
  | .utility, extra w => "extra argument " ++ inQuotes w
  | .utility, unclosed => inQuotes ")" ++ " expected"
  | .utility, missingArgument w | .utility, ended w => "missing argument after " ++ inQuotes w

/-! ## Reading -/

def isUnary (r : Reader) (s : String) : Bool :=
  match s.toList with
  | ['-', c] =>
    "bcdefghknprstuwxzGLOS".toList.contains c || (r = .extended && "aNvRo".toList.contains c) ||
      (r = .utility && c = 'N')
  | _ => false

def isBinary (r : Reader) (s : String) : Bool :=
  ["=", "!=", "-eq", "-ne", "-lt", "-le", "-gt", "-ge", "-nt", "-ot", "-ef"].contains s ||
    (r ≠ .plain && s = "==") || (r ≠ .utility && (s = "<" || s = ">"))

abbrev Parsed := Except Fault (Condition × List String)

/-- Does the first word stand for itself for a small shell, though it is an operator? -/
def isOperand : List String → Bool
  | [] | [_] => true
  | [_, _] => false
  | _ :: next :: _ => isBinary .plain next || next = "-a" || next = "-o"

/-- The conditions that a small shell knows. -/
inductive Grade where
  | either
  | both
  | negated
  | primary

def parsePlainWithin : Nat → Grade → List String → Parsed
  | 0, _, _ => .error .unclosed
  | n + 1, .either, ws => do
    let (a, rest) ← parsePlainWithin n .both ws
    match rest with
    | "-o" :: rest =>
      let (b, rest) ← parsePlainWithin n .either rest
      .ok (.either a b, rest)
    | _ => .ok (a, rest)
  | n + 1, .both, ws => do
    let (a, rest) ← parsePlainWithin n .negated ws
    match rest with
    | "-a" :: rest =>
      let (b, rest) ← parsePlainWithin n .both rest
      .ok (.both a b, rest)
    | _ => .ok (a, rest)
  | n + 1, .negated, ws =>
    match ws with
    | "!" :: rest => do
      if isOperand ws && !rest.isEmpty && rest.length ≠ 1 then parsePlainWithin n .primary ws
      else
        let (c, rest) ← parsePlainWithin n .negated rest
        .ok (.negated c, rest)
    | _ => parsePlainWithin n .primary ws
  | n + 1, .primary, ws =>
    match ws with
    | [] => .ok (.constant false, [])
    | w :: rest =>
      if w = "(" && !rest.isEmpty then do
        match rest with
        | ")" :: rest => .ok (.constant false, rest)
        | _ =>
          let (c, rest) ← parsePlainWithin n .either rest
          match rest with
          | ")" :: rest => .ok (c, rest)
          | _ => .error .unclosed
      else if isUnary .plain w && !isOperand ws then
        match rest with
        | a :: rest => .ok (.unary w a, rest)
        | [] => .error (.missingArgument w)
      else match rest with
        | o :: more =>
          if isBinary .plain o then
            match more with
            | b :: rest => .ok (.binary o w b, rest)
            | [] => .error (.missingArgument o)
          else .ok (.text w, rest)
        | [] => .ok (.text w, [])

def parsePlain (ws : List String) : Except Fault Condition := do
  let whole (ws : List String) : Except Fault Condition := do
    let (c, rest) ← parsePlainWithin (4 * ws.length + 8) .either ws
    match rest with
    | [] => .ok c
    | w :: _ =>
      -- The word before the one that is left is named.
      .error (.unexpected ((ws.take (ws.length - rest.length)).getLastD w))
  match ws with
  | [a, o, b] => if isBinary .plain o then .ok (.binary o a b) else whole ws
  | ["!", a, o, b] => if isBinary .plain o then .ok (.negated (.binary o a b)) else whole ws
  | _ => whole ws

def parseWithin (r : Reader) : Nat → Grade → List String → Parsed
  | 0, _, _ => .error .unclosed
  | n + 1, .either, ws => do
    let (a, rest) ← parseWithin r n .both ws
    match rest with
    | "-o" :: rest =>
      let (b, rest) ← parseWithin r n .either rest
      .ok (.either a b, rest)
    | _ => .ok (a, rest)
  | n + 1, .both, ws => do
    let (a, rest) ← parseWithin r n .negated ws
    match rest with
    | "-a" :: rest =>
      let (b, rest) ← parseWithin r n .both rest
      .ok (.both a b, rest)
    | _ => .ok (a, rest)
  | n + 1, .negated, ws =>
    match ws with
    | "!" :: rest => do
      let (c, rest) ← parseWithin r n .negated rest
      .ok (.negated c, rest)
    | _ => parseWithin r n .primary ws
  | n + 1, .primary, ws =>
    match ws with
    | [] => .error (.ended "")
    | w :: rest =>
      match rest with
      | o :: b :: more =>
        if isBinary r o then .ok (.binary o w b, more)
        else if w = "(" then do
          let (c, rest) ← parseWithin r n .either rest
          match rest with
          | ")" :: rest => .ok (c, rest)
          | _ => .error .unclosed
        else if isUnary r w then .ok (.unary w o, b :: more)
        else .ok (.text w, rest)
      | [a] => if isUnary r w then .ok (.unary w a, []) else .ok (.text w, rest)
      | [] => .ok (.text w, [])

def parseTwo (r : Reader) (a b : String) : Except Fault Condition :=
  if a = "!" then .ok (.negated (.text b))
  else if isUnary r a then .ok (.unary a b)
  else if r = .extended || (a.length = 2 && a.toList.head? == some '-') then .error (.noUnary a)
  else .error (.ended b)

def parseThree (r : Reader) (a b c : String) : Except Fault Condition := do
  if isBinary r b then .ok (.binary b a c)
  else if b = "-a" then .ok (.both (.text a) (.text c))
  else if b = "-o" then .ok (.either (.text a) (.text c))
  else if a = "!" then .ok (.negated (← parseTwo r b c))
  else if a = "(" && c = ")" then .ok (.text b)
  else .error (.noBinary b)

def parse (r : Reader) (ws : List String) : Except Fault Condition := do
  let whole : Except Fault Condition := do
    let (c, rest) ← parseWithin r (4 * ws.length + 8) .either ws
    match rest with
    | [] => .ok c
    | w :: _ => .error (.extra w)
  match ws with
  | [] => .ok (.constant false)
  | [a] => .ok (.text a)
  | [a, b] => parseTwo r a b
  | [a, b, c] => parseThree r a b c
  | [a, b, c, d] =>
    if a = "!" then .ok (.negated (← parseThree r b c d))
    else if a = "(" && d = ")" then parseTwo r b c
    else whole
  | _ => whole

/-! ## Evaluation -/

/-- The number that a text stands for, with blanks around it and a sign. -/
def number? (s : String) : Option Int :=
  let (negative, ds) := match Text.trim s.toList with
    | '-' :: rest => (true, rest)
    | '+' :: rest => (false, rest)
    | rest => (false, rest)
  if ds.isEmpty || !ds.all Text.isDigit then none
  else
    let n := Int.ofNat (Decimal.value ds)
    some (if negative then -n else n)

def fileIs (c : Char) (path : String) : Routine Bool := do
  let info ← Routine.ask (.inspect path (c ≠ 'h' && c ≠ 'L'))
  match info with
  | .error _ => pure false
  | .ok ⟨_, node, _⟩ =>
    pure (match c with
      | 'f' => (node.content matches .regular _) || (node.content matches .program _)
      | 'd' => node.isDirectory
      | 'h' | 'L' => (node.content matches .symlink _)
      | 'c' => (node.content matches .device _)
      | 'b' | 'p' | 'S' | 'g' | 'u' => false
      | 'k' => node.mode / 512 % 2 = 1
      | 's' => 0 < node.size || (node.content matches .program _)
      | 'x' => node.isExecutable
      | _ => true)

def evalUnary (operator arg : String) : Routine Bool :=
  match operator.toList with
  | ['-', 'z'] => pure arg.isEmpty
  | ['-', 'n'] => pure (!arg.isEmpty)
  | ['-', 't'] | ['-', 'v'] | ['-', 'R'] | ['-', 'o'] => pure false
  | ['-', c] => fileIs c arg
  | _ => pure false

def compare (operator : String) (a b : Int) : Bool :=
  match operator with
  | "-eq" => a = b
  | "-ne" => a ≠ b
  | "-lt" => a < b
  | "-le" => a ≤ b
  | "-gt" => b < a
  | _ => b ≤ a

def evalBinary (operator a b : String) : Routine (Except Fault Bool) := do
  match operator with
  | "=" | "==" => pure (.ok (a = b))
  | "!=" => pure (.ok (a ≠ b))
  | "<" => pure (.ok (a < b))
  | ">" => pure (.ok (b < a))
  | "-nt" | "-ot" | "-ef" =>
    let left ← Routine.ask (.inspect a true)
    let right ← Routine.ask (.inspect b true)
    match left, right with
    | .ok l, .ok r =>
      pure (.ok (match operator with
        | "-nt" => r.node.changed < l.node.changed
        | "-ot" => l.node.changed < r.node.changed
        | _ => l.id = r.id))
    | .ok _, .error _ => pure (.ok (operator = "-nt"))
    | .error _, .ok _ => pure (.ok (operator = "-ot"))
    | _, _ => pure (.ok false)
  | _ =>
    match number? a, number? b with
    | some x, some y => pure (.ok (compare operator x y))
    | none, _ => pure (.error (.notNumber a))
    | _, none => pure (.error (.notNumber b))

def eval : Condition → Routine (Except Fault Bool)
  | constant b => pure (.ok b)
  | text s => pure (.ok (!s.isEmpty))
  | unary o a => do return .ok (← evalUnary o a)
  | binary o a b => evalBinary o a b
  | negated c => do return (← eval c).map (!·)
  | both a b => do
    match ← eval a with
    | .error f => pure (.error f)
    | .ok x => return (← eval b).map (x && ·)
  | either a b => do
    match ← eval a with
    | .error f => pure (.error f)
    | .ok x => return (← eval b).map (x || ·)

/-- Does the condition hold that is written as the words of a command? -/
def evalWords (r : Reader) (words : List String) : Routine (Except Fault Bool) := do
  let (name, args) := (words.headD "", words.tail)
  let inside : Except Fault (List String) :=
    if ["["].contains (((name.toList.splitOn '/').map String.ofList).getLastD "") then
      if args.getLast? = some "]" then .ok args.dropLast else .error .missingBracket
    else .ok args
  match inside with
  | .error f => pure (.error f)
  | .ok ws =>
    match if r = .plain then parsePlain ws else parse r ws with
    | .error f => pure (.error f)
    | .ok c => eval c

end Condition

end JobLaunch.Rehearsal
