import JobLaunch.Rehearsal.Script.Shell

/-!
# Arithmetic

Expressions over whole numbers of 64 bits, with variables that can be changed.

* `Expression` — expressions, with `Expression.parse`.
* `Expression.eval` — the value of an expression; what is not needed is not evaluated.
* `Sh.calculate` — the value of a text.
-/

namespace JobLaunch.Rehearsal.Script

inductive Expression where
  | number (n : Int64)
  | value (name : String)
  | unary (operator : Char) (e : Expression)
  /-- Two values that are joined; the text begins with the second one. -/
  | binary (operator : String) (a b : Expression) (text : List Char)
  | assign (name operator : String) (e : Expression) (text : List Char)
  /-- A variable is counted up or down; the value is the one before or after that. -/
  | count (name : String) (up before : Bool)
  | conditional (test yes no : Expression)
  | sequence (a b : Expression)
  deriving Inhabited

namespace Expression

/-! ## Tokens -/

inductive Token where
  | number (n : Int64)
  | badNumber
  | name (text : String)
  | operator (text : String)
  deriving DecidableEq, Inhabited

structure Lexeme where
  token : Token
  text : List Char
  deriving Inhabited

/-- Why a text is no expression, with the text from the mistake on. -/
inductive Fault where
  | value (text : List Char)
  | ending (text : List Char)
  | bracket (text : List Char)
  | colon (text : List Char)
  | badNumber (text : List Char)
  | character (text : List Char)
  | notVariable (text : List Char)
  | zero (text : List Char)
  | exponent (text : List Char)
  deriving Inhabited

def operators (d : Dialect) : List String :=
  ["<<=", ">>=", "&&", "||", "==", "!=", "<=", ">=", "<<", ">>", "+=", "-=", "*=", "/=", "%=", "&=",
    "|=", "^="] ++ (if d = .extended then ["++", "--", "**", ","] else []) ++
    ["+", "-", "*", "/", "%", "&", "|", "^", "~", "!", "<", ">", "=", "?", ":", "(", ")"]

def greatest : Nat := 9223372036854775807

/-- The value of a character as a digit of bases up to 64; up to 36 capital letters are small. -/
def digit? (base : Nat) (c : Char) : Option Nat :=
  let n := if Text.isDigit c then some (c.toNat - 48)
    else if 'a' ≤ c && c ≤ 'z' then some (c.toNat - 87)
    else if 'A' ≤ c && c ≤ 'Z' then some (if base ≤ 36 then c.toNat - 55 else c.toNat - 29)
    else if c = '@' then some 62
    else if c = '_' then some 63
    else none
  n.bind fun n => if n < base then some n else none

def valueOf (base : Nat) (cs : List Char) : Nat :=
  cs.foldl (fun n c => n * base + (digit? base c).getD 0) 0

/-- A number at the start of a text for a small shell: what follows the digits stays. -/
def plainNumber (cs : List Char) : Nat × List Char :=
  let (base, digits) := match cs with
    | '0' :: 'x' :: c :: rest => if (digit? 16 c).isSome then (16, c :: rest) else (8, cs)
    | '0' :: 'X' :: c :: rest => if (digit? 16 c).isSome then (16, c :: rest) else (8, cs)
    | '0' :: _ => (8, cs)
    | _ => (10, cs)
  let (used, rest) := digits.span fun c => (digit? base c).isSome
  (valueOf base used, rest)

/-- A number at the start of a text for a large shell, which goes on to the end of the word. -/
def extendedNumber? (cs : List Char) : Option Nat × List Char :=
  let (word, rest) := cs.span fun c => isNameChar c || c = '#' || c = '@'
  let read (base : Nat) (digits : List Char) : Option Nat :=
    if digits.all fun c => (digit? base c).isSome then some (valueOf base digits) else none
  let n := match word.span (· ≠ '#') with
    | (base, _ :: digits) =>
      let b := valueOf 10 base
      if base.all Text.isDigit && 2 ≤ b && b ≤ 64 && !digits.isEmpty then read b digits else none
    | _ =>
      match word with
      | '0' :: 'x' :: digits | '0' :: 'X' :: digits => read 16 digits
      | '0' :: _ => read 8 word
      | _ => read 10 word
  (n, rest)

/-- A name at the start of a text; in a large shell something in square brackets may belong to
it. -/
def nameWithKey (d : Dialect) (cs : List Char) : List Char × List Char :=
  let (name, rest) := cs.span isNameChar
  match d, rest with
  | .extended, '[' :: more =>
    match more.span (· ≠ ']') with
    | (key, ']' :: rest) => (name ++ '[' :: key ++ [']'], rest)
    | _ => (name, rest)
  | _, _ => (name, rest)

def lexWithin (d : Dialect) : Nat → List Char → Except Fault (List Lexeme)
  | 0, _ => .ok []
  | n + 1, cs =>
    match cs with
    | [] => .ok []
    | c :: rest =>
      if c = ' ' || c = '\t' || c = '\n' then lexWithin d n rest
      else if Text.isDigit c then
        let (token, rest) := match d with
          | .plain =>
            let (v, rest) := plainNumber cs
            (Token.number (Int64.ofNat (min v greatest)), rest)
          | .extended =>
            match extendedNumber? cs with
            | (some v, rest) => (.number (Int64.ofNat v), rest)
            | (none, rest) => (.badNumber, rest)
        (⟨token, cs⟩ :: ·) <$> lexWithin d n rest
      else if isNameStart c then
        let (name, rest) := nameWithKey d cs
        (⟨.name (String.ofList name), cs⟩ :: ·) <$> lexWithin d n rest
      else match (operators d).find? fun o => o.toList.isPrefixOf cs with
        | some o => (⟨.operator o, cs⟩ :: ·) <$> lexWithin d n (cs.drop o.length)
        | none =>
          -- What cannot be understood is a mistake when it is reached.
          .ok [⟨.operator "", cs⟩]

def lex (d : Dialect) (cs : List Char) : Except Fault (List Lexeme) :=
  lexWithin d (cs.length + 1) cs

/-! ## Parsing -/

def levels : List (List String) :=
  [["||"], ["&&"], ["|"], ["^"], ["&"], ["==", "!="], ["<", ">", "<=", ">="], ["<<", ">>"],
    ["+", "-"], ["*", "/", "%"]]

def textFrom : List Lexeme → List Char
  | [] => []
  | l :: _ => l.text

def operator? : List Lexeme → Option String
  | ⟨.operator o, _⟩ :: _ => some o
  | _ => none

def change? (o : String) : Option String :=
  if o = "=" then some ""
  else if ["<<=", ">>=", "+=", "-=", "*=", "/=", "%=", "&=", "|=", "^="].contains o then
    some (String.ofList o.toList.dropLast)
  else none

/-- What an expression begins with. -/
inductive Grade where
  | sequence
  | assignment
  | conditional
  /-- Values that are joined by operators, with the levels of operators that may be used; a value
  may have been read already. -/
  | joined (levels : List (List String)) (left : Option Expression)
  | power
  | unary
  | primary

def parseWithin (d : Dialect) :
    Nat → Grade → List Lexeme → Except Fault (Expression × List Lexeme)
  | 0, _, ls => .error (.value (textFrom ls))
  | n + 1, grade, ls =>
    let extended := d = .extended
    match grade with
    | .sequence => do
      let (a, ls) ← parseWithin d n .assignment ls
      if extended && operator? ls == some "," then
        let (b, ls) ← parseWithin d n .sequence ls.tail
        .ok (.sequence a b, ls)
      else .ok (a, ls)
    | .assignment =>
      match ls with
      | ⟨.name x, _⟩ :: rest =>
        match (operator? rest).bind change? with
        | some o => do
          let (e, ls) ← parseWithin d n .assignment rest.tail
          .ok (.assign x o e (textFrom rest.tail), ls)
        | none => parseWithin d n .conditional ls
      | _ => parseWithin d n .conditional ls
    | .conditional => do
      let (test, ls) ← parseWithin d n (.joined levels none) ls
      if operator? ls == some "?" then
        let (yes, ls) ← parseWithin d n .assignment ls.tail
        if operator? ls == some ":" then
          let (no, ls) ← parseWithin d n .conditional ls.tail
          .ok (.conditional test yes no, ls)
        else .error (.colon (textFrom ls))
      else .ok (test, ls)
    | .joined [] none => parseWithin d n .power ls
    | .joined [] (some e) => .ok (e, ls)
    | .joined (ops :: weaker) none => do
      let (a, ls) ← parseWithin d n (.joined weaker none) ls
      parseWithin d n (.joined (ops :: weaker) (some a)) ls
    | .joined (ops :: weaker) (some a) =>
      match operator? ls with
      | some o =>
        if ops.contains o then do
          let start := ls.tail
          let (b, ls) ← parseWithin d n (.joined weaker none) start
          let joined := Expression.binary o a b (textFrom start)
          parseWithin d n (.joined (ops :: weaker) (some joined)) ls
        else .ok (a, ls)
      | none => .ok (a, ls)
    | .power => do
      let (a, ls) ← parseWithin d n .unary ls
      if operator? ls == some "**" then
        let start := ls.tail
        let (b, ls) ← parseWithin d n .power start
        .ok (.binary "**" a b (textFrom start), ls)
      else .ok (a, ls)
    | .unary =>
      match ls with
      | ⟨.operator o, _⟩ :: rest =>
        if ["+", "-", "!", "~"].contains o then do
          let (e, ls) ← parseWithin d n .unary rest
          .ok (.unary (o.toList.headD '+') e, ls)
        else match o, rest with
          | "++", ⟨.name x, _⟩ :: rest => .ok (.count x true true, rest)
          | "--", ⟨.name x, _⟩ :: rest => .ok (.count x false true, rest)
          | "++", _ | "--", _ => do
            let (e, ls) ← parseWithin d n .unary rest
            .ok (e, ls)
          | _, _ => parseWithin d n .primary ls
      | _ => parseWithin d n .primary ls
    | .primary =>
      match ls with
      | ⟨.number v, _⟩ :: rest => .ok (.number v, rest)
      | ⟨.badNumber, text⟩ :: _ => .error (.badNumber text)
      | ⟨.name x, _⟩ :: rest =>
        match operator? rest with
        | some "++" => .ok (.count x true false, rest.tail)
        | some "--" => .ok (.count x false false, rest.tail)
        | _ => .ok (.value x, rest)
      | ⟨.operator "(", _⟩ :: rest => do
        let (e, ls) ← parseWithin d n .sequence rest
        if operator? ls == some ")" then .ok (e, ls.tail)
        else .error (.bracket (textFrom ls))
      | _ => .error (.value (textFrom ls))

def Fault.atLast (ls : List Lexeme) (f : Fault) : Fault :=
  let last := (ls.getLast?.map (·.text)).getD []
  match f with
  | value [] => value last
  | bracket [] => bracket last
  | colon [] => colon last
  | f => f

def parse (d : Dialect) (cs : List Char) : Except Fault Expression := do
  let ls ← lex d cs
  if ls.isEmpty && d = .extended then .ok (.number 0)
  else
    let (e, rest) ← (parseWithin d (30 * (ls.length + 2)) .sequence ls).mapError (·.atLast ls)
    match rest with
    | [] => .ok e
    | ⟨.operator "", text⟩ :: _ => .error (.character text)
    | ⟨.operator o, text⟩ :: _ =>
      .error (if (change? o).isSome then .notVariable text else .ending text)
    | ⟨_, text⟩ :: _ => .error (.ending text)

def Fault.message (d : Dialect) (whole : List Char) (f : Fault) : String :=
  let whole := String.ofList whole
  match d with
  | .plain =>
    let what := match f with
      | value _ | badNumber _ => "expecting primary"
      | ending _ | notVariable _ | character _ => "expecting EOF"
      | bracket _ => "expecting ')'"
      | colon _ => "expecting ':'"
      | zero _ => "division by zero"
      | exponent _ => "exponent less than 0"
    "arithmetic expression: " ++ what ++ ": \"" ++ whole ++ "\""
  | .extended =>
    let (what, text) := match f with
      | value t => ("syntax error: operand expected", t)
      | ending t => ("syntax error in expression", t)
      | bracket t => ("missing \x60)'", t)
      | colon t => ("\x60:' expected for conditional expression", t)
      | badNumber t => ("value too great for base", t)
      | character t => ("syntax error: invalid arithmetic operator", t)
      | notVariable t => ("attempted assignment to non-variable", t)
      | zero t => ("division by 0", t)
      | exponent t => ("exponent less than 0", t)
    String.ofList (Text.trimStart whole.toList) ++ ": " ++ what ++ " (error token is \"" ++
      String.ofList text ++ "\")"

/-! ## Evaluation -/

def ofBool (b : Bool) : Int64 := if b then 1 else 0

def powerWithin : Nat → Int64 → Nat → Int64
  | 0, _, _ => 1
  | n + 1, a, e =>
    let half := powerWithin n (a * a) (e / 2)
    if e % 2 = 1 then a * half else half

def power (a b : Int64) : Int64 := powerWithin 64 a b.toInt.toNat

/-- The value of two values that are joined; nothing if that makes no sense. -/
def joined? (o : String) (a b : Int64) : Option Int64 :=
  match o with
  | "+" => some (a + b)
  | "-" => some (a - b)
  | "*" => some (a * b)
  | "/" => if b = 0 then none else some (a / b)
  | "%" => if b = 0 then none else some (a % b)
  | "**" => if b < 0 then none else some (power a b)
  | "<<" => some (a <<< b)
  | ">>" => some (a >>> b)
  | "&" => some (a &&& b)
  | "|" => some (a ||| b)
  | "^" => some (a ^^^ b)
  | "==" => some (ofBool (a = b))
  | "!=" => some (ofBool (a ≠ b))
  | "<" => some (ofBool (a < b))
  | ">" => some (ofBool (b < a))
  | "<=" => some (ofBool (a ≤ b))
  | ">=" => some (ofBool (b ≤ a))
  | _ => none

/-- Why two values cannot be joined, of which the text of the second one is known. -/
def fault (o : String) (text : List Char) : Fault :=
  if o = "**" then .exponent (text.dropWhile fun c => " \t\n+-".toList.contains c) else .zero text

/-- The value of an expression, where variables are looked up and changed in some way; what cannot
be joined makes the shell fail. -/
def eval (lookup : String → Sh Int64) (change : String → String → Sh Unit)
    (refuse : Fault → Sh Int64) : Expression → Sh Int64
  | number n => pure n
  | value x => lookup x
  | unary o e => do
    let v ← eval lookup change refuse e
    pure (match o with
      | '-' => -v
      | '!' => ofBool (v = 0)
      | '~' => ~~~v
      | _ => v)
  | binary o a b text => do
    let v ← eval lookup change refuse a
    if o = "&&" then
      if v = 0 then pure 0 else return ofBool ((← eval lookup change refuse b) ≠ 0)
    else if o = "||" then
      if v = 0 then return ofBool ((← eval lookup change refuse b) ≠ 0) else pure 1
    else
      let w ← eval lookup change refuse b
      match joined? o v w with
      | some r => pure r
      | none => refuse (fault o text)
  | assign x o e text => do
    let v ← if o.isEmpty then eval lookup change refuse e
      else do
        let old ← lookup x
        let w ← eval lookup change refuse e
        match joined? o old w with
        | some r => pure r
        | none => refuse (fault o text)
    change x (Decimal.intText v.toInt)
    pure v
  | count x up before => do
    let old ← lookup x
    let new := if up then old + 1 else old - 1
    change x (Decimal.intText new.toInt)
    pure (if before then new else old)
  | conditional test yes no => do
    let v ← eval lookup change refuse test
    if v = 0 then eval lookup change refuse no else eval lookup change refuse yes
  | sequence a b => do
    let _ ← eval lookup change refuse a
    eval lookup change refuse b

/-- The number that a text stands for by itself, with blanks around it and a sign. -/
def ofText? (cs : List Char) : Option Int64 :=
  let cs := Text.trim cs
  let (negative, digits) := match cs with
    | '-' :: rest => (true, rest)
    | '+' :: rest => (false, rest)
    | _ => (false, cs)
  if digits.isEmpty then if cs.isEmpty then some 0 else none
  else if !(digits.head?.any Text.isDigit) then none
  else match plainNumber digits with
    | (n, []) =>
      if negative then some (Int64.ofInt (-(Int.ofNat (min n (greatest + 1)))))
      else some (Int64.ofNat (min n greatest))
    | _ => none

end Expression

namespace Sh

/-- A name and what stands in square brackets after it, if there is something. -/
def nameAndKey (x : String) : String × Option String :=
  match x.toList.span (· ≠ '[') with
  | (name, _ :: key) => (String.ofList name, some (String.ofList key.dropLast))
  | (_, []) => (x, none)

/-- What a text stands for that gives one of the values of a variable, where the values of texts are
found in some way; numbers may count from the end. -/
def keyWith (value : String → Sh Int64) (name text : String) : Sh Key := do
  let old := (← values? name).getD (.numbered [])
  if old.isNamed then pure (.name text)
  else
    let n := (← value text).toInt
    let n := if n < 0 then n + Int.ofNat old.next else n
    if n < 0 then giveUp (name ++ "[" ++ text ++ "]: bad array subscript")
    else pure (.number n.toNat)

/-- The value of a text as an expression; variables may have expressions as their values, nested at
most so deep. -/
def calculateWithin (label : String) : Nat → List Char → Sh Int64
  | 0, _ => giveUp "expression recursion level exceeded"
  | n + 1, cs => do
    let d := (← get).dialect
    let refuse (f : Expression.Fault) : Sh Int64 := giveUp (label ++ f.message d cs)
    match Expression.parse d cs with
    | .error f => refuse f
    | .ok e =>
      let lookup (x : String) : Sh Int64 := do
        let (name, key) := nameAndKey x
        let v ← match key with
          | none => value? x
          | some text => do
            let key ← keyWith (fun t => calculateWithin label n t.toList) name text
            pure ((← values? name).bind (·.get? key))
        if v.isNone && (← isOn "nounset") then
          if d = .plain then fail (x ++ ": parameter not set")
          else failWith (← lackCode) (x ++ ": unbound variable")
        let text := (v.getD "").toList
        match d with
        | .plain =>
          match Expression.ofText? text with
          | some v => pure v
          | none => fail ("Illegal number: " ++ String.ofList text)
        | .extended =>
          match Expression.ofText? text with
          | some v => pure v
          | none => calculateWithin label n text
      let change (x v : String) : Sh Unit := do
        match nameAndKey x with
        | (name, none) => assign name v
        | (name, some text) =>
          let key ← keyWith (fun t => calculateWithin label n t.toList) name text
          assignElement name key v
      e.eval lookup change refuse

/-- The value of a text as an expression; a large shell begins its complaints with a label. -/
def calculate (cs : List Char) (label : String := "") : Sh Int64 := calculateWithin label 64 cs

/-- What a text stands for that gives one of the values of a variable. -/
def keyOf (name text : String) : Sh Key := keyWith (fun t => calculate t.toList) name text

/-- Ends the commands that are given in an argument; elsewhere gives up the command that was read
last. -/
def abandon {α : Type} : Sh α := do
  setStatus 1
  throw (if (← get).origin = some 'c' then .failure else .givenUp)

def kept (v : Variable) (old text : String) (adds : Bool) : Sh String := do
  if v.isInteger then
    let n ← match ← attempt (calculate text.toList) with
      | .ok n => pure n
      | .error .givenUp => abandon
      | .error e => throw e
    let m ← if adds then calculate old.toList else pure 0
    pure (Decimal.intText (m + n).toInt)
  else pure (if adds then old ++ text else text)

def give (name text : String) (adds : Bool) : Sh Unit := do
  refuseFixed name
  let v := (← binding? name).getD {}
  let old := (v.values?.bind fun t => t.get? t.firstKey).getD ""
  assign name (← kept v old text adds)

def giveElement (name : String) (key : Key) (text : String) (adds : Bool) : Sh Unit := do
  refuseFixed name
  let v := (← binding? name).getD {}
  assignElement name key (← kept v ((v.values?.bind (·.get? key)).getD "") text adds)

def giveNamed (target text : String) : Sh Unit := do
  match nameAndKey target with
  | (name, none) => give name text false
  | (name, some key) => giveElement name (← keyOf name key) text false

/-- The value of a text as an expression, if it has one; a large shell goes on in any case. -/
def calculate? (cs : List Char) (label : String) : Sh (Option Int64) := do
  match ← attempt (calculate cs label) with
  | .ok v => pure (some v)
  | .error .givenUp => pure none
  | .error e => throw e

end Sh

end JobLaunch.Rehearsal.Script
