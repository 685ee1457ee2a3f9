import JobLaunch.Rehearsal.Condition
import JobLaunch.Rehearsal.Format
import JobLaunch.Rehearsal.Script.Expansion
import JobLaunch.Rehearsal.Script.Options

/-!
# Builtin commands that write

* `Sh.emit`, `Sh.complainOf` — what builtin commands write and say.
* `Sh.echo`, `Sh.printf` — write texts.
* `Sh.test` — does a condition hold?
-/

namespace JobLaunch.Rehearsal.Script.Sh

/-- Writes the output of a builtin command; says so if that is not possible. -/
def emit (cs : List Char) : Sh Nat := do
  match ← lift (Routine.write 1 (Bytes.ofChars cs)) with
  | .ok () => pure 0
  | .error e =>
    let name := ((← get).builtin).getD ""
    if ← isExtended then complain (name ++ ": write error: " ++ e.reason)
    else complain (name ++ ": I/O error")
    pure 1

def emitText (s : String) : Sh Nat := emit s.toList

def complainOf (name text : String) : Sh Unit := do
  if ← isExtended then complain (name ++ ": " ++ text) else complain text

def natural (s : String) : Sh Nat := do
  if !s.isEmpty && s.toList.all Text.isDigit then pure (Decimal.value s.toList)
  else fail ("Illegal number: " ++ s)

/-! ## Output -/

def plainEscapes : Escapes := { octal := true, zeroOctal := true, stops := true }

def extendedEscapes : Escapes :=
  { zeroOctal := true, hexadecimal := true, stops := true, capital := true, characters := true }

def echoOptions? (arg : String) : Option (List Char) :=
  match arg.toList with
  | '-' :: c :: cs => if (c :: cs).all "neE".toList.contains then some (c :: cs) else none
  | _ => none

def echoText (args : List String) : List Char :=
  let options := args.takeWhile fun arg => (echoOptions? arg).isSome
  let letters := options.flatMap fun arg => (echoOptions? arg).getD []
  let text := (" ".intercalate (args.drop options.length)).toList
  let (cs, stops) :=
    if (letters.filter (· ≠ 'n')).getLast? = some 'e' then extendedEscapes.resolve text
    else (text, false)
  if stops || letters.contains 'n' then cs else cs ++ ['\n']

def plainEchoText (args : List String) : List Char :=
  let (args, ends) := match args with
    | "-n" :: rest => (rest, false)
    | args => (args, true)
  let (cs, stops) := plainEscapes.resolve (" ".intercalate args).toList
  if stops || !ends then cs else cs ++ ['\n']

def echo (args : List String) : Sh Nat := do
  emit (if ← isExtended then echoText args else plainEchoText args)

def plainStyle : Format.Style :=
  { format := { octal := true }
    argument := { octal := true, zeroOctal := true, stops := true }
    machine := ⟨53, 1024⟩, quotation := { byBytes := true }, quoted := none }

def extendedStyle : Format.Style :=
  { format := {
      octal := true, hexadecimal := true, own := ['"', '?'], capital := true, characters := true }
    argument := {
      octal := true, zeroOctal := true, hexadecimal := true, stops := true, capital := true
      characters := true }
    machine := ⟨64, 16384⟩, modifiers := "hjlLtz".toList, quoted := some sparinglyQuoted }

def problemText (d : Dialect) : Format.Problem → String
  | .ignored t => t
  | .notNumber t => if d = .plain then t ++ ": expected numeric value" else t ++ ": invalid number"
  | .partly t => if d = .plain then t ++ ": not completely converted" else t ++ ": invalid number"
  | .tooLarge t =>
    (if d = .plain then t else "warning: " ++ t) ++ ": Numerical result out of range"
  | .directive t =>
    if d = .plain then
      if t = "%" then "missing format character" else t ++ ": invalid directive"
    else if t = "%" then "\x60%': missing format character"
    else "\x60" ++ String.ofList (t.toList.drop (t.length - 1)) ++ "': invalid format character"

def printf (given : Givens) (args : List String) : Sh Nat := do
  let d := (← get).dialect
  let target := given.argument? 'v'
  match args with
  | [] =>
    if d = .plain then fail "usage: printf format [arg ...]"
    else misuse "printf" "printf [-v var] format [arguments]"
  | format :: args =>
    let now : Nat ← ask .time
    let started := (← get).started
    let told (n : Int) (form : String) : String :=
      let t := if n = -1 then Calendar.atClock now else if n = -2 then Calendar.atClock started
        else Calendar.ofNanos (n * Timestamp.nanosInSecond)
      Calendar.fill false t form
    let style := if d = .plain then plainStyle else { extendedStyle with moment := some told }
    let r := Format.render style format args
    for p in r.problems do
      complainOf "printf" (problemText d p)
    let written ← match target with
      | some name => do
        let text := String.ofList r.output.reverse
        giveNamed name text
        pure 0
      | none => emit r.output.reverse
    let isBad := r.problems.any fun p =>
      match p with
      | .directive _ => true
      | .tooLarge _ => d = .plain
      | _ => true
    let broken := r.problems.any (· matches .directive _)
    pure (if broken then if d = .plain then 2 else 1 else if isBad then 1 else written)

def test (words : List String) : Sh Nat := do
  let d := (← get).dialect
  let reader : Condition.Reader := if d = .plain then .plain else .extended
  match ← lift (Condition.evalWords reader words) with
  | .ok b => pure (if b then 0 else 1)
  | .error f =>
    complainOf (words.headD "test") (f.message reader)
    pure 2

end JobLaunch.Rehearsal.Script.Sh
