import JobLaunch.Rehearsal.Regex
import JobLaunch.Rehearsal.Script.Values

/-!
# Tests between double brackets

* `Sh.fits` — does a regular expression fit a text?
* `Sh.checkWithin` — does a test hold?
-/

namespace JobLaunch.Rehearsal.Script.Sh

/-- The text of a regular expression; what stands in quotes stands for itself. -/
def expressionText (gs : List Glyph) : List Char :=
  gs.flatMap fun g =>
    if g.origin = .quoted && "\\^$.[]|()*+?\x7b\x7d".toList.contains g.char then ['\\', g.char]
    else [g.char]

def fits (nested : Runner) (text : String) (w : Word) : Sh Bool := do
  let items ← nested.expand (← withHome w) false
  match Regex.read .extended (String.ofList (expressionText (uncut [' '] items))) with
  | .error _ => pure false
  | .ok (r, groups) =>
    let field : Regex.Field := { chars := text.toList.toArray }
    match r.find? field 0 with
    | some m =>
      let part (start finish : Nat) : String :=
        String.ofList (field.chars.extract start finish).toList
      let parts := (List.range groups).map fun n =>
        match m.groups.lookup (n + 1) with
        | some (start, finish) => part start finish
        | none => ""
      assignTable "BASH_REMATCH" (.ofList (part m.start m.finish :: parts))
      pure true
    | none =>
      assignTable "BASH_REMATCH" (.ofList [])
      pure false

/-- Evaluates words of a test; what is not needed is not evaluated. -/
def checkWithin (nested : Runner) :
    Nat → CheckGrade → Bool → List Word → Sh (Bool × List Word)
  | 0, _, _, ws => pure (false, ws)
  | n + 1, grade, needed, ws => do
    let isOperator (o : String) (ws : List Word) : Bool :=
      (ws.head?.bind literal?) == some o.toList
    match grade with
    | .either =>
      let (a, rest) ← checkWithin nested n .both needed ws
      if isOperator "||" rest then
        let (b, rest) ← checkWithin nested n .either (needed && !a) rest.tail
        pure (a || b, rest)
      else pure (a, rest)
    | .both =>
      let (a, rest) ← checkWithin nested n .primary needed ws
      if isOperator "&&" rest then
        let (b, rest) ← checkWithin nested n .both (needed && a) rest.tail
        pure (a && b, rest)
      else pure (a, rest)
    | .primary =>
      if isOperator "!" ws then
        let (a, rest) ← checkWithin nested n .primary needed ws.tail
        pure (!a, rest)
      else if isOperator "(" ws then
        let (a, rest) ← checkWithin nested n .either needed ws.tail
        pure (a, rest.tail)
      else match ws with
        | [] => pure (false, [])
        | w :: rest =>
          let unary := ((literal? w).map String.ofList).filter (Condition.isUnary .extended)
          let isEnd := rest.isEmpty || ["&&", "||", ")"].any (isOperator · rest)
          match unary, isEnd with
          | some o, false =>
            if !needed then return (false, rest.tail)
            let arg ← textOf nested (← withHome (rest.headD []))
            if o = "-v" then
              let (name, key) := nameAndKey arg
              let value ← match key with
                | none => parameter? name
                | some text => do
                  let key ← keyOf name text
                  pure ((← values? name).bind (·.get? key))
              return (value.isSome, rest.tail)
            return (← lift (Condition.evalUnary o arg), rest.tail)
          | _, true =>
            if !needed then return (false, rest)
            return (!(← textOf nested (← withHome w)).isEmpty, rest)
          | none, false =>
            let o := String.ofList (((rest.head?.bind literal?)).getD [])
            let right := rest.tail.headD []
            let rest := rest.drop 2
            if !needed then return (false, rest)
            let left ← textOf nested (← withHome w)
            if o = "=~" then return (← fits nested left right, rest)
            if o = "=" || o = "==" || o = "!=" then
              let p ← patternOf nested (← withHome right)
              return (p.accepts left.toList != (o = "!="), rest)
            let text ← textOf nested (← withHome right)
            if ["-eq", "-ne", "-lt", "-le", "-gt", "-ge"].contains o then
              let a ← calculate? left.toList "[[: "
              let b ← calculate? text.toList "[[: "
              return (match a, b with
                | some a, some b => Condition.compare o a.toInt b.toInt
                | _, _ => false, rest)
            match ← lift (Condition.evalBinary o left text) with
            | .ok b => pure (b, rest)
            | .error _ => pure (false, rest)

end JobLaunch.Rehearsal.Script.Sh
