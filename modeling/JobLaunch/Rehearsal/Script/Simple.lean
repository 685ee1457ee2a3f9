import JobLaunch.Rehearsal.Script.Builtin
import JobLaunch.Rehearsal.Script.Stream

/-!
# Simple commands

A simple command gives variables values, redirects streams, and runs a builtin command, a function
or a program.

* `Sh.commandFields` — the words that name a command and its arguments.
* `Sh.prepare` — what a variable gets.
* `Sh.runSimple` — runs a simple command.
-/

namespace JobLaunch.Rehearsal.Script.Sh

/-! ## Words of simple commands -/

/-- The builtin commands whose arguments may give variables values. -/
def assigns (d : Dialect) (name : String) : Bool :=
  ["export", "readonly", "local"].contains name ||
    (d = .extended && ["declare", "typeset"].contains name)

def commandFields (nested : Runner) : List Word → List String → Sh (List String)
  | [], done => pure done
  | w :: rest, done => do
    let d := (← get).dialect
    let name := (done.dropWhile (· = "command")).headD ""
    let fields : List String ← match w with
      | [.text cs false, .list ..] => pure [String.ofList (cs.takeWhile isNameChar)]
      | _ =>
        if assigns d name && (assignment? .plain w).isSome then do pure [← valueOf nested w]
        else fieldsOf nested w
    commandFields nested rest (done ++ fields)

def trace (assignments : List (String × String)) (args : List String) : Sh Unit := do
  if ← isOn "xtrace" then
    let d := (← get).dialect
    let isPlain (t : String) : Bool := !t.isEmpty && t.toList.all fun c =>
      !(" \t\n'\"\\$\x60*?[]()\x7b\x7d<>|&;!#~=".toList.contains c) || c = '='
    let shown (t : String) : String := if d = .plain || isPlain t then t else quotedText d t
    let given := assignments.map fun (x, v) => x ++ "=" ++ shown v
    let start ← (do return (← value? "PS4").getD "+ ")
    match d with
    | .plain => say 2 (start ++ " ".intercalate (given ++ args.map shown) ++ "\n")
    | .extended =>
      for g in given do say 2 (start ++ g ++ "\n")
      if !args.isEmpty then say 2 (start ++ " ".intercalate (args.map shown) ++ "\n")

/-! ## Simple commands -/

def withAssignments (assignments : List (String × String)) (m : Sh Nat) : Sh Nat := do
  if assignments.isEmpty then m
  else
    let old := (← get).bindings
    for (x, v) in assignments do
      match ← attempt (assignExported x v) with
      | .ok () => pure ()
      -- A large shell goes on without it.
      | .error e => if !(← isExtended) then throw e
    ensuring m do
      for (x, _) in assignments do restore x (old.get? x)

/-- The values that a simple command gives variables for as long as it runs; nobody gets several
values. -/
def valuesOf (nested : Runner) : List Assignment → Sh (List (String × String))
  | [] => pure []
  | .mk x none adds w :: rest => do
    if w matches [.list ..] then valuesOf nested rest
    else
      let v ← valueOf nested w
      let v ← kept ((← binding? x).getD {}) (← value x) v adds
      return (x, v) :: (← valuesOf nested rest)
  | .mk _ (some _) _ _ :: rest => valuesOf nested rest

def tableOf (nested : Runner) (name : String) (adds : Bool) (words : List Word) : Sh Table := do
  let old := ((← get).bindings.get? name).bind (·.values?)
  let empty : Table := if old.any (·.isNamed) then .named [] else .numbered []
  let mut table := if adds then old.getD empty else empty
  let mut next := table.next
  for w in words do
    match entry? w with
    | some (key, value) =>
      let text ← textOf nested key
      let key ← if table.isNamed then pure (Key.name text) else keyOf name text
      table := table.insert key (← valueOf nested value)
      if let .number n := key then next := n + 1
    | none =>
      for field in ← fieldsOf nested w do
        table := table.insert (.number next) field
        next := next + 1
  pure table
where
  entry? : Word → Option (Word × Word)
    | .text ('[' :: key) false :: rest =>
      match beforeBracket? (wordOf key ++ rest) with
      | some (key, .text ('=' :: value) false :: rest) => some (key, wordOf value ++ rest)
      | _ => none
    | _ => none

/-- What a variable gets: the text that is shown, and what gives it. -/
def prepare (nested : Runner) : Assignment → Sh ((String × String) × Sh Unit)
  | .mk x _ _ [.list adds words] => do
    let table ← tableOf nested x adds words
    return ((x, "(" ++ " ".intercalate table.values ++ ")"), assignTable x table)
  | .mk x none adds w => do
    let v ← valueOf nested w
    return ((if adds then x ++ "+" else x, v), give x v adds)
  | .mk x (some key) adds w => do
    let text ← textOf nested key
    let key ← keyOf x text
    let v ← valueOf nested w
    return ((x ++ "[" ++ text ++ "]" ++ (if adds then "+" else ""), v), giveElement x key v adds)

/-- The several values that an argument of a builtin command gives a variable. -/
def giveTables (nested : Runner) : List Word → Sh Unit
  | [] => pure ()
  | w :: rest => do
    match w with
    | [.text cs false, .list adds words] =>
      let name := String.ofList (cs.takeWhile isNameChar)
      let table ← tableOf nested name adds words
      modifyVariable name (·.withTable table)
    | _ => pure ()
    giveTables nested rest

def redirectForGood (nested : Runner) (rs : List Redirection) : Sh Unit := do
  match ← redirect false (← allOpenings nested rs) with
  | .ok _ => pure ()
  | .error text => fail text

def runSimple (nested : Runner) (line : Nat) (assignments : List Assignment)
    (words : List Word) (rs : List Redirection) (last tested : Bool) : Sh Nat := do
  modify fun s => { s with line, outputStatus := 0 }
  let args ← commandFields nested words []
  let refused : Sh Nat := do return if ← isExtended then 1 else 2
  if ← isExtended then
    if let some last := args.getLast? then modifyVariable "_" (·.withValue last)
  match args with
  | [] =>
    withStreams nested rs (do
      let extended ← isExtended
      let mut given := []
      for a in assignments do
        let (shown, give) ← prepare nested a
        if extended then trace [shown] []
        given := given ++ [shown]
        match ← attempt give with
        | .ok () => pure ()
        | .error e => throw (if extended then .givenUp else e)
      if !extended then trace given []
      return (← get).outputStatus) refused
  | name :: rest =>
    match ← meaningOf name with
    | .special =>
      let run : Sh Nat := do
        let values ← valuesOf nested assignments
        trace values args
        for (x, v) in values do
          if name = "exec" && !rest.isEmpty then assignExported x v else assign x v
        runNamed nested args last tested
      if name = "exec" then
        redirectForGood nested rs
        run
      else withStreams nested rs run (do
        setStatus 2
        throw .failure)
    | .function f =>
      withStreams nested rs (do
        let values ← valuesOf nested assignments
        trace values args
        withAssignments values (callFunction nested name f rest tested)) refused
    | .builtin =>
      if (← isExtended) && name = "exec" then
        match ← attempt (redirectForGood nested rs) with
        | .ok () =>
          let values ← valuesOf nested assignments
          trace values args
          withAssignments values (runNamed nested args last tested)
        | .error .failure => refused
        | .error e => throw e
      else
        withStreams nested rs (do
          let values ← valuesOf nested assignments
          trace values args
          let last := last && rs.isEmpty
          let code ← withAssignments values (if name = "command" || name = "builtin" then
            runBare nested name rest last tested
          else runOrdinary nested args last tested)
          giveTables nested words
          pure code) refused
    | .program =>
      if last && !(← hasTraps) then
        match ← redirect false (← allOpenings nested rs) with
        | .ok _ =>
          let values ← valuesOf nested assignments
          trace values args
          withAssignments values (runProgram nested args true)
        | .error text =>
          complain text
          refused
      else
        withStreams nested rs (do
          let values ← valuesOf nested assignments
          trace values args
          withAssignments values (runProgram nested args false)) refused

end JobLaunch.Rehearsal.Script.Sh
