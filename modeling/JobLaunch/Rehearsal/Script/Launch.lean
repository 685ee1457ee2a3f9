import JobLaunch.Rehearsal.Script.Interpreter

/-!
# Shells as programs

* `Invocation`, `Invocation.parse` — what a shell is called with.
* `program` — the program of a shell.
-/

namespace JobLaunch.Rehearsal.Script

/-- What a shell is called with. -/
structure Invocation where
  inline : Bool := false
  fromInput : Bool := false
  switches : List (String × Bool) := []
  args : List String := []
  unknown : Option String := none
  deriving Inhabited

namespace Invocation

def ignored : List String := ["--norc", "--noprofile", "--posix", "--login", "--noediting"]

def addLetters (d : Dialect) (on : Bool) :
    List Char → List String → Invocation → Invocation × List String
  | [], rest, i => (i, rest)
  | c :: cs, rest, i =>
    match c with
    | 'c' => addLetters d on cs rest { i with inline := true }
    | 's' => addLetters d on cs rest { i with fromInput := true }
    | 'o' =>
      match rest with
      | name :: rest => addLetters d on cs rest { i with switches := i.switches ++ [(name, on)] }
      | [] => addLetters d on cs rest i
    | 'l' | 'i' => addLetters d on cs rest i
    | c =>
      match Switch.withLetter? d c with
      | some s => addLetters d on cs rest { i with switches := i.switches ++ [(s.name, on)] }
      | none =>
        if d = .extended && "rD".toList.contains c then addLetters d on cs rest i
        else ({ i with unknown := i.unknown.or (some (String.ofList [c])) }, rest)

def parseWithin (d : Dialect) : Nat → List String → Invocation → Invocation
  | 0, args, i => { i with args }
  | n + 1, args, i =>
    match args with
    | [] => i
    | "-" :: rest | "--" :: rest => { i with args := rest }
    | arg :: rest =>
      if d = .extended && ignored.contains arg then parseWithin d n rest i
      else match arg.toList with
        | sign :: c :: cs =>
          if sign = '-' || sign = '+' then
            let (i, rest) := addLetters d (sign = '-') (c :: cs) rest i
            parseWithin d n rest i
          else { i with args }
        | _ => { i with args }

def parse (d : Dialect) (args : List String) : Invocation := parseWithin d (args.length + 1) args {}

end Invocation

def deepest : Nat := 100000000

/-- The variables that a shell sets at its start, whatever the environment says. -/
def ownVariables : Dialect → List (String × String)
  | .plain => [("IFS", " \t\n"), ("OPTIND", "1")]
  | .extended =>
    [("BASH", "/bin/bash"), ("BASH_VERSION", "5.2.21(1)-release"), ("IFS", " \t\n"),
      ("OPTIND", "1"), ("PS4", "+ ")]

/-- The variables that a shell sets at its start if the environment does not. -/
def usualVariables : Dialect → List (String × String)
  | .plain => [("PATH", Sh.standardPath), ("PS1", "# "), ("PS2", "> "), ("PS4", "+ ")]
  | .extended =>
    [("EUID", "0"), ("HOSTNAME", "localhost"), ("HOSTTYPE", "x86_64"),
      ("MACHTYPE", "x86_64-pc-linux-gnu"), ("OSTYPE", "linux-gnu"), ("PATH", Sh.standardPath),
      ("TERM", "dumb"), ("UID", "0")]

def Shell.initial (d : Dialect) (name : String) (environment : List (String × String)) : Shell :=
  let imported := environment.foldl (fun (vs : Dict Variable) (x, v) =>
    if isName x.toList then vs.insert x { value := some v, exported := true } else vs) ∅
  let set (vs : Dict Variable) (x v : String) : Dict Variable :=
    vs.insert x { (vs.get? x).getD {} with value := some v }
  let bindings := (ownVariables d).foldl (fun vs (x, v) => set vs x v) imported
  let bindings := (usualVariables d).foldl (fun vs (x, v) =>
    if vs.contains x then vs else set vs x v) bindings
  let bindings := match d with
    | .plain => bindings
    | .extended => set ((bindings.erase "PS1").erase "PS2") "_" name
  { dialect := d, name, bindings, switches := Switch.initial d }

namespace Sh

def refuseStart (d : Dialect) (name text : String) (code : Nat) : Sh Nat := do
  say 2 (name ++ ": " ++ (if d = .plain then "0: " else "") ++ text ++ "\n")
  pure code

def setUp (d : Dialect) (i : Invocation) : Sh Unit := do
  let pid : Pid ← ask .pid
  let parent : Pid ← ask .parent
  modify fun s => { s with pid }
  assign "PPID" (Decimal.text parent)
  let directory : String ← ask .directory
  let known ← match ← value? "PWD" with
    | some p => do
      match ← ask (.inspect p true), ← ask (.inspect "." true) with
      | .ok a, .ok b => pure (a.id = b.id && p.toList.head? == some '/')
      | _, _ => pure false
    | none => pure false
  if !known then assign "PWD" directory
  if d = .plain then modifyVariable "PWD" fun v => { v with exported := true }
  let now : Nat ← ask .time
  modify fun s => { s with started := now }
  if d = .extended then
    modifyVariable "PWD" fun v => { v with exported := true }
    let level := Decimal.value ((← value "SHLVL").toList.filter Text.isDigit)
    assignExported "SHLVL" (Decimal.text (level + 1))
    modifyVariable "OLDPWD" fun v => { v with exported := true }
  for (name, on) in i.switches do turnNamed name on
  let fromInput := !i.inline && (i.fromInput || i.args.isEmpty)
  if fromInput then
    if d = .plain then turn "stdin" true else modify fun s => { s with origin := some 's' }
  if i.inline && d = .extended then modify fun s => { s with origin := some 'c' }

def runInvocation (nested : Runner) (d : Dialect) (own : String) (i : Invocation) : Sh Nat := do
  match i.unknown with
  | some c => refuseStart d own (if d = .plain then "Illegal option -" ++ c
      else "-" ++ c ++ ": invalid option") 2
  | none =>
    setUp d i
    if i.inline then
      match i.args with
      | [] =>
        refuseStart d own (if d = .plain then "-c requires an argument"
          else "-c: option requires an argument") 2
      | text :: rest =>
        modify fun s => { s with name := rest.headD own, parameters := rest.tail }
        runText nested true false "-c: " text
    else
      match if i.fromInput then none else i.args.head? with
      | some path =>
        modify fun s => { s with parameters := i.args.tail }
        match ← lift (Routine.readFile path) with
        | .ok bytes =>
          modify fun s => { s with name := path }
          runText nested false false "" (Bytes.text bytes)
        | .error .isADirectory =>
          if d = .plain then pure 0
          else
            say 2 (path ++ ": " ++ path ++ ": Is a directory\n")
            pure 126
        | .error e =>
          if d = .plain then
            refuseStart d own ("cannot open " ++ path ++ ": " ++ errorText e .opening) 2
          else refuseStart d own (path ++ ": " ++ e.reason) (if e = .notFound then 127 else 126)
      | none =>
        modify fun s => { s with parameters := i.args }
        match ← lift (Routine.readAll 0) with
        | .ok bytes => runText nested false false "" (Bytes.text bytes)
        | .error _ => pure 0

end Sh

def program (d : Dialect) (words : List String) (environment : List (String × String)) : Program :=
  let own := words.headD "sh"
  let nested : Runner := Sh.perform deepest
  Sh.toProgram nested (Sh.runInvocation nested d own (Invocation.parse d words.tail))
    (Shell.initial d own environment)

end JobLaunch.Rehearsal.Script
