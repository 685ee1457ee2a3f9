import JobLaunch.Rehearsal.Utility.Paths

/-!
# Utilities that take files away

* `Utility.rmdir` — takes empty directories away.
* `Removal` — what is asked and told while files are taken away.
* `Utility.rm`, `Utility.unlink` — take files away.
-/

namespace JobLaunch.Rehearsal

namespace Utility

def rmdir (args : List String) : Work Unit := do
  let (given, operands) ← options
    [.flag 'p' "parents", .flag 'v' "verbose",
      .named 'i' "ignore-fail-on-non-empty" .none] false 1 args
  if operands.isEmpty then misused 1 "missing operand"
  for path in operands do
    let paths := if isGiven given 'p' then (ancestors path).reverse else [path]
    let mut failed := false
    for p in paths do
      if !failed then
        if isGiven given 'v' then
          printLine ((← get).name ++ ": removing directory, " ++ Quoting.shell p)
        match ← ask (.removeDirectory p) with
        | .ok () => pure ()
        | .error e =>
          failed := true
          if !(e = .notEmpty && isGiven given 'i') then
            note ("failed to remove " ++ (if p = path then "" else "directory ") ++
              Quoting.shell p ++ ": " ++ e.reason)

end Utility

structure Removal where
  isDeep : Bool
  takesEmpty : Bool
  isForced : Bool
  asks : Bool
  tells : Bool
  deriving DecidableEq, Inhabited

namespace Removal

open Utility

def refuse (path : String) (e : OsError) : Work Bool := do
  note ("cannot remove " ++ Quoting.shell path ++ ": " ++ e.reason)
  pure false

/-- Takes an empty directory away, if the answer to the question is yes. -/
def takeDirectory (r : Removal) (path : String) : Work Bool := do
  if !(← agrees r.asks ("remove directory " ++ Quoting.shell path)) then pure false
  else match ← ask (.removeDirectory path) with
    | .ok () =>
      if r.tells then printLine ("removed directory " ++ Quoting.shell path)
      pure true
    | .error e => refuse path e

/-- Takes a file away, and those below it. Tells whether nothing is left. -/
def take (r : Removal) : Nat → Bool → String → Work Bool
  | 0, _, _ => pure false
  | n + 1, isOperand, path => do
    match ← ask (.inspect path false) with
    | .error e =>
      if r.isForced && (e = .notFound || e = .notADirectory) then pure true else refuse path e
    | .ok ⟨_, node, _⟩ =>
      if !node.isDirectory then
        if !(← agrees r.asks ("remove " ++ fileKind node ++ " " ++ Quoting.shell path)) then
          pure false
        else match ← ask (.unlink path) with
          | .ok () =>
            if r.tells then printLine ("removed " ++ Quoting.shell path)
            pure true
          | .error e => refuse path e
      else
        let names ← namesIn path
        let last := lastName path
        if isOperand && r.isDeep && (last = "." || last = "..") then
          note ("refusing to remove '.' or '..' directory: skipping " ++ Quoting.shell path)
          pure false
        else if !r.isDeep then
          if r.takesEmpty then
            if names.isEmpty then r.takeDirectory path else refuse path .notEmpty
          else refuse path .isADirectory
        else if names.isEmpty then r.takeDirectory path
        else if !(← agrees r.asks ("descend into directory " ++ Quoting.shell path)) then
          pure false
        else
          let mut all := true
          for name in names do
            all := (← r.take n false (pathIn path name)) && all
          if !all then pure false else r.takeDirectory path

end Removal

namespace Utility

/-- Complains about an option that is not right. A file with a name like an option is told of. -/
def misusedRemoval {α : Type} (args : List String) (f : OptionFault) : Work α := do
  complain f.message
  for arg in args do
    if 1 < arg.length && arg.toList.head? == some '-' && (← inspect? arg false).isSome then
      say ("Try '" ++ (← get).name ++ " " ++ Quoting.shellIfNeeded ("./" ++ arg) ++
        "' to remove the file " ++ Quoting.shell arg ++ ".\n")
  advise
  leave 1

def questionTimes (given : List OptionForm.Given) : Work Nat := do
  let mut times := 0
  for (c, arg) in given do
    match c with
    | 'f' => times := 0
    | 'I' => times := 1
    | 'i' => times := 2
    | 'q' =>
      let word ← choiceOf 1 "--interactive" (arg.getD "always")
        [["never", "no", "none"], ["once"], ["always", "yes"]]
      times := if word = "never" then 0 else if word = "once" then 1 else 2
    | _ => pure ()
  pure times

def rm (args : List String) : Work Unit := do
  let forms : List OptionForm :=
    [.flag 'f' "force", .flag 'r' "recursive", .flag 'R' "", .flag 'd' "dir", .flag 'v' "verbose",
      .flag 'i' "", .flag 'I' "", .named 'q' "interactive" .optional,
      .named 'n' "no-preserve-root" .none, .named 'p' "preserve-root" .optional,
      .named 'o' "one-file-system" .none]
  let (given, operands) ← match OptionForm.read forms false args with
    | .ok r => pure r
    | .error f => misusedRemoval args f
  let times ← questionTimes given
  if operands.isEmpty && !isGiven given 'f' then misused 1 "missing operand"
  let r : Removal :=
    { isDeep := isGiven given 'r' || isGiven given 'R', takesEmpty := isGiven given 'd'
      isForced := (given.reverse.find? fun g => g.1 = 'f' || g.1 = 'i').any (·.1 = 'f')
      asks := times = 2, tells := isGiven given 'v' }
  if times = 1 && (r.isDeep || 3 < operands.length) then
    let count := Decimal.text operands.length ++ " argument" ++
      (if operands.length = 1 then "" else "s")
    if !(← confirm ("remove " ++ count ++ if r.isDeep then " recursively" else "")) then leave 0
  for path in operands do
    if r.isDeep && path = "/" && !isGiven given 'n' then
      note "it is dangerous to operate recursively on '/'"
      complain "use --no-preserve-root to override this failsafe"
    else
      let _ ← r.take deepest true path

def unlink (args : List String) : Work Unit := do
  let (_, operands) ← options [] false 1 args
  match operands with
  | [] => misused 1 "missing operand"
  | [path] =>
    match ← ask (.unlink path) with
    | .ok () => pure ()
    | .error e => fail 1 ("cannot unlink " ++ Quoting.shell path ++ ": " ++ e.reason)
  | _ :: extra :: _ => misused 1 ("extra operand " ++ Quoting.typographic extra)

end Utility

end JobLaunch.Rehearsal
