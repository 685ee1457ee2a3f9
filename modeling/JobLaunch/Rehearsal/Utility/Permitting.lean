import JobLaunch.Rehearsal.Permission
import JobLaunch.Rehearsal.Utility.Paths

/-!
# Changing permissions

* `Permitting` — what is to be done with the modes of files.
* `Utility.chmod` — changes who may do what with files.
-/

namespace JobLaunch.Rehearsal

/-- How much is told of changes. -/
inductive Telling where
  | nothing
  | changes
  | everything
  deriving DecidableEq, Inhabited

/-- What is to be done with the modes of files. -/
structure Permitting where
  steps : List ModeChange
  mask : Nat
  below : Bool
  isQuiet : Bool
  telling : Telling
  minds : Bool
  deriving Inhabited

namespace Permitting

open Utility

def shown (mode : Nat) : String :=
  Mode.octal mode ++ " (" ++ String.ofList (Mode.letters mode) ++ ")"

def tell (p : Permitting) (path : String) (old new : Nat) : Work Unit := do
  match p.telling with
  | .nothing => pure ()
  | telling =>
    if old ≠ new then
      printLine ("mode of " ++ Quoting.shell path ++ " changed from " ++ shown old ++ " to " ++
        shown new)
    else if telling = .everything then
      printLine ("mode of " ++ Quoting.shell path ++ " retained as " ++ shown new)

def apply (p : Permitting) : Nat → Bool → String → Work Unit
  | 0, _, _ => pure ()
  | n + 1, isOperand, path => do
    match ← ask (.inspect path isOperand) with
    | .error e =>
      let isLink := e = .notFound && (← inspect? path false).isSome
      if !p.isQuiet then
        complain (if isLink then "cannot operate on dangling symlink " ++ Quoting.shell path
          else "cannot access " ++ Quoting.shell path ++ ": " ++ e.reason)
      setCode 1
      if p.telling = .everything then
        printLine ("failed to change mode of " ++ Quoting.shell path ++ " from " ++ shown 0 ++
          " to " ++ shown 0)
    | .ok ⟨_, node, _⟩ =>
      if node.content matches .symlink _ then
        if p.telling = .everything then
          printLine ("neither symbolic link " ++ Quoting.shell path ++
            " nor referent has been changed")
      else
        let new := ModeChange.applyAll p.mask node.isDirectory p.steps node.mode
        let _ ← ask (.changeMode path new)
        p.tell path node.mode new
        let expected := ModeChange.applyAll 0 node.isDirectory p.steps node.mode
        if p.minds && Mode.without new expected ≠ 0 then
          note (Quoting.shellIfNeeded path ++ ": new permissions are " ++
            String.ofList (Mode.letters new) ++ ", not " ++ String.ofList (Mode.letters expected))
        if p.below && node.isDirectory then
          for name in ← namesIn path do
            p.apply n false (pathIn path name)

end Permitting

namespace Utility

def isModeWord (arg : String) : Bool :=
  match arg.toList with
  | '-' :: cs =>
    match cs.dropWhile "Rcfv".toList.contains with
    | c :: _ => "rwxXstugoa,+=01234567".toList.contains c
    | [] => false
  | _ => false

def modeWords (args : List String) : List String × List String :=
  let before := args.takeWhile (· ≠ "--")
  let (modes, others) := before.partition isModeWord
  (modes, others ++ args.drop before.length)

def chmod (args : List String) : Work Unit := do
  let (modes, args) := modeWords args
  let (given, operands) ← options
    [.flag 'R' "recursive", .flag 'f' "silent", .named 'q' "quiet" .none, .flag 'v' "verbose",
      .flag 'c' "changes", .named 'r' "reference" .required, .named 'p' "preserve-root" .none,
      .named 'n' "no-preserve-root" .none] false 1 args
  let reference := argument? given 'r'
  let (mode, files) := match reference, modes with
    | some _, _ => (none, operands)
    | none, [] => (operands.head?, operands.tail)
    | none, _ => (some (",".intercalate modes), operands)
  if reference.isSome && !modes.isEmpty then
    misused 1 "cannot combine mode and --reference options"
  match mode with
  | some mode =>
    if files.isEmpty then
      misused 1 (if modes.isEmpty then "missing operand after " ++ Quoting.typographic mode
        else "missing operand")
  | none => if files.isEmpty then misused 1 "missing operand"
  let steps ← match reference, mode with
    | some file, _ => do
      match ← ask (.inspect file true) with
      | .ok ⟨_, node, _⟩ => pure [ModeChange.exactly node.mode 5]
      | .error e => fail 1 ("failed to get attributes of " ++ Quoting.shell file ++ ": " ++ e.reason)
    | none, mode =>
      match ModeChange.parse? (mode.getD "") with
      | some steps => pure steps
      | none => misused 1 ("invalid mode: " ++ Quoting.typographic (mode.getD ""))
  let telling := match given.reverse.find? fun g => g.1 = 'v' || g.1 = 'c' with
    | some ('v', _) => Telling.everything
    | some _ => .changes
    | none => .nothing
  let p : Permitting :=
    { steps, mask := ← currentMask, below := isGiven given 'R'
      isQuiet := isGiven given 'f' || isGiven given 'q', telling, minds := !modes.isEmpty }
  for file in files do
    p.apply deepest true file

end Utility

end JobLaunch.Rehearsal
