import JobLaunch.Rehearsal.Utility.Paths
import JobLaunch.Text.Blank

/-!
# Copies and new names

* `Backup` — where a file that is replaced is kept.
* `CopyPlan` — what copying does with links, with files that are there, and with what it tells.
* `CopyPlan.copy`, `CopyPlan.move` — copy a file or give it another name.
* `Utility.cp`, `Utility.mv` — the same for the operands of a command.
-/

namespace JobLaunch.Rehearsal

open Utility

/-! ## Backups -/

/-- The names under which files that are replaced are kept. -/
inductive BackupStyle where
  | simple
  | numbered
  | existing
  deriving DecidableEq, Inhabited

/-- Where a file that is replaced is kept. -/
structure Backup where
  style : BackupStyle
  ending : String
  deriving DecidableEq, Inhabited

namespace Backup

def number? (base name : String) : Option Nat :=
  match Text.afterStart? (base ++ ".~").toList name.toList with
  | some rest =>
    let ds := rest.takeWhile Text.isDigit
    if !ds.isEmpty && rest.drop ds.length = ['~'] then some (Decimal.value ds) else none
  | none => none

def pathFor (b : Backup) (path : String) : Work String := do
  let names ← namesIn (directoryPart path)
  let numbers := names.filterMap (number? (lastName path))
  let next := numbers.foldl (fun n m => max n (m + 1)) 1
  if b.style = .numbered || (b.style = .existing && !numbers.isEmpty) then
    pure (path ++ ".~" ++ Decimal.text next ++ "~")
  else pure (path ++ b.ending)

def given? (given : List OptionForm.Given) : Work (Option Backup) := do
  let environment := (← get).environment
  let chosen := given.filter fun g => g.1 = 'b' || g.1 = 'B' || g.1 = 'S'
  if chosen.isEmpty then pure none
  else
    let word := ((chosen.reverse.find? (·.1 = 'B')).bind (·.2)).or
      (environment.lookup "VERSION_CONTROL")
    let style ← match word with
      | none => pure "existing"
      | some word =>
        choiceOf 1 (if (chosen.any fun g => g.1 = 'B' && g.2.isSome) then "backup type"
            else "$VERSION_CONTROL") word
          [["none", "off"], ["simple", "never"], ["existing", "nil"], ["numbered", "t"]]
    let usual := ((environment.lookup "SIMPLE_BACKUP_SUFFIX").filter (!·.isEmpty)).getD "~"
    let ending := (argument? given 'S').getD usual
    pure (match style with
      | "none" => none
      | "simple" => some ⟨.simple, ending⟩
      | "numbered" => some ⟨.numbered, ending⟩
      | _ => some ⟨.existing, ending⟩)

end Backup

/-! ## Plans -/

inductive LinkWay where
  | never
  | operands
  | always
  deriving DecidableEq, Inhabited

/-- What is done about a file that is in the way. -/
inductive Overwriting where
  | always
  | asking
  | never
  deriving DecidableEq, Inhabited

inductive CopyKind where
  | bytes
  | hardLink
  | symlink
  deriving DecidableEq, Inhabited

structure CopyPlan where
  isDeep : Bool := false
  follows : LinkWay := .always
  overwriting : Overwriting := .always
  kind : CopyKind := .bytes
  backup : Option Backup := none
  isForced : Bool := false
  removesFirst : Bool := false
  updates : Bool := false
  tells : Bool := false
  keepsMode : Bool := false
  keepsTime : Bool := false
  keepsLinks : Bool := false
  deriving DecidableEq, Inhabited

/-- What has been copied so far. -/
structure CopyTrace where
  operands : String × String
  made : Option FileId := none
  sources : Option (List FileId) := none
  targets : List FileId := []
  copies : List (FileId × String) := []
  deriving Inhabited

def sameEntry (a b : String) : Work Bool := do
  let x ← inspect? (directoryPart a) true
  let y ← inspect? (directoryPart b) true
  pure (x.isSome && x.map (·.id) = y.map (·.id) && lastName a = lastName b)

def refused (text : String) : Work Bool := do
  note text
  pure false

namespace CopyPlan

def arrow (source target : String) (backup : Option String) : String :=
  Quoting.shell source ++ " -> " ++ Quoting.shell target ++ (match backup with
    | some b => " (backup: " ++ Quoting.shell b ++ ")"
    | none => "")

def mayReplace (p : CopyPlan) (target : String) : Work Bool :=
  if p.overwriting = .never then pure false
  else agrees (p.overwriting = .asking) ("overwrite " ++ Quoting.shell target)

/-- Keeps a file that is in the way, if that is wanted; tells where. -/
def keepOld (p : CopyPlan) (source target : String) (old : FileInfo) :
    Work (Except Unit (Option String)) := do
  match p.backup with
  | none => pure (.ok none)
  | some b =>
    let last := lastName source
    if last = "." || last = ".." || old.node.isDirectory then pure (.ok none)
    else
      let path ← b.pathFor target
      match ← ask (.rename target path) with
      | .ok () => pure (.ok (some path))
      | .error e =>
        note ("cannot backup " ++ Quoting.shell target ++ ": " ++ e.reason)
        pure (.error ())

def keepFacts (p : CopyPlan) (node : FileNode) (target : String) : Work Unit := do
  if p.keepsMode then
    let _ ← ask (.changeMode target node.mode)
  if p.keepsTime then
    let _ ← ask (.touch target (some node.changed))

def copyBytes (p : CopyPlan) (source target : String) (node : FileNode) (isNew : Bool) :
    Work Bool := do
  if node.content matches .program _ then
    -- An installed program is not made of bytes. Its copy is another name.
    let _ ← ask (.unlink target)
    match ← ask (.makeLink source target) with
    | .ok () => pure true
    | .error e =>
      refused ("cannot create regular file " ++ Quoting.shell target ++ ": " ++ e.reason)
  else match ← ask (.openFile source .input) with
  | .error e => refused ("cannot open " ++ Quoting.shell source ++ " for reading: " ++ e.reason)
  | .ok input =>
    let bytes ← lift (Routine.readAll input)
    let _ ← ask (.close input)
    match ← ask (.openFile target .output) with
    | .error e =>
      let e := if e = .isADirectory && Files.endsInSlash target then .notADirectory else e
      refused ("cannot create regular file " ++ Quoting.shell target ++ ": " ++ e.reason)
    | .ok stream =>
      let written ← match bytes with
        | .ok bytes => lift (Routine.write stream bytes)
        | .error e => pure (.error e)
      let _ ← ask (.close stream)
      if isNew then
        let rights := node.mode &&& 0o777
        let mask ← currentMask
        let _ ← ask (.changeMode target (rights - (rights &&& mask)))
      match bytes, written with
      | .error e, _ => refused ("error reading " ++ Quoting.shell source ++ ": " ++ e.reason)
      | _, .error e => refused ("error writing " ++ Quoting.shell target ++ ": " ++ e.reason)
      | _, _ =>
        p.keepFacts node target
        pure true

def copyFile (p : CopyPlan) (source target : String) (node : FileNode) (isNew : Bool) :
    Work Bool := do
  match p.kind with
  | .symlink =>
    if !isAbsolute source && directoryPart target ≠ "." then
      refused (Quoting.shellIfNeeded target ++
        ": can make relative symbolic links only in current directory")
    else match ← ask (.makeSymlink source target) with
      | .ok () => pure true
      | .error e =>
        refused ("cannot create symbolic link " ++ Quoting.shell target ++ " to " ++
          Quoting.shell source ++ ": " ++ e.reason)
  | .hardLink =>
    match ← ask (.makeLink source target) with
    | .ok () => pure true
    | .error e =>
      refused ("cannot create hard link " ++ Quoting.shell target ++ " to " ++
        Quoting.shell source ++ ": " ++ e.reason)
  | .bytes =>
    match node.content with
    | .symlink link =>
      match ← ask (.makeSymlink link target) with
      | .ok () => pure true
      | .error e =>
        refused ("cannot create symbolic link " ++ Quoting.shell target ++ ": " ++ e.reason)
    | _ =>
      if isNew && (← inspect? target true).isNone && (← inspect? target false).isSome then
        refused ("not writing through dangling symlink " ++ Quoting.shell target)
      else p.copyBytes source target node isNew

/-- What to do about a file that is in the way: leave the matter with a result, or go on, with the
place where the old file is kept and whether the place is free. -/
def clearPlace (p : CopyPlan) (t : CopyTrace) (isOperand : Bool) (source target : String)
    (info old : FileInfo) : Work (Bool ⊕ (Option String × Bool)) := do
  let isDir := info.node.isDirectory
  let oldIsDir := old.node.isDirectory
  let isSame ← if info.id = old.id then pure true
    else if p.kind = .bytes && (p.backup.isSome || p.removesFirst) then pure false
    else pure ((← inspect? target true).any (·.id = info.id))
  let isEntry ← if isSame then sameEntry source target else pure false
  if isSame && p.overwriting ≠ .never && p.kind = .hardLink then pure (.inl true)
  else if isSame && p.overwriting ≠ .never &&
      (isEntry || !(p.backup.isSome || p.removesFirst)) then
    return .inl (← refused (Quoting.shell source ++ " and " ++ Quoting.shell target ++
      " are the same file"))
  else if p.updates && !isDir && info.node.changed ≤ old.node.changed then pure (.inl true)
  else if !(← if isDir then pure true else p.mayReplace target) then pure (.inl true)
  else if isDir && !oldIsDir then
    return .inl (← refused ("cannot overwrite non-directory " ++ Quoting.shell target ++
      " with directory " ++ Quoting.shell source))
  else if !oldIsDir && isOperand && !(p.backup.any (·.style = .numbered)) &&
      t.targets.contains old.id then
    return .inl (← refused ("will not overwrite just-created " ++ Quoting.shell target ++
      " with " ++ Quoting.shell source))
  else if !isDir && oldIsDir then
    return .inl (← refused ("cannot overwrite directory " ++ Quoting.shell target ++
      " with non-directory"))
  else match ← p.keepOld source target old with
    | .error () => pure (.inl false)
    | .ok (some path) => pure (.inr (some path, true))
    | .ok none =>
      let removes := !oldIsDir && (p.removesFirst || (p.isForced && p.kind ≠ .bytes) ||
        (p.follows = .never && !(info.node.content matches .regular _ | .program _)))
      if removes then
        let _ ← ask (.unlink target)
        if p.tells && p.removesFirst then printLine ("removed " ++ Quoting.shell target)
      pure (.inr (none, removes))

def copy (p : CopyPlan) :
    Nat → Bool → List FileId → String → String → CopyTrace → Work (Bool × CopyTrace)
  | 0, _, _, _, _, t => pure (false, t)
  | n + 1, isOperand, above, source, target, t => do
    let follow := p.follows = .always || (p.follows = .operands && isOperand)
    match ← ask (.inspect source follow) with
    | .error e => return (← refused ("cannot stat " ++ Quoting.shell source ++ ": " ++ e.reason), t)
    | .ok info =>
      let node := info.node
      let isDir := node.isDirectory
      if isDir && !p.isDeep then
        return (← refused ("-r not specified; omitting directory " ++ Quoting.shell source), t)
      let isAgain := isOperand && !isDir && p.backup.isNone &&
        t.sources.any (·.contains info.id)
      if isAgain then
        complain ("warning: source file " ++ Quoting.shell source ++ " specified more than once")
        return (true, t)
      let t := if isOperand then { t with sources := t.sources.map (info.id :: ·) } else t
      let isPlain := node.content matches .regular _ | .program _ | .device _
      let seesLink := !isPlain || p.kind ≠ .bytes || p.backup.isSome || p.removesFirst
      let found ← ask (.inspect target (!seesLink))
      let place ← match found with
        | .ok old => p.clearPlace t isOperand source target info old
        | .error .notFound => pure (.inr (none, true))
        | .error e =>
          pure (.inl (← refused ("cannot stat " ++ Quoting.shell target ++ ": " ++ e.reason)))
      match place with
      | .inl r => return (r, t)
      | .inr (kept, isFree) =>
        if p.tells && !isDir then printLine (arrow source target kept)
        if isDir && t.made = some info.id then
          return (← refused ("cannot copy a directory, " ++ Quoting.shell t.operands.1 ++
            ", into itself, " ++ Quoting.shell t.operands.2), t)
        if !isDir then
          let earlier := if p.keepsLinks && 1 < info.links then t.copies.lookup info.id else none
          let done ← match earlier with
            | some path =>
              if !isFree then
                let _ ← ask (.unlink target)
              match ← ask (.makeLink path target) with
              | .ok () => pure true
              | .error e =>
                refused ("cannot create hard link " ++ Quoting.shell target ++ " to " ++
                  Quoting.shell path ++ ": " ++ e.reason)
            | none => p.copyFile source target node isFree
          let made ← if done && isOperand && t.sources.isSome then inspect? target false
            else pure none
          return (done, { t with
            targets := made.toList.map (·.id) ++ t.targets
            copies := if p.keepsLinks then (info.id, target) :: t.copies else t.copies })
        if above.contains info.id then
          return (← refused ("cannot copy cyclic symbolic link " ++ Quoting.shell source), t)
        let made ← if isFree then ask (.makeDirectory target 0o777) else pure (.ok ())
        match made with
        | .error e =>
          return (← refused ("cannot create directory " ++ Quoting.shell target ++ ": " ++
            e.reason), t)
        | .ok () =>
          if p.tells && isFree then printLine (arrow source target none)
          let mut t := t
          if isFree && t.made.isNone then
            t := { t with made := (← inspect? target true).map (·.id) }
          let mut all := true
          for name in ← namesIn source do
            let (done, next) ←
              p.copy n false (info.id :: above) (pathIn source name) (pathIn target name) t
            all := all && done
            t := next
          if isFree && !p.keepsMode then
            let mask ← currentMask
            let _ ← ask (.changeMode target (node.mode - (node.mode &&& mask)))
          p.keepFacts node target
          return (all, t)

def move (p : CopyPlan) (source target : String) (t : CopyTrace) : Work (Bool × CopyTrace) := do
  match ← ask (.inspect source false) with
  | .error e => return (← refused ("cannot stat " ++ Quoting.shell source ++ ": " ++ e.reason), t)
  | .ok info =>
    let isDir := info.node.isDirectory
    let cleared : Bool ⊕ Option String ← match ← ask (.inspect target false) with
      | .error _ => pure (.inr none)
      | .ok old =>
        let oldIsDir := old.node.isDirectory
        if info.id = old.id then
          if ← sameEntry source target then
            pure (.inl (← refused (Quoting.shell source ++ " and " ++ Quoting.shell target ++
              " are the same file")))
          else
            -- Two names of one file: the first one goes.
            let _ ← ask (.unlink source)
            if p.tells then printLine ("removed " ++ Quoting.shell source)
            pure (.inl true)
        else if p.updates && !isDir && info.node.changed ≤ old.node.changed then pure (.inl true)
        else if !(← p.mayReplace target) then pure (.inl true)
        else if isDir && !oldIsDir && p.backup.isNone then
          pure (.inl (← refused ("cannot overwrite non-directory " ++ Quoting.shell target ++
            " with directory " ++ Quoting.shell source)))
        else if !oldIsDir && !(p.backup.any (·.style = .numbered)) &&
            t.targets.contains old.id then
          pure (.inl (← refused ("will not overwrite just-created " ++ Quoting.shell target ++
            " with " ++ Quoting.shell source)))
        else if !isDir && oldIsDir && p.backup.isNone then
          pure (.inl (← refused ("cannot overwrite directory " ++ Quoting.shell target ++
            " with non-directory")))
        else match p.backup with
          | none => pure (.inr none)
          | some b =>
            let path ← b.pathFor target
            match ← ask (.rename target path) with
            | .ok () => pure (.inr (some path))
            | .error e =>
              pure (.inl (← refused ("cannot backup " ++ Quoting.shell target ++ ": " ++ e.reason)))
    match cleared with
    | .inl r => return (r, t)
    | .inr kept =>
      match ← ask (.rename source target) with
      | .ok () =>
        if p.tells then printLine ("renamed " ++ arrow source target kept)
        let made := if t.sources.isSome then [info.id] else []
        return (true, { t with targets := made ++ t.targets })
      | .error .invalidArgument =>
        return (← refused ("cannot move " ++ Quoting.shell source ++
          " to a subdirectory of itself, " ++ Quoting.shell target), t)
      | .error e =>
        return (← refused ("cannot move " ++ Quoting.shell source ++ " to " ++
          Quoting.shell target ++ ": " ++ e.reason), t)

end CopyPlan

namespace Utility

/-! ## Operands -/

def destination (given : List OptionForm.Given) (operands : List String) :
    Work (Option String × List String) := do
  let refuse (what path : String) : Work (Option String × List String) := do
    let e := match ← ask (.inspect path true) with
      | .ok _ => OsError.notADirectory
      | .error e => e
    fail 1 (what ++ Quoting.shell path ++ ": " ++ e.reason)
  let chosen := argument? given 't'
  match operands, chosen with
  | [], _ => misused 1 "missing file operand"
  | [a], none => misused 1 ("missing destination file operand after " ++ Quoting.shell a)
  | _, _ =>
    if isGiven given 'T' then
      if chosen.isSome then
        fail 1 "cannot combine --target-directory (-t) and --no-target-directory (-T)"
      match operands with
      | _ :: _ :: c :: _ => misused 1 ("extra operand " ++ Quoting.shell c)
      | _ => pure (none, operands)
    else match chosen with
      | some d => if ← isDirectory d then pure (some d, operands) else refuse "target directory " d
      | none =>
        let last := operands.getLast?.getD ""
        if ← isDirectory last then pure (some last, operands.dropLast)
        else if 2 < operands.length then refuse "target " last
        else pure (none, operands)

/-- The last name of an operand that is put into a directory; it may not lead out of it. -/
def nameInside (source : String) : String :=
  let last := lastName source
  if last = ".." then "." else if last = "/" then "" else last

/-- What to do about files that are in the way; the last option about it is the one that holds. -/
def overwritingOf (given : List OptionForm.Given) (letters : String) : Overwriting :=
  match given.reverse.find? fun g => letters.toList.contains g.1 with
  | some ('i', _) => .asking
  | some ('n', _) => .never
  | _ => .always

/-- Which facts about files are kept, after options; `--no-preserve` takes some away. -/
def keptFacts (given : List OptionForm.Given) : List String :=
  given.foldl (fun kept (c, arg) =>
    let words := (arg.getD "mode,ownership,timestamps").splitOn ","
    let words := if words.contains "all" then ["mode", "timestamps", "links"] else words
    match c with
    | 'p' | 'e' => kept ++ words
    | 'a' => kept ++ ["mode", "timestamps", "links"]
    | 'd' => kept ++ ["links"]
    | 'E' => kept.filter (!words.contains ·)
    | _ => kept) []

def copyForms : List OptionForm :=
  [.flag 'a' "archive", .flag 'b' "", .named 'B' "backup" .optional, .flag 'd' "",
    .flag 'f' "force", .flag 'H' "", .flag 'i' "interactive", .flag 'l' "link",
    .flag 'L' "dereference", .flag 'n' "no-clobber", .flag 'P' "no-dereference", .flag 'p' "",
    .named 'e' "preserve" .optional, .named 'E' "no-preserve" .required, .flag 'r' "recursive",
    .flag 'R' "", .flag 's' "symbolic-link", .taking 'S' "suffix", .taking 't' "target-directory",
    .flag 'T' "no-target-directory", .flag 'u' "update", .flag 'v' "verbose",
    .flag 'x' "one-file-system", .flag 'Z' "", .named 'o' "remove-destination" .none,
    .named 'k' "strip-trailing-slashes" .none, .named 'q' "parents" .none,
    .named 'w' "sparse" .required, .named 'y' "reflink" .optional,
    .named 'z' "attributes-only" .none]

def makeParents (tells : Bool) (directory source : String) : Work Bool := do
  let mut all := true
  for step in (ancestors source).dropLast do
    let target := pathIn directory step
    if (← inspect? target true).isNone then
      match ← ask (.makeDirectory target 0o777) with
      | .ok () => if tells then printLine (step ++ " -> " ++ target)
      | .error e =>
        all ← refused ("cannot make directory " ++ Quoting.shell target ++ ": " ++ e.reason)
  pure all

def cp (args : List String) : Work Unit := do
  let (given, operands) ← options copyForms false 1 args
  let has := isGiven given
  let (directory, sources) ← destination given operands
  let isDeep := "rRa".toList.any has
  let follows : LinkWay := match given.reverse.find? fun g => "adHLP".toList.contains g.1 with
    | some ('L', _) => .always
    | some ('H', _) => .operands
    | some _ => .never
    | none => if isDeep && !has 'l' then .never else .always
  let kept := keptFacts given
  if has 'l' && has 's' then misused 1 "cannot make both hard and symbolic links"
  let overwriting := overwritingOf given "in"
  let backup ← Backup.given? given
  if backup.isSome && overwriting = .never then
    misused 1 "options --backup and --no-clobber are mutually exclusive"
  let p : CopyPlan :=
    { isDeep, follows, overwriting, backup
      kind := if has 'l' then .hardLink else if has 's' then .symlink else .bytes
      isForced := has 'f', removesFirst := has 'o', updates := has 'u' && overwriting ≠ .never
      tells := has 'v', keepsMode := kept.contains "mode"
      keepsTime := kept.contains "timestamps", keepsLinks := kept.contains "links" }
  let plain (source : String) : String :=
    if has 'k' then String.ofList (withoutSlashes source.toList) else source
  match directory, sources with
  | some d, _ =>
    let mut t : CopyTrace :=
      { operands := ("", ""), sources := if 1 < sources.length then some [] else none }
    for source in sources do
      let source := plain source
      let target := pathIn d (if has 'q' then source else nameInside source)
      if !has 'q' || (← makeParents p.tells d source) then
        let (_, next) ← p.copy deepest true [] source target
          { t with operands := (source, target), made := none }
        t := next
  | none, [source, target] =>
    if has 'q' then misused 1 "with --parents, the destination must be a directory"
    let source := plain source
    let _ ← p.copy deepest true [] source target { operands := (source, target) }
  | none, _ => pure ()

def mv (args : List String) : Work Unit := do
  let (given, operands) ← options
    [.flag 'b' "", .named 'B' "backup" .optional, .flag 'f' "force", .flag 'i' "interactive",
      .flag 'n' "no-clobber", .taking 't' "target-directory", .flag 'T' "no-target-directory",
      .flag 'u' "update", .flag 'v' "verbose", .taking 'S' "suffix", .flag 'Z' "context",
      .named 'k' "strip-trailing-slashes" .none] false 1 args
  let overwriting := overwritingOf given "fin"
  let (directory, sources) ← destination given operands
  let backup ← Backup.given? given
  if backup.isSome && overwriting = .never then
    misused 1 "options --backup and --no-clobber are mutually exclusive"
  let p : CopyPlan :=
    { follows := .never, overwriting, backup, updates := isGiven given 'u'
      tells := isGiven given 'v' }
  let plain (source : String) : String :=
    if isGiven given 'k' then String.ofList (withoutSlashes source.toList) else source
  match directory, sources with
  | some d, _ =>
    let mut t : CopyTrace :=
      { operands := ("", ""), sources := if 1 < sources.length then some [] else none }
    for source in sources do
      let source := plain source
      let (_, next) ← p.move source (pathIn d (nameInside source)) t
      t := next
  | none, [source, target] =>
    let _ ← p.move (plain source) target { operands := (source, target) }
  | none, _ => pure ()

end Utility

end JobLaunch.Rehearsal
