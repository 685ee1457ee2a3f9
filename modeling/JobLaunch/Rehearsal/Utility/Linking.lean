import JobLaunch.Rehearsal.Utility.Copying

/-!
# Links

* `LinkPlan` — how links are made.
* `Utility.ln`, `Utility.link` — make links.
-/

namespace JobLaunch.Rehearsal

open Utility

structure LinkPlan where
  isSymbolic : Bool
  isRelative : Bool
  follows : Bool
  isForced : Bool
  asks : Bool
  tells : Bool
  backup : Option Backup
  deriving Inhabited

namespace LinkPlan

def attempt (p : LinkPlan) (source target : String) : Work (Except OsError Unit) := do
  if p.isSymbolic then ask (.makeSymlink source target)
  else
    let file ← if p.follows then
        match ← realPath source .none with
        | .ok path => pure path
        | .error _ => pure source
      else pure source
    ask (.makeLink file target)

def complaint (p : LinkPlan) (source target : String) (e : OsError) : String :=
  let both (sign : String) : String :=
    Quoting.shell target ++ " " ++ sign ++ "> " ++ Quoting.shell source
  if p.isSymbolic then
    "failed to create symbolic link " ++
      (if source.isEmpty || e = .nameTooLong then both "-" else Quoting.shell target) ++
      ": " ++ e.reason
  else
    "failed to create hard link " ++
      (if e = .alreadyExists || e = .noSpace then Quoting.shell target else both "=") ++
      ": " ++ e.reason

def tell (p : LinkPlan) (source target : String) (kept : Option String) : Work Unit := do
  if p.tells then
    let before := (kept.map fun b => Quoting.shell b ++ " ~ ").getD ""
    printLine (before ++ Quoting.shell target ++ (if p.isSymbolic then " -> " else " => ") ++
      Quoting.shell source)

/-- Makes way for a link. Tells whether the matter is over, and where an old file is kept. -/
def makeWay (p : LinkPlan) (source target : String) (file : Option FileInfo) :
    Work (Bool × Option String) := do
  match ← ask (.inspect target false) with
  | .error .notFound => pure (false, none)
  | .error e =>
    note ("failed to access " ++ Quoting.shell target ++ ": " ++ e.reason)
    pure (true, none)
  | .ok old =>
    if old.node.isDirectory then
      note (Quoting.shellIfNeeded target ++ ": cannot overwrite directory")
      pure (true, none)
    else if file.any (·.id = old.id) && (← sameEntry source target) then
      note (Quoting.shell source ++ " and " ++ Quoting.shell target ++ " are the same file")
      pure (true, none)
    else if !(← agrees p.asks ("replace " ++ Quoting.shell target)) then pure (true, none)
    else match p.backup with
      | some b =>
        let path ← b.pathFor target
        match ← ask (.rename target path) with
        | .ok () => pure (false, some path)
        | .error e =>
          note ("cannot backup " ++ Quoting.shell target ++ ": " ++ e.reason)
          pure (true, none)
      | none =>
        let _ ← ask (.unlink target)
        pure (false, none)

def make (p : LinkPlan) (source target : String) : Work Unit := do
  let source ← if p.isRelative then
      match ← realPath (directoryPart target) .all, ← realPath source .all with
      | .ok start, .ok path => pure (relativePath path start)
      | _, _ => pure source
    else pure source
  match ← p.attempt source target with
  | .ok () => p.tell source target none
  | .error e =>
    let file : Except OsError (Option FileInfo) ← if p.isSymbolic then pure (.ok none)
      else match ← ask (.inspect source p.follows) with
        | .ok info => pure (.ok (some info))
        | .error e => pure (.error e)
    match file with
    | .error e => note ("failed to access " ++ Quoting.shell source ++ ": " ++ e.reason)
    | .ok file =>
      if file.any (·.node.isDirectory) then
        note (Quoting.shellIfNeeded source ++ ": hard link not allowed for directory")
      else if !(p.isForced || p.asks || p.backup.isSome) then note (p.complaint source target e)
      else
        let (isOver, kept) ← p.makeWay source target file
        if !isOver then
          match ← p.attempt source target with
          | .ok () => p.tell source target kept
          | .error e => note (p.complaint source target e)

end LinkPlan

namespace Utility

def ln (args : List String) : Work Unit := do
  let (given, operands) ← options
    [.flag 'b' "", .named 'B' "backup" .optional, .flag 'd' "directory", .flag 'F' "",
      .flag 'f' "force", .flag 'i' "interactive", .flag 'n' "no-dereference", .flag 'P' "physical",
      .flag 'r' "relative", .flag 'L' "logical", .flag 's' "symbolic", .taking 'S' "suffix",
      .taking 't' "target-directory", .flag 'T' "no-target-directory", .flag 'v' "verbose"]
    false 1 args
  let has := isGiven given
  let last := (given.reverse.find? fun g => g.1 = 'f' || g.1 = 'i').map (·.1)
  if operands.isEmpty then misused 1 "missing file operand"
  if has 'r' && !has 's' then fail 1 "cannot do --relative without --symbolic"
  let chosen := argument? given 't'
  let p : LinkPlan :=
    { isSymbolic := has 's', isRelative := has 'r'
      follows := (given.reverse.find? fun g => g.1 = 'L' || g.1 = 'P').any (·.1 = 'L')
      isForced := last = some 'f', asks := last = some 'i', tells := has 'v'
      backup := ← Backup.given? given }
  let isPlace (path : String) : Work Bool := do
    return (← inspect? path (!has 'n')).any (·.node.isDirectory)
  let inside (d : String) (sources : List String) : Work Unit := do
    for source in sources do p.make source (pathIn d (lastName source))
  let refuse (d : String) : Work Unit := do
    let e := match ← ask (.inspect d true) with
      | .ok _ => OsError.notADirectory
      | .error e => e
    fail 1 ("target " ++ Quoting.shell d ++ ": " ++ e.reason)
  if has 'T' then
    if chosen.isSome then
      fail 1 "cannot combine --target-directory and --no-target-directory"
    match operands with
    | [a, b] => p.make a b
    | [a] => misused 1 ("missing destination file operand after " ++ Quoting.shell a)
    | _ => misused 1 ("extra operand " ++ Quoting.shell (operands[2]?.getD ""))
  else match chosen, operands with
    | some d, _ => if ← isPlace d then inside d operands else refuse d
    | none, [a] => inside "." [a]
    | none, [a, b] => if ← isPlace b then inside b [a] else p.make a b
    | none, _ =>
      let d := operands.getLast?.getD ""
      if ← isPlace d then inside d operands.dropLast else refuse d

def link (args : List String) : Work Unit := do
  let (_, operands) ← options [] false 1 args
  match operands with
  | [] => misused 1 "missing operand"
  | [a] => misused 1 ("missing operand after " ++ Quoting.typographic a)
  | [a, b] =>
    match ← ask (.makeLink a b) with
    | .ok () => pure ()
    | .error e =>
      fail 1 ("cannot create link " ++ Quoting.shell b ++ " to " ++ Quoting.shell a ++ ": " ++
        e.reason)
  | _ :: _ :: c :: _ => misused 1 ("extra operand " ++ Quoting.typographic c)

end Utility

end JobLaunch.Rehearsal
