import JobLaunch.Rehearsal.Script.Processes

/-!
# What names of commands mean

* `Meaning`, `Sh.meaningOf` — what a name means.
* `Sh.Description.describe`, `Sh.tellTypes`, `Sh.tellCommands` — telling it.
* `Sh.hash`, `Sh.nameCommands`, `Sh.forgetNames` — names that the shell keeps.
-/

namespace JobLaunch.Rehearsal.Script.Sh

def ordinaryBuiltins (d : Dialect) : List String :=
  ["[", "alias", "bg", "cd", "command", "echo", "false", "fg", "getopts", "hash", "jobs", "kill",
    "printf", "pwd", "read", "test", "true", "type", "ulimit", "umask", "unalias", "wait"] ++
    if d = .extended then
      ["builtin", "declare", "let", "mapfile", "readarray", "shopt", "source", "typeset"]
    else ["chdir"]

def isBuiltin (d : Dialect) (name : String) : Bool :=
  specialBuiltins.contains name || (ordinaryBuiltins d).contains name

inductive Meaning where
  | special
  | function (f : Function)
  | builtin
  | program

def meaningOf (name : String) : Sh Meaning := do
  let s ← get
  if s.dialect = .plain && specialBuiltins.contains name then pure .special
  else match s.functions.get? name with
    | some f => pure (.function f)
    | none => pure (if isBuiltin s.dialect name then .builtin else .program)

/-! ## Telling it -/

/-- How the meaning of a name is told. -/
inductive Telling where
  | sentence
  | command
  | kind
  /-- By the path of a program; nothing is told about anything else. -/
  | path
  deriving DecidableEq, Inhabited

/-- What is told. -/
structure Description where
  telling : Telling := .sentence
  all : Bool := false
  skipsFunctions : Bool := false
  onlyPrograms : Bool := false
  standard : Bool := false

namespace Description

def tell (d : Description) (name sentence command kind path : String) : Sh Unit := do
  let line := match d.telling with
    | .sentence => some (name ++ sentence)
    | .command => some command
    | .kind => some kind
    | .path => if path.isEmpty then none else some path
  if let some line := line then
    let _ ← emitText (line ++ "\n")

def tellProgram (d : Description) (name : String) : Sh Bool := do
  let extended ← isExtended
  let isThere (path : String) : Sh Bool := do
    match ← ask (.inspect path true) with
    | .ok ⟨_, node, _⟩ => pure (!extended || (node.isExecutable && !node.isDirectory))
    | .error _ => pure false
  let tellPath (verb path : String) : Sh Unit := d.tell name verb path "file" path
  if hasSlash name then
    if ← isThere name then
      tellPath (" is " ++ name) name
      pure true
    else pure false
  else
    let known := (← get).tracked.find? (·.name = name)
    match extended && !d.all && !d.standard, known with
    | true, some t =>
      tellPath (" is hashed (" ++ t.path ++ ")") t.path
      pure true
    | _, _ =>
      let dirs ← if d.standard then pure ((standardPath.toList.splitOn ':').map String.ofList)
        else searchPath
      if d.all then
        let mut isFound := false
        for dir in dirs do
          if let some p ← findIn name [dir] then
            tellPath (" is " ++ p) p
            isFound := true
        pure isFound
      else
        let path ← if d.standard then findIn name dirs else findProgram name
        match path with
        | some p =>
          if p.isEmpty then pure false
          else
            let verb := if !extended && known.isSome then " is a tracked alias for " else " is "
            tellPath (verb ++ p) p
            pure true
        | none => pure false

def describe (d : Description) (name : String) : Sh Bool := do
  let s ← get
  let extended := s.dialect = .extended
  let mut isFound := false
  if !d.onlyPrograms then
    if (keywords s.dialect).contains name then
      d.tell name " is a shell keyword" name "keyword" ""
      isFound := true
    if !isFound || d.all then
      match if extended then none else s.aliases.get? name with
      | some text =>
        d.tell name (" is an alias for " ++ text)
          ("alias " ++ name ++ "=" ++ quotedText .plain text) "alias" ""
        isFound := true
      | none => pure ()
    let isSpecial := !extended && specialBuiltins.contains name
    if (!isFound || d.all) && !d.skipsFunctions && !isSpecial && s.functions.contains name then
      d.tell name (if extended then " is a function" else " is a shell function") name "function" ""
      isFound := true
    if (!isFound || d.all) && isBuiltin s.dialect name then
      d.tell name (if isSpecial then " is a special shell builtin" else " is a shell builtin")
        name "builtin" ""
      isFound := true
  if !isFound || d.all then
    if ← d.tellProgram name then isFound := true
  pure isFound

end Description

def tellTypes (given : Givens) (names : List String) : Sh Nat := do
  let d : Description :=
    { telling := if given.has 't' then .kind else if given.has 'p' || given.has 'P' then .path
        else .sentence
      all := given.has 'a', skipsFunctions := given.has 'f', onlyPrograms := given.has 'P' }
  let mut isMissing := false
  for name in names do
    if !(← d.describe name) then
      isMissing := true
      if d.telling = .sentence then
        if ← isExtended then complain ("type: " ++ name ++ ": not found")
        else let _ ← emitText (name ++ ": not found\n")
  if !isMissing then pure 0
  else return if ← isExtended then 1 else 127

def tellCommands (given : Givens) (names : List String) : Sh Nat := do
  let extended ← isExtended
  let letters := (given.map (·.letter)).filter (· ≠ 'p')
  let telling := if letters.getLast? = some 'v' then Telling.command else .sentence
  let d : Description := { telling, standard := given.has 'p' }
  let mut isFound := false
  for name in if extended then names else names.take 1 do
    if ← d.describe name then isFound := true
    else if telling = .sentence then
      if extended then complain ("command: " ++ name ++ ": not found")
      else let _ ← emitText (name ++ ": not found\n")
  pure (if isFound || names.isEmpty then 0 else if extended then 1 else 127)

/-! ## Names that the shell keeps -/

def plainPlace (name : String) : Nat :=
  let codes := (Bytes.ofText name).map (·.toNat)
  (codes.foldl (· + ·) (codes.headD 0 * 16)) % 32768 % 31

def trackedInOrder : Sh (List Tracked) := do
  let s ← get
  match s.dialect with
  | .plain => pure ((List.range 31).flatMap fun n =>
      s.tracked.filter fun t => plainPlace t.name = n)
  | .extended => pure ((List.range 256).flatMap fun n =>
      s.tracked.reverse.filter fun t => (Table.scatter t.name).toNat % 256 = n)

def listTracked (asCommands : Bool) : Sh Nat := do
  let all ← trackedInOrder
  if !(← isExtended) then
    emitText ("".intercalate (all.map fun t => t.path ++ (if t.isStale then "*" else "") ++ "\n"))
  else if all.isEmpty then emitText (if asCommands then "" else "hash: hash table empty\n")
  else if asCommands then
    emitText ("".intercalate (all.map fun t =>
      "builtin hash -p " ++ t.path ++ " " ++ t.name ++ "\n"))
  else
    let line (t : Tracked) : String :=
      let hits := Decimal.text t.hits
      String.ofList (List.replicate (4 - hits.length) ' ') ++ hits ++ "\t" ++ t.path ++ "\n"
    emitText ("hits\tcommand\n" ++ "".intercalate (all.map line))

/-- Looks for programs and takes note of them, or forgets them, or lists them. -/
def hash (given : Givens) (names : List String) : Sh Nat := do
  let extended ← isExtended
  if given.has 'r' then modify fun s => { s with tracked := [] }
  if names.isEmpty then
    if given.has 'r' then return 0
    else return ← listTracked (given.has 'l')
  let mut status := 0
  for name in names do
    let s ← get
    let isKnown := isBuiltin s.dialect name || s.functions.contains name || hasSlash name
    let known := s.tracked.find? (·.name = name)
    let missing : Sh Unit := complain ((if extended then "hash: " else "") ++ name ++ ": not found")
    let forget : Sh Unit :=
      modify fun s => { s with tracked := s.tracked.filter (·.name ≠ name) }
    match given.argument? 'p', given.has 'd', given.has 't' with
    | some path, _, _ => track name path false
    | none, true, _ =>
      if known.isSome then forget
      else
        missing
        status := 1
    | none, false, true =>
      match known with
      | some t =>
        let text := if given.has 'l' then "builtin hash -p " ++ t.path ++ " " ++ name
          else if 1 < names.length then name ++ "\t" ++ t.path else t.path
        let _ ← emitText (text ++ "\n")
      | none =>
        missing
        status := 1
    | none, false, false =>
      if isKnown && !name.isEmpty then pure ()
      else if name.isEmpty then
        complain (if extended then "hash: : not found" else ": Permission denied")
        status := 1
      else
        forget
        match ← findProgram name with
        | some p => track name p false
        | none =>
          missing
          status := 1
  pure status

def nameCommands (given : Givens) (args : List String) : Sh Nat := do
  let extended ← isExtended
  let line (name text : String) : String :=
    (if extended then "alias " else "") ++ name ++ "=" ++ quotedText .plain text ++ "\n"
  if args.isEmpty || given.has 'p' then
    return ← emitText ("".intercalate ((← get).aliases.entries.map fun (n, t) => line n t))
  let mut status := 0
  for arg in args do
    match nameAndValue arg with
    | (name, some text) => modify fun s => { s with aliases := s.aliases.insert name text }
    | (name, none) =>
      match (← get).aliases.get? name with
      | some text =>
        let _ ← emitText (line name text)
      | none =>
        if extended then complain ("alias: " ++ name ++ ": not found")
        else say 2 ("alias: " ++ name ++ " not found\n")
        status := 1
  pure status

def forgetNames (given : Givens) (names : List String) : Sh Nat := do
  let extended ← isExtended
  if given.has 'a' then
    modify fun s => { s with aliases := ∅ }
    pure 0
  else if extended && names.isEmpty then misuse "unalias" "unalias [-a] name [name ...]"
  else
    let mut status := 0
    for name in names do
      if (← get).aliases.contains name then
        modify fun s => { s with aliases := s.aliases.erase name }
      else
        if extended then complain ("unalias: " ++ name ++ ": not found")
        else say 2 ("unalias: " ++ name ++ " not found\n")
        status := 1
    pure status

end JobLaunch.Rehearsal.Script.Sh
