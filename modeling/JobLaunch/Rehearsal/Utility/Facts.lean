import JobLaunch.Rehearsal.Utility.Paths
import JobLaunch.Text.Blank

/-!
# Facts

* `Utility.identity`, `Utility.whoami`, `Utility.userGroups` — who runs something.
* `Utility.system`, `Utility.architecture`, `Utility.processors`, `Utility.hostName` — where it runs.
* `Utility.printEnvironment`, `Utility.which`, `Utility.tty` — with what it runs.
-/

namespace JobLaunch.Rehearsal.Utility

/-- Complains about the first operand of a utility that takes none. -/
def refuseOperands (code : Nat) (operands : List String) : Work Unit := do
  match operands with
  | extra :: _ => misused code ("extra operand " ++ Quoting.typographic extra)
  | [] => pure ()

/-! ## Who -/

def isUser (name : String) : Bool := name = "root" || name = "0"

def identity (args : List String) : Work Unit := do
  let (given, operands) ← options
    [.flag 'a' "", .flag 'Z' "context", .flag 'u' "user", .flag 'g' "group", .flag 'G' "groups",
      .flag 'n' "name", .flag 'r' "real", .flag 'z' "zero"] false 1 args
  let has := isGiven given
  let kinds := "ugG".toList.filter has
  if has 'Z' then fail 1 "--context (-Z) works only on an SELinux-enabled kernel"
  if 1 < kinds.length then fail 1 "cannot print \"only\" of more than one choice"
  if kinds.isEmpty && (has 'r' || has 'n') then
    fail 1 "cannot print only names or real IDs in default format"
  if kinds.isEmpty && has 'z' then fail 1 "option --zero not permitted in default format"
  let text := if kinds.isEmpty then "uid=0(root) gid=0(root) groups=0(root)"
    else if has 'n' then "root" else "0"
  let stop := if !has 'z' then "\n"
    else if 1 < operands.length && has 'G' then "\x00\x00" else "\x00"
  for user in if operands.isEmpty then ["root"] else operands do
    if isUser user then printText (text ++ stop)
    else note (Quoting.typographic user ++ ": no such user")

def whoami (args : List String) : Work Unit := do
  let (_, operands) ← options [] false 1 args
  refuseOperands 1 operands
  printLine "root"

def userGroups (args : List String) : Work Unit := do
  let (_, operands) ← options [] false 1 args
  if operands.isEmpty then printLine "root"
  for user in operands do
    if isUser user then printLine (user ++ " : root")
    else note (Quoting.typographic user ++ ": no such user")

/-! ## Where -/

def system (args : List String) : Work Unit := do
  let (given, operands) ← options
    [.flag 'a' "all", .flag 's' "kernel-name", .named 'S' "sysname" .none, .flag 'n' "nodename",
      .flag 'r' "kernel-release", .named 'R' "release" .none, .flag 'v' "kernel-version",
      .flag 'm' "machine", .flag 'p' "processor", .flag 'i' "hardware-platform",
      .flag 'o' "operating-system"] false 1 args
  refuseOperands 1 operands
  let facts : List (String × String) :=
    [("sS", "Linux"), ("n", "localhost"), ("rR", "6.1.0"), ("v", "#1 SMP"), ("m", "x86_64"),
      ("p", "unknown"), ("i", "unknown"), ("o", "GNU/Linux")]
  let all := isGiven given 'a'
  let shown := facts.filter fun (letters, text) =>
    if all then text ≠ "unknown" else letters.toList.any (isGiven given)
  printLine (if shown.isEmpty then "Linux" else " ".intercalate (shown.map (·.2)))

def architecture (args : List String) : Work Unit := do
  let (_, operands) ← options [] false 1 args
  refuseOperands 1 operands
  printLine "x86_64"

def processors (args : List String) : Work Unit := do
  let (given, operands) ← options
    [.named 'a' "all" .none, .named 'i' "ignore" .required] false 1 args
  refuseOperands 1 operands
  match argument? given 'i' with
  | some text =>
    if text.isEmpty || !text.toList.all Text.isDigit then
      fail 1 ("invalid number: " ++ Quoting.typographic text)
  | none => pure ()
  printLine "1"

def hostName (_ : List String) : Work Unit := printLine "localhost"

/-! ## With what -/

def printEnvironment (args : List String) : Work Unit := do
  let (given, operands) ← options [.flag '0' "null"] true 2 args
  let environment := (← get).environment
  let stop := if isGiven given '0' then "\x00" else "\n"
  if operands.isEmpty then
    for (name, value) in environment do printText (name ++ "=" ++ value ++ stop)
  else
    for name in operands do
      match if name.toList.contains '=' then none else environment.lookup name with
      | some value => printText (value ++ stop)
      | none => setCode 1

def which (args : List String) : Work Unit := do
  let letters := (args.takeWhile fun a => a.toList.head? == some '-' && a ≠ "-" && a ≠ "--")
  let flags := letters.flatMap (·.toList.drop 1)
  match flags.find? fun c => c ≠ 'a' && c ≠ 's' with
  | some c =>
    say ("Illegal option -" ++ String.ofList [c] ++ "\n")
    printLine "Usage: /usr/bin/which [-as] args"
    leave 2
  | none => pure ()
  let names := args.drop letters.length
  let names := if names.head? = some "--" then names.tail else names
  let path := ((← get).environment.lookup "PATH").getD ""
  if names.isEmpty then setCode 1
  for name in names do
    let candidates := if name.toList.contains '/' then [name]
      else (path.splitOn ":").map fun d => pathIn (if d.isEmpty then "." else d) name
    let mut found := false
    for candidate in candidates do
      if !found || flags.contains 'a' then
        match ← inspect? candidate true with
        | some info =>
          if info.node.isExecutable && !info.node.isDirectory then
            if !flags.contains 's' then printLine candidate
            found := true
        | none => pure ()
    if !found then setCode 1

def tty (args : List String) : Work Unit := do
  let (given, operands) ← options
    [.flag 's' "silent", .named 'q' "quiet" .none] false 2 args
  refuseOperands 2 operands
  if given.isEmpty then printLine "not a tty"
  setCode 1

end JobLaunch.Rehearsal.Utility
