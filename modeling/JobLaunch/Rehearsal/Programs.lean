import JobLaunch.Rehearsal.Host
import JobLaunch.Rehearsal.Script.Launch
import JobLaunch.Rehearsal.Utility.Calculating
import JobLaunch.Rehearsal.Utility.Columns
import JobLaunch.Rehearsal.Utility.Comparing
import JobLaunch.Rehearsal.Utility.Control
import JobLaunch.Rehearsal.Utility.Counting
import JobLaunch.Rehearsal.Utility.Dating
import JobLaunch.Rehearsal.Utility.Dumping
import JobLaunch.Rehearsal.Utility.Editing
import JobLaunch.Rehearsal.Utility.Encoding
import JobLaunch.Rehearsal.Utility.Ends
import JobLaunch.Rehearsal.Utility.Facts
import JobLaunch.Rehearsal.Utility.Gathering
import JobLaunch.Rehearsal.Utility.Linking
import JobLaunch.Rehearsal.Utility.Listing
import JobLaunch.Rehearsal.Utility.Making
import JobLaunch.Rehearsal.Utility.Permitting
import JobLaunch.Rehearsal.Utility.Printing
import JobLaunch.Rehearsal.Utility.Removing
import JobLaunch.Rehearsal.Utility.Searching
import JobLaunch.Rehearsal.Utility.Sorting
import JobLaunch.Rehearsal.Utility.Translating

/-!
# Installed programs

* `Programs.all` — the programs that are installed, by name.
* `Programs.start` — what a program does when it is started.
-/

namespace JobLaunch.Rehearsal.Programs

open Utility

abbrev Starter := List String → List (String × String) → Program

/-- Utilities whose exit code is one if their output is refused. -/
def simple : List (String × (List String → Work Unit)) :=
  [("arch", architecture), ("base32", base32), ("base64", base64), ("basename", baseName), ("cat", cat), ("chmod", chmod), ("cp", cp), ("cut", cut), ("date", date),
    ("dirname", directoryName), ("echo", echo), ("false", fun _ => leave 1), ("groups", userGroups), ("head", head),
    ("hostname", hostName), ("id", identity), ("kill", kill), ("link", link), ("ln", ln), ("mkdir", mkdir),
    ("mktemp", mktemp), ("mv", mv), ("nl", nl), ("nproc", processors), ("od", od), ("paste", paste),
    ("printf", printf), ("pwd", printDirectory), ("readlink", readlink),
    ("realpath", realpath), ("rev", rev), ("rm", rm), ("rmdir", rmdir), ("seq", seq),
    ("sleep", sleep), ("tac", tac), ("tail", tail), ("tee", tee), ("touch", touch), ("tr", tr),
    ("true", fun _ => pure ()), ("truncate", truncate), ("uname", system), ("uniq", uniq), ("unlink", unlink), ("wc", wc), ("which", which),
    ("whoami", whoami), ("xargs", xargs), ("yes", yes)]

def special : List (String × Nat × (List String → Work Unit)) :=
  [("[", 2, test), ("cmp", 2, cmp), ("diff", 2, diff), ("egrep", 2, grep), ("env", 125, env), ("expr", 3, expr), ("fgrep", 2, grep),
    ("grep", 2, grep), ("ls", 2, ls), ("nohup", 125, nohup), ("sed", 4, sed), ("sort", 2, sort),
    ("printenv", 2, printEnvironment), ("test", 2, test), ("timeout", 125, timeout), ("tty", 3, tty)]

def all : List (String × Starter) :=
  [("bash", Script.program .extended), ("dash", Script.program .plain),
    ("sh", Script.program .plain)] ++
  simple.map (fun (name, work) => (name, Utility.program 1 work)) ++
  special.map (fun (name, refused, work) => (name, Utility.program refused work))

def start : Installed := fun name words environment =>
  match all.lookup name with
  | some starter => starter words environment
  | none => .finish (.exit 127)

end JobLaunch.Rehearsal.Programs
