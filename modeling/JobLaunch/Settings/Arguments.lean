import JobLaunch.Settings.Basic
import JobLaunch.Text.Decimal
import JobLaunch.Text.Utf8

/-!
# Settings as command arguments

* `RunSettings.runWords` — the arguments of a parallel launcher.
* `RunSettings.exeWords` — the executable with its own arguments.
* `PbsBatch.directives`, `GridBatch.directives` — the options of a batch job, one to a line of the
  script.
-/

namespace JobLaunch

def bareKey (key : String) : String := String.ofList (key.toList.dropWhile (· == '-'))

/-- An option whose value, if any, follows after a blank. -/
def freeOption (key : String) : Option String → String
  | some v => "-" ++ bareKey key ++ " " ++ v
  | none => "-" ++ bareKey key

def freeOptions (args : Dict (Option String)) : List String :=
  args.entries.map fun e => freeOption e.1 e.2

/-- The words of one launcher argument: `-k v` for a key of one byte, `--key=v` otherwise. -/
def runOption (key : String) (value : Option String) : List String :=
  let key := bareKey key
  if Utf8.byteLength key = 1 then ("-" ++ key) :: value.toList
  else match value with
    | some v => ["--" ++ key ++ "=" ++ v]
    | none => ["--" ++ key]

namespace RunSettings

/-- The arguments of the parallel launcher. -/
def runWords (s : RunSettings) : List String :=
  s.runArgs.entries.flatMap fun e => runOption e.1 e.2

/-- The executable followed by its arguments. -/
def exeWords (s : RunSettings) : List String := s.exe :: s.exeArgs

def assignments (s : RunSettings) : List String := s.env.entries.map fun e => e.1 ++ "=" ++ e.2

end RunSettings

def resourceOption (e : String × String) : String := "-l " ++ e.1 ++ "=" ++ e.2

namespace PbsBatch

/-- The request for nodes and processors; processors alone imply one node. -/
def selection (b : PbsBatch) : List String :=
  match b.nodes, b.cpus with
  | some n, some c =>
    ["-l select=" ++ Decimal.text n.toNat ++ ":ncpus=" ++ Decimal.text c.toNat]
  | some n, none => ["-l select=" ++ Decimal.text n.toNat]
  | none, some c => ["-l select=1:ncpus=" ++ Decimal.text c.toNat]
  | none, none => []

def directives (b : PbsBatch) : List String :=
  b.selection ++ (b.time.map ("-l walltime=" ++ ·)).toList ++ (b.queue.map ("-q " ++ ·)).toList ++
    (b.account.map ("-A " ++ ·)).toList ++ b.resources.entries.map resourceOption ++
    freeOptions b.batchArgs

end PbsBatch

namespace GridBatch

/-- The request for processors, made only of a parallel environment. -/
def selection (b : GridBatch) : List String :=
  match b.parallelEnvironment, b.cpus with
  | some pe, some c => ["-pe " ++ pe ++ " " ++ Decimal.text c.toNat]
  | _, _ => []

def directives (b : GridBatch) : List String :=
  b.selection ++ (b.time.map ("-l h_rt=" ++ ·)).toList ++ (b.queue.map ("-q " ++ ·)).toList ++
    (b.account.map ("-A " ++ ·)).toList ++ b.resources.entries.map resourceOption ++
    freeOptions b.batchArgs

end GridBatch

end JobLaunch
