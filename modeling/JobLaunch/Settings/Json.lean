import JobLaunch.Settings.Basic
import JobLaunch.Json.Decode

/-!
# Settings in JSON

Settings are an object whose member `kind` names the way to launch. Every other field but the
executable has a default and may be left out. In place of an object there may be an array: the kind
and the fields in their order.

* `Settings.toJson` — writes settings with all their fields.
* `Settings.ofJson?` — reads settings, of which the whole value has to be storable.
-/

namespace JobLaunch

def Dict.toJson {α : Type} (write : α → Json) (d : Dict α) : Json :=
  Json.obj (d.entries.map fun e => (e.1, write e.2))

def flagsToJson (d : Dict (Option String)) : Json := d.toJson (Json.opt Json.str)

def flagsOfJson? (j : Json) : Option (Dict (Option String)) :=
  j.dict? (Json.nullable? Json.text?)

namespace RunSettings

def members (s : RunSettings) : List (String × Json) :=
  [("exe", Json.str s.exe), ("exe_args", Json.strs s.exeArgs), ("run_args", flagsToJson s.runArgs),
    ("env_vars", s.env.toJson Json.str)]

def fields : List Json.Field :=
  [.required "exe", .defaulted "exe_args", .defaulted "run_args", .defaulted "env_vars"]

def ofJson? (j : Json) : Option RunSettings := do
  let fs ← Json.record? fields j
  let exe ← Json.need "exe" Json.text? fs
  let exeArgs ← Json.orElse "exe_args" [] (Json.list? Json.text?) fs
  let runArgs ← Json.orElse "run_args" ∅ flagsOfJson? fs
  let env ← Json.orElse "env_vars" ∅ (Json.dict? Json.text?) fs
  some { exe, exeArgs, runArgs, env }

end RunSettings

def countToJson : Option UInt32 → Json := Json.opt fun n => Json.nat n.toNat

namespace PbsBatch

def members (b : PbsBatch) : List (String × Json) :=
  [("batch_cmd", Json.str b.submit), ("shebang", Json.str b.shebang),
    ("nodes", countToJson b.nodes), ("ncpus", countToJson b.cpus),
    ("time", Json.opt Json.str b.time), ("queue", Json.opt Json.str b.queue),
    ("account", Json.opt Json.str b.account), ("resources", b.resources.toJson Json.str),
    ("batch_args", flagsToJson b.batchArgs), ("preamble", Json.strs b.preamble)]

def fields : List Json.Field :=
  ["batch_cmd", "shebang", "nodes", "ncpus", "time", "queue", "account", "resources", "batch_args",
    "preamble"].map .defaulted

def ofJson? (j : Json) : Option PbsBatch := do
  let fs ← Json.record? fields j
  let submit ← Json.orElse "batch_cmd" defaultSubmit Json.text? fs
  let shebang ← Json.orElse "shebang" defaultShebang Json.text? fs
  let nodes ← Json.orElse "nodes" none (Json.nullable? Json.uint32?) fs
  let cpus ← Json.orElse "ncpus" none (Json.nullable? Json.uint32?) fs
  let time ← Json.orElse "time" none (Json.nullable? Json.text?) fs
  let queue ← Json.orElse "queue" none (Json.nullable? Json.text?) fs
  let account ← Json.orElse "account" none (Json.nullable? Json.text?) fs
  let resources ← Json.orElse "resources" ∅ (Json.dict? Json.text?) fs
  let batchArgs ← Json.orElse "batch_args" ∅ flagsOfJson? fs
  let preamble ← Json.orElse "preamble" [] (Json.list? Json.text?) fs
  some { submit, shebang, nodes, cpus, time, queue, account, resources, batchArgs, preamble }

end PbsBatch

namespace GridBatch

def members (b : GridBatch) : List (String × Json) :=
  [("batch_cmd", Json.str b.submit), ("shebang", Json.str b.shebang),
    ("ncpus", countToJson b.cpus), ("pe_type", Json.opt Json.str b.parallelEnvironment),
    ("time", Json.opt Json.str b.time), ("queue", Json.opt Json.str b.queue),
    ("account", Json.opt Json.str b.account), ("resources", b.resources.toJson Json.str),
    ("batch_args", flagsToJson b.batchArgs), ("preamble", Json.strs b.preamble)]

def fields : List Json.Field :=
  ["batch_cmd", "shebang", "ncpus", "pe_type", "time", "queue", "account", "resources",
    "batch_args", "preamble"].map .defaulted

def ofJson? (j : Json) : Option GridBatch := do
  let fs ← Json.record? fields j
  let submit ← Json.orElse "batch_cmd" defaultSubmit Json.text? fs
  let shebang ← Json.orElse "shebang" defaultShebang Json.text? fs
  let cpus ← Json.orElse "ncpus" none (Json.nullable? Json.uint32?) fs
  let parallelEnvironment ← Json.orElse "pe_type" none (Json.nullable? Json.text?) fs
  let time ← Json.orElse "time" none (Json.nullable? Json.text?) fs
  let queue ← Json.orElse "queue" none (Json.nullable? Json.text?) fs
  let account ← Json.orElse "account" none (Json.nullable? Json.text?) fs
  let resources ← Json.orElse "resources" ∅ (Json.dict? Json.text?) fs
  let batchArgs ← Json.orElse "batch_args" ∅ flagsOfJson? fs
  let preamble ← Json.orElse "preamble" [] (Json.list? Json.text?) fs
  some { submit, shebang, cpus, parallelEnvironment, time, queue, account, resources, batchArgs,
         preamble }

end GridBatch

namespace Settings

/-- The name of a way to launch in JSON. -/
def Kind.tag : Kind → String
  | pbsBatch => "qsub_batch"
  | gridBatch => "sge_qsub_batch"
  | aprun => "aprun"
  | mpirun => "mpirun"
  | plain => "local"

/-- The name of a way to launch on its own. -/
def Kind.name : Kind → String
  | pbsBatch => "QsubBatch"
  | gridBatch => "SgeQsubBatch"
  | aprun => "Aprun"
  | mpirun => "Mpirun"
  | plain => "Local"

def Kind.all : List Kind := [pbsBatch, gridBatch, aprun, mpirun, plain]

/-- The way to launch with a tag. -/
def Kind.ofTag? (s : String) : Option Kind := Kind.all.find? (·.tag = s)

/-- Reads a way to launch by its name. -/
def Kind.ofJson? (j : Json) : Option Kind :=
  (Json.unitVariant? j).bind fun s => Kind.all.find? (·.name = s)

/-- The fields of the settings in their order, without the kind. -/
def members : Settings → List (String × Json)
  | pbsBatch b => b.members
  | gridBatch b => b.members
  | aprun r => r.members
  | mpirun r => r.members
  | plain r => r.members

def toJson (s : Settings) : Json := Json.obj (("kind", Json.str s.kind.tag) :: s.members)

/-- Reads the settings for a way to launch. -/
def ofFields? : Kind → Json → Option Settings
  | .pbsBatch, j => (PbsBatch.ofJson? j).map pbsBatch
  | .gridBatch, j => (GridBatch.ofJson? j).map gridBatch
  | .aprun, j => (RunSettings.ofJson? j).map aprun
  | .mpirun, j => (RunSettings.ofJson? j).map mpirun
  | .plain, j => (RunSettings.ofJson? j).map plain

def isKindMember (m : Option String × Json) : Bool := m.1 == some "kind"

/-- The kind, and the value that holds the other fields. -/
def untag? : Json → Option (Kind × Json)
  | .object ms =>
    match ms.filter isKindMember with
    | [(_, j)] =>
      (j.text?.bind Kind.ofTag?).map fun k => (k, .object (ms.filter (!isKindMember ·)))
    | _ => none
  | .array (j :: js) => (j.text?.bind Kind.ofTag?).map fun k => (k, .array js)
  | _ => none

def ofJson? (j : Json) : Option Settings :=
  if j.isStorable then (untag? j).bind fun (k, j) => ofFields? k j else none

end Settings

end JobLaunch
