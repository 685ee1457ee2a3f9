import JobLaunch.Dict

/-!
# Launch settings

* `RunSettings` — an executable that is started directly, alone or through a parallel launcher.
* `PbsBatch` — a batch job for PBS Professional.
* `GridBatch` — a batch job for Grid Engine.
* `Settings` — one of these for a way to launch; `Settings.kind` names the way.
-/

namespace JobLaunch

/-- A directly started executable. -/
structure RunSettings where
  exe : String
  exeArgs : List String := []
  /-- Arguments of the parallel launcher; one without a value is a flag alone. -/
  runArgs : Dict (Option String) := ∅
  env : Dict String := ∅
  deriving DecidableEq, Inhabited

/-- What both schedulers take unless told otherwise. -/
def defaultSubmit : String := "qsub"

/-- The first line of a script unless told otherwise. -/
def defaultShebang : String := "#!/bin/bash"

structure PbsBatch where
  submit : String := defaultSubmit
  shebang : String := defaultShebang
  nodes : Option UInt32 := none
  cpus : Option UInt32 := none
  /-- The wall time as `HH:MM:SS`. -/
  time : Option String := none
  queue : Option String := none
  account : Option String := none
  resources : Dict String := ∅
  /-- Further options of the submission. -/
  batchArgs : Dict (Option String) := ∅
  /-- Lines of the script before its commands. -/
  preamble : List String := []
  deriving DecidableEq, Inhabited

structure GridBatch where
  submit : String := defaultSubmit
  shebang : String := defaultShebang
  cpus : Option UInt32 := none
  /-- The parallel environment that the processors are taken from. -/
  parallelEnvironment : Option String := none
  time : Option String := none
  queue : Option String := none
  account : Option String := none
  resources : Dict String := ∅
  batchArgs : Dict (Option String) := ∅
  preamble : List String := []
  deriving DecidableEq, Inhabited

/-- Settings for one way to launch. -/
inductive Settings where
  | pbsBatch (batch : PbsBatch)
  | gridBatch (batch : GridBatch)
  | aprun (run : RunSettings)
  /-- A parallel launch by `mpirun`. -/
  | mpirun (run : RunSettings)
  | plain (run : RunSettings)
  deriving DecidableEq, Inhabited

namespace Settings

/-- A way to launch. -/
inductive Kind where
  | pbsBatch
  | gridBatch
  | aprun
  | mpirun
  | plain
  deriving DecidableEq, Inhabited

/-- How a way to launch is shown. -/
def Kind.text : Kind → String
  | pbsBatch => "qsub-batch"
  | gridBatch => "sge-qsub-batch"
  | aprun => "aprun"
  | mpirun => "mpirun"
  | plain => "local"

/-- The way to launch that settings are for. -/
def kind : Settings → Kind
  | pbsBatch _ => .pbsBatch
  | gridBatch _ => .gridBatch
  | aprun _ => .aprun
  | mpirun _ => .mpirun
  | plain _ => .plain

end Settings

end JobLaunch
