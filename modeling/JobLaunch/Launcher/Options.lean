import JobLaunch.Launcher.Basic

/-!
# Options of a launcher

* `LauncherOptions` — a backend, and what a launcher for it is to be given.
* `LauncherOptions.build` — the launcher.
-/

namespace JobLaunch

structure LauncherOptions where
  backend : Backend
  config : Config := {}
  runnerChosen : Bool := false
  clockChosen : Bool := false
  bus : Option (EventBus StepEvent) := none
  deriving DecidableEq, Inhabited

namespace LauncherOptions

/-- The launcher with these options. -/
def build (o : LauncherOptions) : Launcher := Launcher.new o.backend o.config o.bus

def typeName : Backend → String
  | .scheduled (.pbs _) => "sortie::backend::pbs::Pbs"
  | .scheduled (.grid _) => "sortie::backend::sge::Sge"
  | .localMachine => "sortie::backend::local::Local"

def inspect (o : LauncherOptions) : String :=
  Inspect.record "LauncherBuilder"
    [("backend", Inspect.quoted o.backend.name),
      ("backend_type", Inspect.quoted (typeName o.backend)), ("config", o.config.inspect),
      ("runner_set", Inspect.bool o.runnerChosen), ("clock_set", Inspect.bool o.clockChosen),
      ("events_set", Inspect.bool o.bus.isSome)]

end LauncherOptions

end JobLaunch
