import JobLaunch.EventBus
import JobLaunch.StepEvent
import JobLaunch.Telemetry.Journal

/-!
# Reports

What the launcher and its supervisor do is told in three ways: it is logged, counted, and published
as an event.

* `Reporter` — the journal and, if there is one, the event bus.
* `Reporter.stepLaunched`, `Reporter.stepCancelled`, `Reporter.taskExited` — facts that are told in
  all three ways.
-/

namespace JobLaunch

/-- Where facts are told. -/
structure Reporter where
  journal : Journal := {}
  bus : Option (EventBus StepEvent) := none
  deriving DecidableEq, Inhabited

namespace Reporter

def emit (r : Reporter) (e : StepEvent) : Reporter := { r with bus := r.bus.map (·.emit e) }

def note (r : Reporter) (f : Journal → Journal) : Reporter := { r with journal := f r.journal }

def stepLaunched (r : Reporter) (backend name kind : String) (id : StepIdentifier) : Reporter :=
  (r.note (·.stepLaunched backend name kind id.text)).emit (.launched name backend id)

def stepCancelled (r : Reporter) (backend name : String) (managed : Bool) : Reporter :=
  (r.note (·.stepCancelled backend name managed)).emit (.cancelled name managed)

/-- The supervisor has seen a process end. -/
def taskExited (r : Reporter) (id : TaskId) (status : Status) (code : Option Int) : Reporter :=
  (r.note (·.taskExited id.text status.name code)).emit (.taskExited id status code)

end Reporter

end JobLaunch
