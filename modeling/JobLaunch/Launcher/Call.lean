import JobLaunch.Launcher.Run
import JobLaunch.Launcher.Stop

/-!
# Calls on a launcher

Launches, polls and stops are calls: they may wait, and several of them may be under way on one
launcher.

* `Request` — what a caller asks for.
* `Call` — a call that waits.
* `Answer` — the result of a call.
* `Launcher.beginCall`, `Launcher.resumeCall` — the start of a call, and how it goes on.
-/

namespace JobLaunch

/-- What a caller asks for. -/
inductive Request where
  | run (step : Step)
  | poll (names : List String)
  | stop (name : String)
  deriving DecidableEq, Inhabited

inductive Call where
  | run (run : Run)
  | poll (poll : Poll)
  | stop (stop : Stop)
  deriving DecidableEq, Inhabited

inductive Answer where
  | launched (result : Except LaunchError StepIdentifier)
  | polled (reports : List Report)
  | stopped (result : Except LaunchError Snapshot)

namespace Launcher

/-- How far a call has come. -/
abbrev CallProgress := Progress Call Answer

def callWait (l : Launcher) : Call → Wait
  | .run r => l.runWait r
  | .poll p => l.pollWait p
  | .stop s => l.stopWait s

variable {μ : Type}

def beginCall (m : Machine μ) (l : Launcher) (request : Request) (w : μ) :
    CallProgress × Launcher × μ :=
  match request with
  | .run step =>
    let (p, l, w) := beginRun m l step w
    (p.map .run .launched, l, w)
  | .poll names =>
    let (p, l) := l.beginPoll names
    (p.map .poll .polled, l, w)
  | .stop name =>
    let (p, l, w) := beginStop m l name w
    (p.map .stop .stopped, l, w)

/-- How a call goes on after its wait. -/
def resumeCall (m : Machine μ) (l : Launcher) (call : Call) (reply : Reply) (w : μ) :
    CallProgress × Launcher × μ :=
  match call with
  | .run r =>
    let (p, l) := l.resumeRun r reply
    (p.map .run .launched, l, w)
  | .poll p =>
    let (p, l) := l.resumePoll p reply
    (p.map .poll .polled, l, w)
  | .stop s =>
    let (p, l, w) := resumeStop m l s reply w
    (p.map .stop .stopped, l, w)

end Launcher

end JobLaunch
