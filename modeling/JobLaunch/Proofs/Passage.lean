import JobLaunch.Launcher.Call
import JobLaunch.Proofs.Monitoring

/-!
# One call through its waits

A call runs from wait to wait. During a wait others may change the launcher, and the machine may change by itself; then
the call is told something and goes on.

* `Meanwhile` : what happens during a wait; `Meanwhile.watching` : nothing but monitoring does;
* `Launcher.proceed` : a call goes on through some waits; `Passage` : what is seen of it;
* `Passage.Ends` : the waits of a call that has come to its end, and its answer.
-/

namespace JobLaunch

/-- What happens while a call waits. Nothing changes what a launcher launches on, nor its configuration. -/
structure Meanwhile (μ : Type) where
  launcher : Launcher → Launcher
  world : μ → μ
  backend_eq : ∀ l, (launcher l).backend = l.backend
  config_eq : ∀ l, (launcher l).config = l.config

namespace Meanwhile

variable {μ : Type}

/-- The tasks are monitored, and nobody else uses the launcher. -/
def watching (ws : List Watch) (world : μ → μ) : Meanwhile μ where
  launcher l := l.watchAll ws
  world := world
  backend_eq l := l.backend_watchAll ws
  config_eq l := l.config_watchAll ws

def idle : Meanwhile μ := watching [] id

end Meanwhile

/-- What is seen of a call. -/
structure Passage (μ : Type) where
  /-- The waits that are over, in order. -/
  waits : List Wait
  progress : Launcher.CallProgress
  launcher : Launcher
  world : μ

/-- A call has come to its end after these waits, with this answer. -/
structure Passage.Ends {μ : Type} (p : Passage μ) (waits : List Wait) (answer : Answer) : Prop where
  waits : p.waits = waits
  answer : p.progress = .done answer

namespace Launcher

variable {μ : Type}

/-- A call goes on through waits, to its end or as far as it is told something. -/
def proceed (m : Machine μ) : CallProgress × Launcher × μ → List (Meanwhile μ × Reply) → Passage μ
  | (.waiting call, l, w), (b, reply) :: replies =>
    let rest := proceed m (resumeCall m (b.launcher l) call reply (b.world w)) replies
    { rest with waits := l.callWait call :: rest.waits }
  | (.waiting call, l, w), [] => ⟨[], .waiting call, l, w⟩
  | (.done answer, l, w), _ => ⟨[], .done answer, l, w⟩

variable {m : Machine μ} {l : Launcher}

/-! ## The three kinds of calls -/

theorem beginCall_run {step : Step} {w : μ} {next : RunProgress × Launcher × μ} (h : beginRun m l step w = next) :
    beginCall m l (.run step) w = (next.1.map .run .launched, next.2) := by
  subst h
  rfl

theorem beginCall_poll {names : List String} {next : PollProgress × Launcher} (h : l.beginPoll names = next)
    (m : Machine μ) (w : μ) : beginCall m l (.poll names) w = (next.1.map .poll .polled, next.2, w) := by
  subst h
  rfl

theorem resumeCall_poll {p : Poll} {reply : Reply} {next : PollProgress × Launcher} (h : l.resumePoll p reply = next)
    (m : Machine μ) (w : μ) : resumeCall m l (.poll p) reply w = (next.1.map .poll .polled, next.2, w) := by
  subst h
  rfl

theorem beginCall_stop {name : String} {w : μ} {next : StopProgress × Launcher × μ} (h : beginStop m l name w = next) :
    beginCall m l (.stop name) w = (next.1.map .stop .stopped, next.2) := by
  subst h
  rfl

theorem resumeCall_stop {s : Stop} {reply : Reply} {w : μ} {next : StopProgress × Launcher × μ}
    (h : resumeStop m l s reply w = next) :
    resumeCall m l (.stop s) reply w = (next.1.map .stop .stopped, next.2) := by
  subst h
  rfl

/-! ## Waits -/

theorem proceed_waiting {call : Call} {w : μ} {b : Meanwhile μ} {reply : Reply}
    {replies : List (Meanwhile μ × Reply)} {next : CallProgress × Launcher × μ}
    (h : resumeCall m (b.launcher l) call reply (b.world w) = next) :
    proceed m (.waiting call, l, w) ((b, reply) :: replies) =
      { proceed m next replies with waits := l.callWait call :: (proceed m next replies).waits } := by
  subst h
  rfl

@[simp] theorem proceed_done (answer : Answer) (l : Launcher) (w : μ) (replies : List (Meanwhile μ × Reply)) :
    proceed m (.done answer, l, w) replies = ⟨[], .done answer, l, w⟩ := by
  cases replies <;> rfl

theorem ends_done (answer : Answer) (l : Launcher) (w : μ) (replies : List (Meanwhile μ × Reply)) :
    (proceed m (.done answer, l, w) replies).Ends [] answer := by
  rw [proceed_done]
  exact ⟨rfl, rfl⟩

theorem ends_waiting {call : Call} {w : μ} {b : Meanwhile μ} {reply : Reply}
    {replies : List (Meanwhile μ × Reply)} {waits : List Wait} {answer : Answer}
    (h : (proceed m (resumeCall m (b.launcher l) call reply (b.world w)) replies).Ends waits answer) :
    (proceed m (.waiting call, l, w) ((b, reply) :: replies)).Ends (l.callWait call :: waits) answer :=
  ⟨congrArg (l.callWait call :: ·) h.waits, h.answer⟩

end Launcher

end JobLaunch
