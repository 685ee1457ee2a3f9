import JobLaunch.Proofs.Effect
import JobLaunch.Proofs.Supervision

/-!
# Entries and tasks

The registry and the table of tasks are two tables; a task belongs to the entry with its identifier.

* `Holdings` : the two tables, apart from what is reported of entries and told of tasks; `Launcher.holdings`;
* `Holdings.Transfer` : all that a call can do to them from one wait to the next;
* `Launcher.holdings_record`, `Launcher.holdings_watch` : reports and the monitoring do nothing to them;
* `Launcher.served_beginCall`, `Launcher.served_resumeCall` : what a call does to them, and what it still needs of them
  while it waits (`Call.Pending`).
-/

namespace JobLaunch

/-- The entry apart from what was reported of it. -/
def Entry.bare (e : Entry) : Entry := { e with last := none }

/-- The registered entries and the tracked tasks. -/
@[ext]
structure Holdings where
  /-- The registered entries, apart from what was reported of them. -/
  bare? : String → Option Entry
  tracks : TaskId → Bool
  issued : Nat

namespace Holdings

def register (h : Holdings) (name : String) (e : Entry) : Holdings :=
  { h with bare? := fun n => if n = name then some e else h.bare? n }

def erase (h : Holdings) (name : String) : Holdings :=
  { h with bare? := fun n => if n = name then none else h.bare? n }

/-- One more task is tracked, under a new identifier. -/
def track (h : Holdings) : Holdings :=
  { h with tracks := fun id => h.tracks id || decide (id = .issued h.issued), issued := h.issued + 1 }

def untrack (h : Holdings) (task? : Option TaskId) : Holdings :=
  { h with tracks := fun id => h.tracks id && decide (task? ≠ some id) }

/-- No task is tracked any more. -/
def clear (h : Holdings) : Holdings := { h with tracks := fun _ => false }

@[simp] theorem untrack_none (h : Holdings) : h.untrack none = h := by
  unfold untrack
  simp

/-- All that a call can do from one wait to the next. -/
inductive Transfer (h : Holdings) : Holdings → Prop
  | keeps : Transfer h h
  | submits (name job : String) (free : h.bare? name = none) :
    Transfer h (h.register name ⟨some job, none, true, none⟩)
  | starts (name : String) (free : h.bare? name = none) :
    Transfer h (h.track.register name ⟨none, some (.issued h.issued), false, none⟩)
  | removes (name : String) (e : Entry) (found : h.bare? name = some e) :
    Transfer h ((h.untrack e.taskId).erase name)

end Holdings

theorem Registry.bare_observeAll (r : Registry) (news : List Report) (n : String) :
    ((r.observeAll news).2.get? n).map Entry.bare = (r.get? n).map Entry.bare := by
  induction news generalizing r with
  | nil => rfl
  | cons x news ih =>
    refine (ih (r.observe x.1 x.2).2).trans ?_
    rw [get?_observe]
    split
    · cases r.get? n <;> rfl
    · rfl

namespace Supervisor

theorem isSome_task?_modifyTask (s : Supervisor) (id k : TaskId) (f : Task → Task) :
    ((s.modifyTask id f).task? k).isSome = (s.task? k).isSome := by
  rw [task?_modifyTask]
  split
  · exact Option.isSome_map
  · rfl

end Supervisor

namespace Launcher

variable {μ : Type} {m : Machine μ} {l l' : Launcher} {w : μ}

def holdings (l : Launcher) : Holdings where
  bare? n := (l.registry.get? n).map Entry.bare
  tracks id := (l.supervisor.task? id).isSome
  issued := l.supervisor.issued

theorem holdings_of_registry (h : ∀ n, (l'.registry.get? n).map Entry.bare = (l.registry.get? n).map Entry.bare)
    (supervisor : l'.supervisor = l.supervisor) : l'.holdings = l.holdings := by
  unfold holdings
  rw [supervisor, funext h]

/-! ## Reports and monitoring -/

theorem holdings_record (l : Launcher) (xs : List Sighting) : (l.record xs).2.holdings = l.holdings :=
  holdings_of_registry (Registry.bare_observeAll l.registry _) rfl

theorem holdings_beginPoll (l : Launcher) (names : List String) : (l.beginPoll names).2.holdings = l.holdings := by
  rcases beginPoll_cases l names with ⟨h, -⟩ | h
  · rw [h]
  · rw [h]
    exact holdings_record l _

theorem holdings_resumePoll (l : Launcher) (p : Poll) (reply : Reply) :
    (l.resumePoll p reply).2.holdings = l.holdings := by
  rcases resumePoll_cases l p reply with ⟨h, -⟩ | ⟨answer, -, h⟩
  · rw [h]
  · rw [h]
    exact holdings_record l _

theorem holdings_watch (l : Launcher) (v : Watch) : (l.watch v).holdings = l.holdings := by
  cases v with
  | scan answers =>
    refine Holdings.ext rfl (funext fun id => ?_) (Supervisor.issued_askAll l.supervisor answers)
    show ((l.supervisor.askAll answers).1.task? id).isSome = (l.supervisor.task? id).isSome
    rw [Supervisor.task?_askAll]
    exact Option.isSome_map
  | drain task out err =>
    exact Holdings.ext rfl (funext fun id => Supervisor.isSome_task?_modifyTask l.supervisor task id _) rfl
  | endLoop i => rfl

theorem holdings_noteCancel (l : Launcher) (name : String) (answer : Except String CommandOutput) :
    (l.noteCancel name answer).holdings = l.holdings := by
  unfold noteCancel
  cases answer with
  | ok output =>
    dsimp only
    split <;> rfl
  | error message => rfl

/-! ## Launches -/

theorem holdings_complete {step : Step} {id : StepIdentifier} (l : Launcher) (fits : step.Fits id) :
    (l.complete step id).2.holdings = l.holdings.register step.name (step.entry id) := by
  rw [complete_of_fits l fits]
  refine Holdings.ext (funext fun n => ?_) rfl rfl
  refine (congrArg (Option.map Entry.bare) (Registry.get?_insert (l.registry.release step.name) step.name n _)).trans ?_
  show _ = if n = step.name then _ else _
  split <;> rfl

theorem holdings_complete_unmanaged {step : Step} (l : Launcher) (direct : step.managed = false) (job : String) :
    (l.complete step (.scheduler job)).2.holdings = l.holdings := by
  unfold complete Registry.commit Entry.make
  rw [direct]
  rfl

theorem holdings_track (l : Launcher) (t : Task) :
    ({ l with supervisor := (l.supervisor.track t).2 } : Launcher).holdings = l.holdings.track := by
  refine Holdings.ext rfl (funext fun id => ?_) rfl
  show ((l.supervisor.track t).2.task? id).isSome =
    ((l.supervisor.task? id).isSome || decide (id = .issued l.supervisor.issued))
  rw [Supervisor.task?_track]
  cases l.supervisor.task? id with
  | some u => rfl
  | none =>
    rw [Option.none_or]
    split
    · next h => simp [h]
    · next h => simp [h]

theorem holdings_reserved {step : Step} {held : Registry} (taken : l.registry.reserve step.name = .ok held) :
    ({ l with registry := held, supervisor := l.supervisor.start } : Launcher).holdings = l.holdings := by
  obtain ⟨-, -, rfl⟩ := Registry.reserve_eq_ok taken
  refine Holdings.ext rfl (funext fun id => ?_) (Supervisor.issued_start l.supervisor)
  exact congrArg Option.isSome (Supervisor.task?_congr (Supervisor.tasks_start l.supervisor) id)

/-! ## Removals -/

theorem holdings_dropTask (m : Machine μ) (l : Launcher) (e : Entry) (w : μ) :
    (dropTask m l e w).2.1.holdings = l.holdings.untrack e.taskId := by
  unfold dropTask
  cases e.taskId with
  | none => exact (Holdings.untrack_none l.holdings).symm
  | some id =>
    refine Holdings.ext rfl (funext fun k => ?_) (Supervisor.issued_removeTask l.supervisor id)
    show ((l.supervisor.removeTask id).2.2.task? k).isSome =
      ((l.supervisor.task? k).isSome && decide (some id ≠ some k))
    rw [Supervisor.task?_removeTask]
    by_cases hk : k = id
    · simp [hk]
    · simp [hk, Ne.symm hk]

theorem holdings_remove (l : Launcher) (name : String) (reporter : Reporter) :
    ({ l with registry := l.registry.remove name, reporter } : Launcher).holdings = l.holdings.erase name := by
  refine Holdings.ext (funext fun n => ?_) rfl rfl
  show ((l.registry.remove name).get? n).map Entry.bare = if n = name then none else _
  rw [Registry.get?_remove]
  split <;> rfl

/-! ## Calls -/

end Launcher

/-- What a call still needs while it waits: a stop waits only for a managed step, and has yet to take it out. -/
def Call.Pending (h : Holdings) : Call → Prop
  | .run _ | .poll _ => True
  | .stop s => s.entry.managed = true ∧ h.bare? s.name = some s.entry.bare

/-- What a call does from one wait to the next. -/
structure Served (h : Holdings) (p : Launcher.CallProgress) (h' : Holdings) : Prop where
  transfer : h.Transfer h'
  pending : ∀ call, p = .waiting call → call.Pending h'

namespace Launcher

variable {μ : Type} {m : Machine μ} {l : Launcher} {w : μ}

theorem served_done {h h' : Holdings} (transfer : h.Transfer h') (answer : Answer) : Served h (.done answer) h' := by
  refine ⟨transfer, fun call hcall => ?_⟩
  cases hcall

theorem served_run {h h' : Holdings} (transfer : h.Transfer h') (p : RunProgress) :
    Served h (p.map .run .launched) h' := by
  refine ⟨transfer, fun call hcall => ?_⟩
  obtain ⟨r, -, rfl⟩ := Progress.map_eq_waiting hcall
  trivial

theorem served_poll {h h' : Holdings} (transfer : h.Transfer h') (p : PollProgress) :
    Served h (p.map .poll .polled) h' := by
  refine ⟨transfer, fun call hcall => ?_⟩
  obtain ⟨r, -, rfl⟩ := Progress.map_eq_waiting hcall
  trivial

theorem served_waiting_stop {h : Holdings} {s : Stop} (managed : s.entry.managed = true)
    (found : h.bare? s.name = some s.entry.bare) : Served h (.waiting (.stop s)) h := by
  refine ⟨.keeps, fun call hcall => ?_⟩
  cases hcall
  exact ⟨managed, found⟩

theorem served_stopPolling {h : Holdings} {name : String} {e : Entry} (managed : e.managed = true)
    (bare : e.taskId = none) (found : h.bare? name = some e.bare) (next : PollProgress × Launcher)
    (same : next.2.holdings = h) :
    Served h ((stopPolling name e next).1.map .stop .stopped) (stopPolling name e next).2.holdings := by
  obtain ⟨reports | p, l⟩ := next
  · refine served_done ?_ _
    show h.Transfer ({ l with registry := l.registry.remove name, reporter := _ } : Launcher).holdings
    rw [holdings_remove, show l.holdings = h from same]
    have hremoves := Holdings.Transfer.removes name e.bare found
    rwa [show e.bare.taskId = none from bare, Holdings.untrack_none] at hremoves
  · show Served h (.waiting (.stop ⟨name, e, .polling p⟩)) l.holdings
    rw [show l.holdings = h from same]
    exact served_waiting_stop managed found

theorem served_takeDown (m : Machine μ) (w : μ) {name : String} {e : Entry}
    (found : l.holdings.bare? name = some e.bare) (bare : e.managed = true → e.taskId = none) :
    Served l.holdings ((takeDown m l name e w).1.map .stop .stopped) (takeDown m l name e w).2.1.holdings := by
  have hdrop := holdings_dropTask m l e w
  unfold takeDown
  generalize dropTask m l e w = dropped at hdrop
  obtain ⟨seen, l', w'⟩ := dropped
  dsimp only at hdrop ⊢
  cases hm : e.managed with
  | true =>
    rw [if_pos rfl]
    rw [bare hm, Holdings.untrack_none] at hdrop
    exact served_stopPolling hm (bare hm) found (l'.beginPoll [name]) ((holdings_beginPoll l' [name]).trans hdrop)
  | false =>
    rw [if_neg Bool.false_ne_true]
    refine served_done ?_ _
    generalize (seen.map (·.ofStep)).getD Snapshot.unknown = fresh
    have hobserve : ({ l' with registry := (l'.registry.observe name fresh).2 } : Launcher).holdings = l'.holdings :=
      holdings_of_registry (Registry.bare_observeAll l'.registry [(name, fresh)]) rfl
    show l.holdings.Transfer ({ l' with
      registry := (l'.registry.observe name fresh).2.remove name, reporter := _ } : Launcher).holdings
    rw [holdings_remove { l' with registry := (l'.registry.observe name fresh).2 }, hobserve, hdrop]
    exact .removes name e.bare found

/-- A launch registers a task that it starts; a job is not registered yet. -/
theorem transfer_beginRun (m : Machine μ) (l : Launcher) (step : Step) (w : μ) :
    l.holdings.Transfer (beginRun m l step w).2.1.holdings := by
  cases taken : l.registry.reserve step.name with
  | error e =>
    unfold beginRun beginRunOn
    rw [taken]
    exact .keeps
  | ok held =>
    rw [beginRun_eq m w taken]
    have hfree : l.holdings.bare? step.name = none := by
      show (l.registry.get? step.name).map Entry.bare = none
      rw [(Registry.reserve_eq_ok taken).1]
      rfl
    have hstart := holdings_reserved taken
    have hattempt := attempted m l.backend l.supervisor.start step w
    dsimp only
    generalize attempt m l.backend l.supervisor.start step w = a at hattempt
    cases hattempt with
    | failed e w' plain =>
      show l.holdings.Transfer ({ l with registry := held, supervisor := l.supervisor.start } : Launcher).holdings
      rw [hstart]
      exact .keeps
    | submitted scheduler p w' batch owner =>
      show l.holdings.Transfer ({ l with registry := held, supervisor := l.supervisor.start } : Launcher).holdings
      rw [hstart]
      exact .keeps
    | started p w' direct =>
      show l.holdings.Transfer (complete { l with registry := held, supervisor := _ } step _).2.holdings
      rw [holdings_complete _ (show step.Fits (.task _) from direct),
        holdings_track { l with registry := held, supervisor := l.supervisor.start }, hstart]
      have hentry : step.entry (.task (.issued l.supervisor.start.issued)) =
          ⟨none, some (.issued l.holdings.issued), false, none⟩ := by
        rw [Step.entry, direct, Supervisor.issued_start]
        rfl
      rw [hentry]
      exact .starts step.name hfree

theorem transfer_resumeRun (l : Launcher) (r : Run) (reply : Reply) (free : l.registry.get? r.step.name = none) :
    l.holdings.Transfer (l.resumeRun r reply).2.holdings := by
  have hresumed := resumed l r reply
  generalize l.resumeRun r reply = next at hresumed
  cases hresumed with
  | waits stage => exact .keeps
  | fails reporter e plain => exact .keeps
  | succeeds reporter job =>
    show l.holdings.Transfer (complete { l with reporter } r.step (.scheduler job)).2.holdings
    cases hm : r.step.managed with
    | true =>
      rw [holdings_complete _ (show r.step.Fits (.scheduler job) from hm)]
      have hentry : r.step.entry (.scheduler job) = ⟨some job, none, true, none⟩ := by
        rw [Step.entry, hm]
        rfl
      rw [hentry]
      exact .submits r.step.name job (congrArg (Option.map Entry.bare) free)
    | false =>
      rw [holdings_complete_unmanaged _ hm]
      exact .keeps

theorem served_beginStop (m : Machine μ) (l : Launcher) (name : String) (w : μ)
    (bare : ∀ n e, l.holdings.bare? n = some e → e.managed = true → e.taskId = none) :
    Served l.holdings ((beginStop m l name w).1.map .stop .stopped) (beginStop m l name w).2.1.holdings := by
  unfold beginStop
  cases hget : l.registry.get? name with
  | none => exact served_done .keeps _
  | some e =>
    have found : l.holdings.bare? name = some e.bare := congrArg (Option.map Entry.bare) hget
    dsimp only
    cases hcancel : l.cancelCommand? e with
    | none => exact served_takeDown m w found (bare name e.bare found)
    | some command =>
      have hm : e.managed = true := by
        unfold cancelCommand? at hcancel
        split at hcancel
        · assumption
        · cases hcancel
      exact served_waiting_stop hm found

/-- **The start of a call.** -/
theorem served_beginCall (m : Machine μ) (l : Launcher) (request : Request) (w : μ)
    (bare : ∀ n e, l.holdings.bare? n = some e → e.managed = true → e.taskId = none) :
    Served l.holdings (beginCall m l request w).1 (beginCall m l request w).2.1.holdings := by
  cases request with
  | run step => exact served_run (transfer_beginRun m l step w) (beginRun m l step w).1
  | poll names =>
    refine served_poll ?_ (l.beginPoll names).1
    show l.holdings.Transfer (l.beginPoll names).2.holdings
    rw [holdings_beginPoll]
    exact .keeps
  | stop name => exact served_beginStop m l name w bare

/-- **A call goes on.** -/
theorem served_resumeCall (m : Machine μ) (l : Launcher) (call : Call) (reply : Reply) (w : μ)
    (bare : ∀ n e, l.holdings.bare? n = some e → e.managed = true → e.taskId = none)
    (free : ∀ r, call = .run r → l.registry.get? r.step.name = none) (pending : call.Pending l.holdings) :
    Served l.holdings (resumeCall m l call reply w).1 (resumeCall m l call reply w).2.1.holdings := by
  cases call with
  | run r => exact served_run (transfer_resumeRun l r reply (free r rfl)) (l.resumeRun r reply).1
  | poll p =>
    refine served_poll ?_ (l.resumePoll p reply).1
    show l.holdings.Transfer (l.resumePoll p reply).2.holdings
    rw [holdings_resumePoll]
    exact .keeps
  | stop s =>
    obtain ⟨name, e, stage⟩ := s
    obtain ⟨managed, found⟩ := pending
    have hbare : e.taskId = none := bare name e.bare found managed
    cases stage with
    | cancelling command =>
      cases reply with
      | paused => exact served_waiting_stop managed found
      | ended exit => exact served_waiting_stop managed found
      | failed source => exact served_waiting_stop managed found
      | answered answer =>
        have hnote := holdings_noteCancel l name answer
        have hserved := served_takeDown m w (l := l.noteCancel name answer) (hnote ▸ found) fun _ => hbare
        rwa [hnote] at hserved
    | polling p => exact served_stopPolling managed hbare found (l.resumePoll p reply) (holdings_resumePoll l p reply)

end Launcher

end JobLaunch
