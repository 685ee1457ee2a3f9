import JobLaunch.Proofs.Bookkeeping
import JobLaunch.Proofs.Passage

/-!
# A stop takes one step down

A stop is the only call under way, but while it waits the tasks are monitored and the machine goes on by itself.

* `Launcher.halt` : the machine once the process of a step is killed; `Launcher.dropTask_eq` : what a stop does to the
  task of its step;
* `Launcher.told_of_managed`, `Launcher.told_of_unmanaged` : what a poll of one name tells;
* `Launcher.Without` : a launcher without one of its steps;
* `Launcher.passage_stop_of_managed`, `Launcher.passage_stop_of_unmanaged` : the two kinds of stops;
* `Launcher.stop_takes_one_step_down` : a stop reports what a poll would have reported, and takes its step out.
-/

namespace JobLaunch

def Entry.spares (e : Entry) (id : TaskId) : Bool := e.taskId ≠ some id

/-- The report of a stop: what is known of the step, but it counts as cancelled. -/
def Snapshot.cancelled (s : Snapshot) : Snapshot := { s with status := .cancelled }

namespace Launcher

variable {μ : Type} {m : Machine μ} {l l' : Launcher} {name : String} {e : Entry}

/-! ## The task of a step -/

/-- The machine once the process of an entry's task is killed; a process that is known to have ended is left alone. -/
def halt (m : Machine μ) (l : Launcher) (e : Entry) (w : μ) : μ :=
  match e.taskId.bind l.supervisor.task? with
  | some t => if t.exited then w else m.kill t.process w
  | none => w

/-- **What is done to the task of an entry.** It is not tracked any more, and its process is killed if need be; what
could be seen of it is returned. -/
theorem dropTask_eq (m : Machine μ) (l : Launcher) (e : Entry) (w : μ) :
    ∃ supervisor, supervisor.tasks = l.supervisor.tasks.filter (e.spares ·.1) ∧
      dropTask m l e w = (e.taskId.bind l.supervisor.update?, { l with supervisor }, l.halt m e w) := by
  unfold dropTask halt Entry.spares
  -- an entry without a task, or with a task that is gone, spares all tasks
  cases e.taskId with
  | none =>
    refine ⟨l.supervisor, (List.filter_eq_self.2 fun t _ => ?_).symm, rfl⟩
    exact decide_eq_true nofun
  | some id =>
    have hkeep : (fun t : TaskId × Task => decide (some id ≠ some t.1)) = fun t => decide (t.1 ≠ id) := by
      funext t
      simp [eq_comm]
    dsimp only
    rw [Option.bind_some, Option.bind_some, hkeep]
    unfold Supervisor.update? Supervisor.removeTask
    cases hid : l.supervisor.task? id with
    | none =>
      refine ⟨l.supervisor, (List.filter_eq_self.2 fun t ht => ?_).symm, rfl⟩
      unfold Supervisor.task? at hid
      rw [Option.map_eq_none_iff, List.find?_eq_none] at hid
      simpa using hid t ht
    | some t =>
      refine ⟨{ l.supervisor with tasks := l.supervisor.tasks.filter (·.1 ≠ id) }, rfl, ?_⟩
      cases hexited : t.exited <;> simp [killAll, hexited]

/-! ## A poll of one name -/

theorem told_of_managed (h : l.registry.get? name = some e) (managed : e.managed = true) {id : String}
    (hid : e.stepId = some id) (answer : Option (Except String CommandOutput)) :
    l.told answer name = Snapshot.supersede e.last (l.jobSnapshot answer id) := by
  have htracking : e.trackingId? = some (.step id) := by rw [Entry.trackingId?, if_pos managed, hid]; rfl
  rw [told, look, Registry.last?, h, Option.bind_some, Option.bind_some, htracking]
  rfl

theorem told_of_unmanaged (h : l.registry.get? name = some e) (managed : e.managed = false) {id : TaskId}
    (hid : e.taskId = some id) (answer : Option (Except String CommandOutput)) :
    l.told answer name =
      Snapshot.supersede e.last (((l.supervisor.update? id).map (·.ofStep)).getD Snapshot.unknown) := by
  have htracking : e.trackingId? = some (.task id) := by
    rw [Entry.trackingId?, managed, if_neg Bool.false_ne_true, hid]; rfl
  rw [told, look, Registry.last?, h, Option.bind_some, Option.bind_some, htracking]
  rfl

theorem pollReports_single (h : l.registry.get? name = some e) (answer : Option (Except String CommandOutput)) :
    l.pollReports answer [name] = [(name, l.told answer name)] := by
  have hnames : l.polledNames [name] = [name] := by
    unfold polledNames
    cases hm : e.managed <;> simp [Registry.has_eq h, hm]
  rw [pollReports, hnames]
  rfl

theorem beginPoll_of_managed (tracked : l.registry.Tracked) (h : l.registry.get? name = some e)
    (managed : e.managed = true) {s : Scheduler} (owner : l.backend.scheduler? = some s) {id : String}
    (hid : e.stepId = some id) :
    l.beginPoll [name] = (.waiting (l.asked [name]), l) ∧
      l.pollWait (l.asked [name]) = .command (s.queryCommand [id]) := by
  have hhas : [name].filter (l.registry.has true) = [name] := by
    simp [Registry.has_eq h, managed]
  have hids : (l.asked [name]).ids = [id] := by
    have hmap := ids_asked tracked [name]
    rw [hhas, List.map_singleton, Registry.stepId?, h, Option.bind_some, hid] at hmap
    obtain ⟨k, hk, heq⟩ := List.map_eq_singleton_iff.1 hmap
    rw [hk, Option.some.inj heq]
  refine ⟨?_, ?_⟩
  · rw [beginPoll_of_scheduler owner, if_neg]
    rw [isEmpty_queried tracked, hhas]
    exact List.cons_ne_nil _ _
  · unfold pollWait
    rw [owner, hids]

theorem beginPoll_of_unmanaged (tracked : l.registry.Tracked) (h : l.registry.get? name = some e)
    (managed : e.managed = false) : l.PollEnds none [name] (l.beginPoll [name]) := by
  -- there is no job to ask for, so the poll ends where it begins
  have hempty : (l.asked [name]).queried.isEmpty = true := by
    rw [isEmpty_queried tracked]
    simp [Registry.has_eq h, managed]
  have hbegin : l.beginPoll [name] =
      if ((l.asked [name]).queried.isEmpty || l.backend.scheduler?.isNone) = true then
        (.done (l.finishPoll (l.asked [name]) (l.asked [name]).unknowns).1,
          (l.finishPoll (l.asked [name]) (l.asked [name]).unknowns).2)
      else (.waiting (l.asked [name]), l) := rfl
  rw [hbegin, hempty, Bool.true_or, if_pos rfl, unknowns_eq l, finishPoll_eq]
  exact pollEnds_record tracked none [name]

theorem pollEnds_resumePoll (tracked : l.registry.Tracked) (ws : List Watch) (answer : Except String CommandOutput)
    (names : List String) : (l.watchAll ws).PollEnds (some answer) names
      ((l.watchAll ws).resumePoll (l.asked names) (.answered answer)) := by
  have hasked : (l.watchAll ws).asked names = l.asked names := by
    unfold asked
    rw [registry_watchAll]
  rw [resumePoll_answered, ← hasked]
  exact pollEnds_record (by rwa [registry_watchAll]) (some answer) names

theorem jobSnapshot_congr (h : l'.backend = l.backend) (answer : Option (Except String CommandOutput)) (id : String) :
    l'.jobSnapshot answer id = l.jobSnapshot answer id := by
  unfold jobSnapshot
  rw [h]

theorem told_watchAll (h : l.registry.get? name = some e) (managed : e.managed = true) {id : String}
    (hid : e.stepId = some id) (ws : List Watch) (answer : Option (Except String CommandOutput)) :
    (l.watchAll ws).told answer name = Snapshot.supersede e.last (l.jobSnapshot answer id) := by
  rw [told_of_managed (by rwa [registry_watchAll]) managed hid, jobSnapshot_congr (l.backend_watchAll ws)]

/-- **A poll of one managed name** waits for the answer about its job, and tells what that tells of it. -/
theorem passage_poll_of_managed (tracked : l.registry.Tracked) (h : l.registry.get? name = some e)
    (managed : e.managed = true) {s : Scheduler} (owner : l.backend.scheduler? = some s) {id : String}
    (hid : e.stepId = some id) (ws : List Watch) (f : μ → μ) (answer : Except String CommandOutput) (w : μ) :
    ∃ l', proceed m (beginCall m l (.poll [name]) w) [(.watching ws f, .answered answer)] =
      ⟨[.command (s.queryCommand [id])],
        .done (.polled [(name, Snapshot.supersede e.last (l.jobSnapshot (some answer) id))]), l', f w⟩ := by
  obtain ⟨hbegin, hwait⟩ := beginPoll_of_managed tracked h managed owner hid
  have hcall : beginCall m l (.poll [name]) w = (.waiting (.poll (l.asked [name])), l, w) := beginCall_poll hbegin m w
  have ends := pollEnds_resumePoll tracked ws answer [name]
  generalize hnext : (l.watchAll ws).resumePoll (l.asked [name]) (.answered answer) = next at ends
  obtain ⟨p, l'⟩ := next
  obtain rfl : p = .done [(name, Snapshot.supersede e.last (l.jobSnapshot (some answer) id))] := by
    rw [← told_watchAll h managed hid ws, ← pollReports_single (by rwa [registry_watchAll])]
    exact ends.reports
  refine ⟨l', ?_⟩
  rw [hcall, proceed_waiting (resumeCall_poll hnext m (f w)), ← hwait]
  rfl

/-- **A poll of one unmanaged name** is over at once, and tells what can be seen of its task. -/
theorem passage_poll_of_unmanaged (tracked : l.registry.Tracked) (h : l.registry.get? name = some e)
    (managed : e.managed = false) {id : TaskId} (hid : e.taskId = some id) (w : μ) :
    ∃ l', ∀ replies, proceed m (beginCall m l (.poll [name]) w) replies =
      ⟨[], .done (.polled [(name, Snapshot.supersede e.last
        (((l.supervisor.update? id).map (·.ofStep)).getD .unknown))]), l', w⟩ := by
  have ends := beginPoll_of_unmanaged tracked h managed
  generalize hnext : l.beginPoll [name] = next at ends
  obtain ⟨p, l'⟩ := next
  obtain rfl : p = .done [(name, Snapshot.supersede e.last
      (((l.supervisor.update? id).map (·.ofStep)).getD .unknown))] := by
    rw [← told_of_unmanaged h managed hid none, ← pollReports_single h]
    exact ends.reports
  refine ⟨l', fun replies => ?_⟩
  rw [beginCall_poll hnext]
  exact proceed_done _ _ _ _

/-! ## Without a step -/

/-- A launcher is another one, after some monitoring, without one of its steps: the entry and the task of the step are
gone, and everything else is there. -/
structure Without (l : Launcher) (name : String) (e : Entry) (ws : List Watch) (l' : Launcher) : Prop where
  removed : l'.registry.get? name = none
  others : ∀ n, n ≠ name → l'.registry.get? n = l.registry.get? n
  reserved : l'.registry.reserved = l.registry.reserved
  tasks : l'.supervisor.tasks = (l.watchAll ws).supervisor.tasks.filter (e.spares ·.1)

theorem without_finishStop (l' : Launcher) {ws : List Watch}
    (others : ∀ n, n ≠ name → l'.registry.get? n = l.registry.get? n)
    (reserved : l'.registry.reserved = l.registry.reserved)
    (tasks : l'.supervisor.tasks = (l.watchAll ws).supervisor.tasks.filter (e.spares ·.1)) (last : Snapshot) :
    l.Without name e ws (l'.finishStop name e last).2 where
  removed := by
    show (l'.registry.remove name).get? name = none
    rw [Registry.get?_remove, if_pos rfl]
  others n hn := by
    show (l'.registry.remove name).get? n = _
    rw [Registry.get?_remove, if_neg hn, others n hn]
  reserved := reserved
  tasks := tasks

/-! ## Stops -/

theorem stopPolling_of_pollEnds {next : PollProgress × Launcher} {answer : Option (Except String CommandOutput)}
    (h : l.registry.get? name = some e) (ends : l.PollEnds answer [name] next) :
    stopPolling name e next = next.2.finishStop name e (l.told answer name) := by
  obtain ⟨p, l'⟩ := next
  obtain rfl : p = _ := ends.reports
  rw [pollReports_single h]
  rfl

theorem noteCancel_eq (l : Launcher) (name : String) (answer : Except String CommandOutput) :
    ∃ reporter, l.noteCancel name answer = { l with reporter } := by
  unfold noteCancel
  cases answer with
  | ok output =>
    dsimp only
    split
    · exact ⟨l.reporter, rfl⟩
    · exact ⟨_, rfl⟩
  | error message => exact ⟨_, rfl⟩

/-- The cancel command is over, whatever has come of it: the step loses its task, and a last answer about its job is
awaited. -/
theorem resumeStop_cancelled (tracked : l.registry.Tracked) (h : l.registry.get? name = some e)
    (managed : e.managed = true) {s : Scheduler} (owner : l.backend.scheduler? = some s) {id : String}
    (hid : e.stepId = some id) (command : Command) (cancel : Except String CommandOutput) (w : μ) :
    ∃ l', l'.registry = l.registry ∧ l'.backend = l.backend ∧
      l'.supervisor.tasks = l.supervisor.tasks.filter (e.spares ·.1) ∧
      resumeStop m l ⟨name, e, .cancelling command⟩ (.answered cancel) w =
        (.waiting ⟨name, e, .polling (l'.asked [name])⟩, l', l.halt m e w) ∧
      l'.pollWait (l'.asked [name]) = .command (s.queryCommand [id]) := by
  obtain ⟨reporter, hnote⟩ := noteCancel_eq l name cancel
  obtain ⟨supervisor, htasks, hdrop⟩ := dropTask_eq m { l with reporter } e w
  obtain ⟨hbegin, hwait⟩ :=
    @beginPoll_of_managed { l with reporter, supervisor } name e tracked h managed s owner id hid
  refine ⟨{ l with reporter, supervisor }, rfl, rfl, htasks, ?_, hwait⟩
  show takeDown m (l.noteCancel name cancel) name e w = _
  unfold takeDown
  rw [hnote, hdrop]
  dsimp only
  rw [if_pos managed, hbegin]
  rfl

theorem resumeStop_polling {p : Poll} {reply : Reply} {next : StopProgress × Launcher}
    (h : stopPolling name e (l.resumePoll p reply) = next) (w : μ) :
    resumeStop m l ⟨name, e, .polling p⟩ reply w = (next.1, next.2, w) := by
  subst h
  rfl

theorem resumeStop_polled (tracked : l.registry.Tracked) (h : l.registry.get? name = some e)
    (managed : e.managed = true) {id : String} (hid : e.stepId = some id) (vs : List Watch)
    (answer : Except String CommandOutput) (w : μ) {l₀ : Launcher} {ws : List Watch}
    (registry : l.registry = l₀.registry)
    (tasks : (l.watchAll vs).supervisor.tasks = (l₀.watchAll ws).supervisor.tasks.filter (e.spares ·.1)) :
    ∃ l', l₀.Without name e ws l' ∧
      resumeStop m (l.watchAll vs) ⟨name, e, .polling (l.asked [name])⟩ (.answered answer) w =
        (.done (.ok (Snapshot.supersede e.last (l.jobSnapshot (some answer) id)).cancelled), l', w) := by
  have ends := pollEnds_resumePoll tracked vs answer [name]
  generalize hnext : (l.watchAll vs).resumePoll (l.asked [name]) (.answered answer) = next at ends
  have hstop := stopPolling_of_pollEnds (by rwa [registry_watchAll]) ends
  rw [told_watchAll h managed hid] at hstop
  refine ⟨_, without_finishStop next.2 (fun n hn => ?_) ?_ ?_
    (Snapshot.supersede e.last (l.jobSnapshot (some answer) id)), ?_⟩
  · rw [ends.others n (by simpa using hn), registry_watchAll, registry]
  · rw [ends.reserved, registry_watchAll, registry]
  · rw [ends.rest]
    exact tasks
  · exact resumeStop_polling (by rw [hnext, hstop]) w

/-- **The stop of a managed step** waits for its cancel command and then for an answer about its job. -/
theorem passage_stop_of_managed (tracked : l.registry.Tracked) (h : l.registry.get? name = some e)
    (managed : e.managed = true) {s : Scheduler} (owner : l.backend.scheduler? = some s) {id : String}
    (hid : e.stepId = some id) (ws vs : List Watch) (f g : μ → μ) (cancel answer : Except String CommandOutput)
    (w : μ) : ∃ l', l.Without name e (ws ++ vs) l' ∧ proceed m (beginCall m l (.stop name) w)
        [(.watching ws f, .answered cancel), (.watching vs g, .answered answer)] =
      ⟨[.command (s.cancelCommand id), .command (s.queryCommand [id])],
        .done (.stopped (.ok (Snapshot.supersede e.last (l.jobSnapshot (some answer) id)).cancelled)), l',
        g ((l.watchAll ws).halt m e (f w))⟩ := by
  have hcommand : l.cancelCommand? e = some (s.cancelCommand id) := by
    rw [cancelCommand?, if_pos managed, owner, Option.bind_some, hid, Option.map_some]
  have hbegin := beginStop_of_registered m w h
  rw [hcommand, Option.map_some, Option.getD_some] at hbegin
  have hregistry := registry_watchAll l ws
  obtain ⟨l₁, hregistry₁, hbackend₁, htasks₁, hcancelled, hwait⟩ := resumeStop_cancelled (m := m) (l := l.watchAll ws)
    (by rwa [hregistry]) (by rwa [hregistry]) managed ((congrArg _ (l.backend_watchAll ws)).trans owner) hid
    (s.cancelCommand id) cancel (f w)
  rw [hregistry] at hregistry₁
  rw [backend_watchAll] at hbackend₁
  have htasks := tasks_watchAll_filter htasks₁ vs
  rw [← watchAll_append] at htasks
  obtain ⟨l₂, hwithout, hpolled⟩ := resumeStop_polled (m := m) (l := l₁) (by rwa [hregistry₁]) (by rwa [hregistry₁])
    managed hid vs answer (g ((l.watchAll ws).halt m e (f w))) hregistry₁ htasks
  rw [jobSnapshot_congr hbackend₁] at hpolled
  -- the call waits twice: from the start to the end of the command, and from there to the answer
  have hstart : beginCall m l (.stop name) w =
      (.waiting (.stop ⟨name, e, .cancelling (s.cancelCommand id)⟩), l, w) := beginCall_stop hbegin
  have hmiddle : resumeCall m (l.watchAll ws) (.stop ⟨name, e, .cancelling (s.cancelCommand id)⟩) (.answered cancel)
      (f w) = (.waiting (.stop ⟨name, e, .polling (l₁.asked [name])⟩), l₁, (l.watchAll ws).halt m e (f w)) :=
    resumeCall_stop hcancelled
  have hend := resumeCall_stop hpolled
  refine ⟨l₂, hwithout, ?_⟩
  rw [hstart, proceed_waiting hmiddle, proceed_waiting hend, ← hwait]
  rfl

/-- **The stop of an unmanaged step** is over at once. -/
theorem passage_stop_of_unmanaged (h : l.registry.get? name = some e) (managed : e.managed = false) {id : TaskId}
    (hid : e.taskId = some id) (w : μ) :
    ∃ l', l.Without name e [] l' ∧ ∀ replies, proceed m (beginCall m l (.stop name) w) replies =
      ⟨[], .done (.stopped (.ok (Snapshot.supersede e.last
        (((l.supervisor.update? id).map (·.ofStep)).getD .unknown)).cancelled)), l', l.halt m e w⟩ := by
  obtain ⟨supervisor, htasks, hdrop⟩ := dropTask_eq m l e w
  rw [hid, Option.bind_some] at hdrop
  generalize hfresh : ((l.supervisor.update? id).map (·.ofStep)).getD Snapshot.unknown = fresh
  have hcommand : l.cancelCommand? e = none := by
    rw [cancelCommand?, managed, if_neg Bool.false_ne_true]
  have hlast : (l.registry.observe name fresh).1 = Snapshot.supersede e.last fresh := by
    rw [Registry.fst_observe, h, Option.bind_some]
  have hstop : beginStop m l name w =
      ((finishStop { l with supervisor, registry := (l.registry.observe name fresh).2 } name e
        (Snapshot.supersede e.last fresh)).1,
      (finishStop { l with supervisor, registry := (l.registry.observe name fresh).2 } name e
        (Snapshot.supersede e.last fresh)).2, l.halt m e w) := by
    rw [beginStop_of_registered m w h, hcommand]
    show takeDown m l name e w = _
    unfold takeDown
    rw [hdrop]
    dsimp only
    rw [managed, if_neg Bool.false_ne_true, hfresh, hlast]
  refine ⟨_, without_finishStop { l with supervisor, registry := (l.registry.observe name fresh).2 }
    (fun n hn => ?_) (Registry.reserved_observe _ _ _) htasks (Snapshot.supersede e.last fresh), fun replies => ?_⟩
  · show (l.registry.observe name fresh).2.get? n = _
    rw [Registry.get?_observe, if_neg hn]
  · rw [beginCall_stop hstop]
    exact proceed_done _ _ _ _

/-- **A stop cancels, reports and removes exactly one step.** The stop of a name that is not registered fails and
changes nothing. Otherwise it reports what a poll of the name would have reported, but as cancelled, and leaves
everything but the step's own entry and task. A managed step is cancelled by one command, whatever comes of it, before
the scheduler is asked for its state, and the poll is one that begins after this command and has the same answer; for
an unmanaged step, no command is run, and the poll is one in place of the stop. -/
theorem stop_takes_one_step_down (m : Machine μ) {l : Launcher} (arises : l.registry.Arises)
    (scheduled : ∀ n e, l.registry.get? n = some e → e.managed = true → l.backend.scheduler? ≠ none)
    (name : String) (w : μ) :
    (l.registry.get? name = none → ∀ replies,
      proceed m (beginCall m l (.stop name) w) replies = ⟨[], .done (.stopped (.error (.unknownStep name))), l, w⟩) ∧
    ∀ e, l.registry.get? name = some e →
      (e.managed = false → ∃ told polled l', l.Without name e [] l' ∧
        (∀ replies, proceed m (beginCall m l (.poll [name]) w) replies =
          ⟨[], .done (.polled [(name, told)]), polled, w⟩) ∧
        ∀ replies, proceed m (beginCall m l (.stop name) w) replies =
          ⟨[], .done (.stopped (.ok told.cancelled)), l', l.halt m e w⟩) ∧
      (e.managed = true → ∃ s id, l.backend.scheduler? = some s ∧ e.stepId = some id ∧
        ∀ ws vs f g cancel answer, ∃ told polled l', l.Without name e (ws ++ vs) l' ∧
          proceed m (beginCall m (l.watchAll ws) (.poll [name]) (f w)) [(.watching vs g, .answered answer)] =
            ⟨[.command (s.queryCommand [id])], .done (.polled [(name, told)]), polled, g (f w)⟩ ∧
          proceed m (beginCall m l (.stop name) w)
              [(.watching ws f, .answered cancel), (.watching vs g, .answered answer)] =
            ⟨[.command (s.cancelCommand id), .command (s.queryCommand [id])], .done (.stopped (.ok told.cancelled)), l',
              g ((l.watchAll ws).halt m e (f w))⟩) := by
  have tracked := arises.tracked
  refine ⟨fun h replies => ?_, fun e h => ⟨fun managed => ?_, fun managed => ?_⟩⟩
  · rw [beginCall_stop (beginStop_of_unknown m w h)]
    exact proceed_done _ _ _ _
  · obtain ⟨id, hid, -⟩ := (tracked name e h).of_unmanaged managed
    obtain ⟨l', hwithout, hstop⟩ := passage_stop_of_unmanaged (m := m) h managed hid w
    obtain ⟨polled, hpoll⟩ := passage_poll_of_unmanaged (m := m) tracked h managed hid w
    exact ⟨_, polled, l', hwithout, hpoll, hstop⟩
  · obtain ⟨s, owner⟩ := Option.ne_none_iff_exists'.1 (scheduled name e h managed)
    obtain ⟨id, hid, -⟩ := (tracked name e h).of_managed managed
    refine ⟨s, id, owner, hid, fun ws vs f g cancel answer => ?_⟩
    obtain ⟨l', hwithout, hstop⟩ :=
      passage_stop_of_managed (m := m) tracked h managed owner hid ws vs f g cancel answer w
    have hregistry := registry_watchAll l ws
    obtain ⟨polled, hpoll⟩ := passage_poll_of_managed (m := m) (l := l.watchAll ws) (by rwa [hregistry])
      (by rwa [hregistry]) managed ((congrArg _ (l.backend_watchAll ws)).trans owner) hid vs g answer (f w)
    rw [jobSnapshot_congr (l.backend_watchAll ws)] at hpoll
    exact ⟨_, polled, l', hwithout, hpoll, hstop⟩

/-- Neither command of the stop of a job can be run, while the process of another step ends. -/
theorem stop_takes_one_step_down_in_vain :
    let r : Registry := { entries := (∅ : Dict Entry).insert "a" ⟨some "1", none, true, none⟩ }
    let l : Launcher := {
      backend := .scheduled (.pbs {})
      registry := { r with entries := r.entries.insert "b" ⟨none, some (.issued 0), false, none⟩ } }
    let ended : Watch := .scan [(.issued 0, .exited 0)]
    l.registry.Arises ∧ ∃ l', l.Without "a" ⟨some "1", none, true, none⟩ [ended] l' ∧
      proceed Machine.obliging (beginCall Machine.obliging l (.stop "a") ())
          [(.watching [ended] id, .answered (.error "no qdel")), (.idle, .answered (.error "no qstat"))] =
        ⟨[.command ⟨"qdel", ["1"]⟩, .command ⟨"qstat", ["-f", "-F", "json", "-x", "1"]⟩],
          .done (.stopped (.ok { status := .cancelled })), l', ()⟩ := by
  intro r l ended
  have arises : l.registry.Arises :=
    .add (.add .empty (show Registry.add {} "a" (some "1") none true = .ok r from rfl))
      (show Registry.add r "b" none (some (.issued 0)) false = .ok l.registry from rfl)
  obtain ⟨-, hregistered⟩ := stop_takes_one_step_down Machine.obliging arises (fun _ _ _ _ => nofun) "a" ()
  obtain ⟨-, hmanaged⟩ := hregistered ⟨some "1", none, true, none⟩ rfl
  obtain ⟨s, job, howner, hjob, hpassage⟩ := hmanaged rfl
  obtain rfl : s = .pbs {} := (Option.some.inj howner).symm
  obtain rfl : job = "1" := (Option.some.inj hjob).symm
  obtain ⟨told, polled, l', hwithout, hpoll, hstop⟩ :=
    hpassage [ended] [] id id (.error "no qdel") (.error "no qstat")
  have hanswer : (Progress.done (.polled [("a", Snapshot.unknown)]) : CallProgress) = .done (.polled [("a", told)]) :=
    congrArg Passage.progress hpoll
  obtain rfl : told = Snapshot.unknown := by
    cases hanswer
    rfl
  exact ⟨arises, l', hwithout, hstop⟩

end Launcher

end JobLaunch
