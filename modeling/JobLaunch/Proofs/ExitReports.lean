import JobLaunch.Proofs.Subscription
import JobLaunch.Proofs.TaskLife

/-!
# Reports of ended tasks

* `Task.reports_of_running` : a task that runs is reported once, when it ends;
* `Reporter.tasksExited` : the reports of several tasks; `Reporter.bus_tasksExited`, `Reporter.exitCount_tasksExited` :
  each of them is published once and counted once;
* `Supervision.SeenToEnd` : a scan was told of the end of a task while it was tracked;
* `Supervision.reporter_run` : nothing else is reported in a run; `Supervision.exitLog_eq` : what is reported of a task;
* `Supervision.subscriber_hears_exits` : what is reported reaches a subscriber;
* `Supervision.exits_reported_once` : every end that is seen is reported once, and truly.
-/

namespace JobLaunch

/-! ## Events and counts -/

namespace StepEvent

/-- The event that tells of an ended task. -/
def ofExit (x : TaskId × Task) : StepEvent := taskExited x.1 x.2.status x.2.returnCode

/-- Does the event tell that a task has ended? -/
def tellsEnd (id : TaskId) : StepEvent → Bool
  | taskExited k _ _ => k = id
  | launched .. | cancelled .. => false

theorem countP_tellsEnd (id : TaskId) (xs : List (TaskId × Task)) :
    (xs.map ofExit).countP (tellsEnd id) = (xs.filter (·.1 = id)).length := by
  rw [List.countP_map, List.countP_eq_length_filter]
  rfl

end StepEvent

namespace Reporter

/-- Several tasks are reported to have ended. -/
def tasksExited (r : Reporter) (xs : List (TaskId × Task)) : Reporter :=
  xs.foldl (fun r x => r.taskExited x.1 x.2.status x.2.returnCode) r

/-- How many tasks have been counted as ended with a status. -/
def exitCount (r : Reporter) (status : String) : Nat := (r.journal.metrics.exited.get? status).getD 0

theorem tasksExited_append (r : Reporter) (xs ys : List (TaskId × Task)) :
    r.tasksExited (xs ++ ys) = (r.tasksExited xs).tasksExited ys := List.foldl_append

theorem bus_tasksExited (r : Reporter) (xs : List (TaskId × Task)) :
    (r.tasksExited xs).bus = r.bus.map (·.emitAll (xs.map StepEvent.ofExit)) := by
  induction xs generalizing r with
  | nil => exact Option.map_id'.symm
  | cons x xs ih =>
    refine (ih (r.taskExited x.1 x.2.status x.2.returnCode)).trans ?_
    exact Option.map_map ..

theorem exitCount_taskExited (r : Reporter) (id : TaskId) (s : Status) (code : Option Int) (status : String) :
    (r.taskExited id s code).exitCount status = r.exitCount status + if s.name = status then 1 else 0 := by
  show ((Metrics.increment r.journal.metrics.exited s.name).get? status).getD 0 = _
  unfold Metrics.increment
  rw [Dict.get?_insert]
  by_cases h : status = s.name
  · rw [if_pos h, if_pos h.symm, h]
    rfl
  · rw [if_neg h, if_neg (Ne.symm h)]
    rfl

theorem exitCount_tasksExited (r : Reporter) (xs : List (TaskId × Task)) (status : String) :
    (r.tasksExited xs).exitCount status = r.exitCount status + xs.countP (·.2.status.name = status) := by
  induction xs generalizing r with
  | nil => rfl
  | cons x xs ih =>
    refine (ih (r.taskExited x.1 x.2.status x.2.returnCode)).trans ?_
    rw [exitCount_taskExited, List.countP_cons]
    simp only [decide_eq_true_eq]
    omega

end Reporter

/-! ## Reports of one task -/

namespace Task

variable {t : Task}

theorem reports_of_exited (h : t.exited = true) (ns : List News) : t.reports ns = [] := by
  induction ns generalizing t with
  | nil => rfl
  | cons n ns ih =>
    cases n with
    | ended raw =>
      show (t.report? (.ended raw)).toList ++ (t.hear (.ended raw)).reports ns = []
      rw [report?_ended_of_exited h, hear_ended_of_exited h, ih h]
      rfl
    | read out err => exact ih ((exited_drained t out err).trans h)

/-- **A task that runs is reported once, when it ends.** -/
theorem reports_of_running (running : t.exited = false) (ns : List News) (reading : t.drain ≠ .pending) :
    t.reports ns = ((News.ending? ns).map t.exit).toList := by
  induction ns with
  | nil => rfl
  | cons n ns ih =>
    cases n with
    | ended raw =>
      show (t.report? (.ended raw)).toList ++ (t.hear (.ended raw)).reports ns = [t.exit raw]
      rw [report?_ended_of_running running, hear_ended_of_running running, reports_of_exited rfl]
      rfl
    | read out err =>
      show (t.drained out err).reports ns = _
      rw [drained_of_ne reading, ih]
      rfl

theorem isTerminal_status_exit (t : Task) (raw : Int) : (t.exit raw).status.isTerminal = true := by
  rw [status_exit]
  split <;> rfl

end Task

/-! ## Scans -/

theorem News.findSome?_read?_ofAnswer? (k : TaskId) (answers : List (TaskId × Liveness)) :
    (answers.filterMap (ofAnswer? k)).findSome? read? = none := by
  rw [List.findSome?_eq_none_iff]
  intro n hn
  obtain ⟨a, -, ha⟩ := List.mem_filterMap.1 hn
  unfold ofAnswer? at ha
  split at ha
  · obtain ⟨raw, -, rfl⟩ := Option.map_eq_some_iff.1 ha
    rfl
  · cases ha

namespace Supervisor

theorem ask_eq_some {s : Supervisor} {id : TaskId} {answer : Liveness} {x : TaskId × Task}
    (h : (s.ask id answer).2 = some x) :
    ∃ (t : Task) (raw : Int), x = (id, t.exit raw) ∧ (s.ask id answer).1.task? id = some (t.exit raw) := by
  have hnext := task?_ask s id answer id
  rw [News.ofAnswer?_self] at hnext
  generalize (s.ask id answer).1.task? id = next at hnext ⊢
  unfold ask at h
  cases hid : s.task? id with
  | none =>
    rw [hid] at h
    cases h
  | some t =>
    rw [hid] at h hnext
    cases answer with
    | alive => cases h
    | unclear => cases h
    | exited raw =>
      dsimp only at h
      split at h
      · cases h
      · next hexited =>
        obtain rfl := Option.some.inj h
        refine ⟨t, raw, rfl, hnext.trans (congrArg some ?_)⟩
        exact Task.hear_ended_of_running (Bool.eq_false_iff.2 hexited) raw

/-- **What a scan reports it has recorded before**, and it is final. -/
theorem task?_of_mem_askAll {s : Supervisor} {answers : List (TaskId × Liveness)} {x : TaskId × Task}
    (h : x ∈ (s.askAll answers).2) :
    (s.askAll answers).1.task? x.1 = some x.2 ∧ x.2.status.isTerminal = true := by
  induction answers generalizing s with
  | nil => cases h
  | cons a rest ih =>
    rcases List.mem_append.1 (show x ∈ (s.ask a.1 a.2).2.toList ++ ((s.ask a.1 a.2).1.askAll rest).2 from h)
      with hfirst | hrest
    · obtain ⟨t, raw, rfl, hnext⟩ := ask_eq_some (Option.mem_toList.1 hfirst)
      refine ⟨?_, t.isTerminal_status_exit raw⟩
      show ((s.ask a.1 a.2).1.askAll rest).1.task? a.1 = some (t.exit raw)
      rw [task?_askAll, hnext, Option.map_some, Task.hearAll_of_exited rfl, News.findSome?_read?_ofAnswer?]
      rfl
    · exact ih hrest

end Supervisor

/-! ## Runs -/

namespace Supervision

variable {μ : Type} {m : Machine μ} {S : Supervision μ} {id : TaskId}

/-- What the questions of a scan leave, before anything is reported. -/
def asked (S : Supervision μ) (answers : List (TaskId × Liveness)) : Supervision μ :=
  { S with supervisor := (S.supervisor.askAll answers).1 }

theorem act_scan (m : Machine μ) (S : Supervision μ) (answers : List (TaskId × Liveness)) :
    S.act m (.scan answers) =
      { S.asked answers with reporter := (S.asked answers).reporter.tasksExited (S.exits (.scan answers)) } := rfl

/-- A scan was told of the end of a task while it was tracked. -/
def SeenToEnd (m : Machine μ) (S : Supervision μ) (as : List (Act μ)) (id : TaskId) : Prop :=
  ∃ before answers after raw, as = before ++ .scan answers :: after ∧ (S.run m before).task? id ≠ none ∧
    (id, .exited raw) ∈ answers

theorem reporter_act (m : Machine μ) (S : Supervision μ) (a : Act μ) :
    (S.act m a).reporter = S.reporter.tasksExited (S.exits a) := by
  cases a <;> rfl

/-- **Nothing else is reported in a run.** -/
theorem reporter_run (m : Machine μ) (S : Supervision μ) (as : List (Act μ)) :
    (S.run m as).reporter = S.reporter.tasksExited (S.exitLog m as) := by
  induction as generalizing S with
  | nil => rfl
  | cons a as ih =>
    show ((S.act m a).run m as).reporter = S.reporter.tasksExited (S.exits a ++ (S.act m a).exitLog m as)
    rw [ih, reporter_act, Reporter.tasksExited_append]

/-- **A subscriber hears of the ends that are reported,** in order and behind what it has not read yet, if all of this is
not more than the capacity of the bus. -/
theorem subscriber_hears_exits {capacity : Nat} {b : EventBus StepEvent} (accepted : EventBus.new? capacity = some b)
    {i : Nat} {us : List (EventBus.Action StepEvent)} {es : List StepEvent} (subscribed : EventBus.news i us = some es)
    (m : Machine μ) {S : Supervision μ} (bus : S.reporter.bus = some (b.run us)) (as : List (Act μ))
    (near : (es.drop (EventBus.passed (EventBus.replies i b us)) ++
      (S.exitLog m as).map StepEvent.ofExit).length ≤ capacity) :
    (S.run m as).reporter.bus.map (fun bus => (bus.receiveAll i).1) =
      some (es.drop (EventBus.passed (EventBus.replies i b us)) ++ (S.exitLog m as).map StepEvent.ofExit) := by
  rw [reporter_run, Reporter.bus_tasksExited, bus]
  exact congrArg some (EventBus.receiveAll_emitAll accepted subscribed _ near)

theorem exists_of_mem_exitLog {x : TaskId × Task} {as : List (Act μ)} (h : x ∈ S.exitLog m as) :
    ∃ before answers after, as = before ++ .scan answers :: after ∧ x ∈ (S.run m before).exits (.scan answers) := by
  obtain ⟨before, a, after, rfl, hx⟩ := mem_collect.1 h
  cases a with
  | scan answers => exact ⟨before, answers, after, rfl, hx⟩
  | startTask | drain | look | remove | startLoop | endLoop | beginShutdown | finishShutdown | elsewhere => cases hx

theorem ended_mem_news {a : Act μ} {raw : Int} :
    .ended raw ∈ a.news id ↔ ∃ answers, a = .scan answers ∧ (id, .exited raw) ∈ answers := by
  cases a with
  | scan answers =>
    show News.ended raw ∈ answers.filterMap (News.ofAnswer? id) ↔ _
    rw [List.mem_filterMap]
    constructor
    · rintro ⟨⟨k, answer⟩, hmem, h⟩
      refine ⟨answers, rfl, ?_⟩
      by_cases hk : k = id
      · subst hk
        rw [News.ofAnswer?_self] at h
        cases answer <;> cases h
        exact hmem
      · rw [News.ofAnswer?_of_ne hk] at h
        cases h
    · rintro ⟨answers', heq, hmem⟩
      cases heq
      exact ⟨_, hmem, News.ofAnswer?_self id _⟩
  | drain k out err =>
    show News.ended raw ∈ (if k = id then [.read out err] else []) ↔ _
    refine ⟨fun h => ?_, nofun⟩
    split at h <;> simp at h
  | startTask | look | remove | startLoop | endLoop | beginShutdown | finishShutdown | elsewhere =>
    exact ⟨nofun, nofun⟩

theorem seenToEnd_iff {as : List (Act μ)} : S.SeenToEnd m as id ↔ (News.ending? (S.history m id as)).isSome := by
  rw [News.ending?, List.findSome?_isSome_iff]
  constructor
  · rintro ⟨before, answers, after, raw, rfl, tracked, hmem⟩
    refine ⟨.ended raw, mem_collect.2 ⟨before, .scan answers, after, rfl, ?_⟩, rfl⟩
    rw [if_pos (Option.isSome_iff_ne_none.2 tracked)]
    exact ended_mem_news.2 ⟨answers, rfl, hmem⟩
  · rintro ⟨n, hn, hsome⟩
    obtain ⟨before, a, after, rfl, hnews⟩ := mem_collect.1 hn
    split at hnews
    · next tracked =>
      cases n with
      | ended raw =>
        obtain ⟨answers, rfl, hmem⟩ := ended_mem_news.1 hnews
        exact ⟨before, answers, after, raw, rfl, Option.isSome_iff_ne_none.1 tracked, hmem⟩
      | read out err => cases hsome
    · cases hnews

theorem told?_eq_some {a : Act μ} {snap : TaskSnapshot} (h : S.told? a = some snap) :
    ∃ t, S.task? snap.task = some t ∧ snap = t.snapshot snap.task := by
  have hupdate : ∀ k, S.supervisor.update? k = some snap →
      ∃ t, S.task? snap.task = some t ∧ snap = t.snapshot snap.task := by
    intro k hk
    obtain ⟨t, ht, rfl⟩ := Option.map_eq_some_iff.1 hk
    exact ⟨t, ht, rfl⟩
  cases a with
  | look k => exact hupdate k h
  | remove k =>
    refine hupdate k ((?_ : _ = (S.supervisor.removeTask k).1).trans h)
    unfold Supervisor.update? Supervisor.removeTask
    cases S.supervisor.task? k <;> rfl
  | startTask | scan | drain | startLoop | endLoop | beginShutdown | finishShutdown | elsewhere => cases h

/-- **What is reported of a task in a run**, and what can be seen of it then, come from what it was told. -/
theorem exitLog_eq (m : Machine μ) (config : SupervisorConfig) (r : Reporter) (w : μ) (as : List (Act μ))
    (id : TaskId) :
    let S := new config r w
    ∃ p stdout stderr,
      (∀ t, (S.run m as).task? id = some t → t = (Task.new p stdout stderr).hearAll (S.history m id as)) ∧
      (S.exitLog m as).filter (·.1 = id) =
        ((News.ending? (S.history m id as)).map (Task.new p stdout stderr).exit).toList.map (id, ·) := by
  intro S
  have sound : S.Sound := sound_new config r w
  obtain ⟨p, stdout, stderr, htask, hlog⟩ := run_of_untracked (m := m) sound (show S.task? id = none from rfl) as
  rw [Task.reports_of_running rfl _ (Task.drain_new_ne p stdout stderr)] at hlog
  exact ⟨p, stdout, stderr, htask, hlog⟩

theorem later_of_mem_exitLog {config : SupervisorConfig} {r : Reporter} {w : μ} {as : List (Act μ)} {x : TaskId × Task}
    (h : x ∈ (new config r w).exitLog m as) (bs : List (Act μ)) {t : Task}
    (ht : ((new config r w).run m (as ++ bs)).task? x.1 = some t) :
    t.status = x.2.status ∧ t.returnCode = x.2.returnCode := by
  obtain ⟨p, stdout, stderr, htask, hlog⟩ := exitLog_eq m config r w (as ++ bs) x.1
  have hmem : x ∈ ((new config r w).exitLog m (as ++ bs)).filter (·.1 = x.1) := by
    rw [exitLog, collect_append]
    exact List.mem_filter.2 ⟨List.mem_append_left _ h, decide_eq_true rfl⟩
  rw [hlog] at hmem
  obtain ⟨u, hu, hx⟩ := List.mem_map.1 hmem
  obtain ⟨raw, hraw, rfl⟩ := Option.map_eq_some_iff.1 (Option.mem_toList.1 hu)
  obtain ⟨hcode, hstatus⟩ := (Task.tells_hearAll_new p stdout stderr _).ended raw hraw
  rw [htask t ht, show x.2 = (Task.new p stdout stderr).exit raw from (congrArg (·.2) hx).symm]
  exact ⟨hstatus.trans (Task.status_exit _ raw).symm, hcode⟩

/-- **Every end of a task that a scan sees is reported once, and truly**: published once and counted once, when the task
can already be seen to have ended, with the status and the return code that are told of it from then on. Nothing else is
reported. -/
theorem exits_reported_once (m : Machine μ) (config : SupervisorConfig) (r : Reporter) (w : μ) (as : List (Act μ)) :
    let S := new config r w
    let T := S.run m as
    let exits := S.exitLog m as
    let events := exits.map StepEvent.ofExit
    T.reporter = r.tasksExited exits ∧
      T.reporter.bus = r.bus.map (·.emitAll events) ∧
      (∀ status, T.reporter.exitCount status = r.exitCount status + exits.countP (·.2.status.name = status)) ∧
      (∀ id, (S.SeenToEnd m as id → events.countP (·.tellsEnd id) = 1 ∧ (exits.filter (·.1 = id)).length = 1) ∧
        (¬ S.SeenToEnd m as id → events.countP (·.tellsEnd id) = 0 ∧ (exits.filter (·.1 = id)).length = 0)) ∧
      ∀ id status code, .taskExited id status code ∈ events →
        (∃ before answers after, as = before ++ .scan answers :: after ∧
          let U := (S.run m before).asked answers
          let seen := (S.run m before).exits (.scan answers)
          (S.run m before).act m (.scan answers) = { U with reporter := U.reporter.tasksExited seen } ∧
            .taskExited id status code ∈ seen.map StepEvent.ofExit ∧
            ∃ snap, U.supervisor.update? id = some snap ∧
              snap.status = status ∧ snap.returnCode = code ∧ snap.status.isTerminal = true) ∧
        ∀ bs a snap, (S.run m (as ++ bs)).told? a = some snap → snap.task = id →
          snap.status = status ∧ snap.returnCode = code := by
  intro S T exits events
  have hreporter : T.reporter = r.tasksExited exits := reporter_run m S as
  refine ⟨hreporter, ?_, fun status => ?_, fun id => ?_, fun id status code hevent => ⟨?_, ?_⟩⟩
  · rw [hreporter, Reporter.bus_tasksExited]
  · rw [hreporter, Reporter.exitCount_tasksExited]
  · obtain ⟨p, stdout, stderr, -, hlog⟩ := exitLog_eq m config r w as id
    rw [StepEvent.countP_tellsEnd, seenToEnd_iff, hlog, List.length_map, Option.length_toList, Option.isSome_map]
    exact ⟨fun h => by rw [if_pos h]; exact ⟨rfl, rfl⟩, fun h => by rw [if_neg h]; exact ⟨rfl, rfl⟩⟩
  · obtain ⟨x, hx, heq⟩ := List.mem_map.1 hevent
    obtain ⟨before, answers, after, rfl, hseen⟩ := exists_of_mem_exitLog hx
    obtain ⟨htask, hterminal⟩ := Supervisor.task?_of_mem_askAll hseen
    cases heq
    exact ⟨before, answers, after, rfl, act_scan m _ answers, List.mem_map_of_mem hseen, x.2.snapshot x.1,
      congrArg (Option.map _) htask, rfl, rfl, hterminal⟩
  · intro bs a snap htold hid
    obtain ⟨x, hx, heq⟩ := List.mem_map.1 hevent
    obtain ⟨t, ht, hsnap⟩ := told?_eq_some htold
    cases heq
    rw [hid] at ht
    rw [hsnap]
    exact later_of_mem_exitLog hx bs ht

/-- Two scans are told of the end of a task, differently, while another one runs. -/
theorem exits_reported_once_told_twice :
    let bus : EventBus StepEvent := EventBus.run { capacity := 2 } [.subscribe]
    let as : List (Act Unit) := [.startTask ["sh"] "/" .capture .capture, .startTask ["true"] "/" .discard .discard,
      .scan [(.issued 0, .exited 256), (.issued 1, .alive)], .scan [(.issued 0, .exited 0)]]
    let T := (new {} { bus } ()).run .obliging as
    T.reporter.bus.map (fun bus => (bus.receiveAll 0).1) = some [.taskExited (.issued 0) .failed (some 1)] ∧
      T.reporter.exitCount "Failed" = 1 ∧ T.reporter.exitCount "Completed" = 0 ∧
      ∀ bs a snap, (T.run .obliging bs).told? a = some snap → snap.task = .issued 0 →
        snap.status = .failed ∧ snap.returnCode = some 1 := by
  intro bus as T
  obtain ⟨-, hbus, hcount, -, hevents⟩ := exits_reported_once .obliging {} { bus } () as
  have hexits : (new {} { bus } ()).exitLog .obliging as =
      [(.issued 0, (Task.new 0 .capture .capture).exit 256)] := rfl
  rw [hexits] at hbus hcount hevents
  refine ⟨?_, (hcount "Failed").trans (by decide +kernel), (hcount "Completed").trans (by decide +kernel), ?_⟩
  · rw [hbus]
    decide +kernel
  · intro bs a snap htold hid
    refine (hevents (.issued 0) .failed (some 1) (List.mem_singleton.2 rfl)).2 bs a snap ?_ hid
    rwa [run_append]

end Supervision

end JobLaunch
