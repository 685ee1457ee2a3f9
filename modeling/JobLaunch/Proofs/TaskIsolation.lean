import JobLaunch.Proofs.ExitReports

/-!
# Tasks keep to themselves

A run of a supervisor is laid beside the run that is left of it when everything about all tasks but one is struck out:
their starts, the answers to questions after them, their output, and the calls about them.

* `Sight` : what can be seen of a task; `Supervision.sights` : what is seen of it in a run, in order;
* `Supervision.alone` : what is left of a run for one task; `TaskId.first` : the identifier that it has there;
* `Supervision.Beside` : the two runs agree on the task; `Supervision.Beside.act`, `Supervision.Beside.sight` : one act
  keeps them so, and both show the same;
* `Supervision.tasks_keep_to_themselves` : the two runs cannot be told apart by what is seen of the task.
-/

namespace JobLaunch

/-- The first identifier that a supervisor hands out. -/
def TaskId.first : TaskId := issued 0

/-! ## What is seen of a task -/

/-- What can be seen of a task. -/
inductive Sight where
  | answer (snapshot : Option TaskSnapshot)
  | event (e : StepEvent)
  deriving DecidableEq, Inhabited

/-- The same of a task with another identifier. -/
def StepEvent.under (id : TaskId) : StepEvent → StepEvent
  | taskExited _ status code => taskExited id status code
  | launched name backend identifier => launched name backend identifier
  | cancelled name managed => cancelled name managed

/-- The same of a task with another identifier. -/
def Sight.under (id : TaskId) : Sight → Sight
  | answer snapshot => answer (snapshot.map fun s => { s with task := id })
  | event e => event (e.under id)

def Sight.event? : Sight → Option StepEvent
  | event e => some e
  | answer _ => none

theorem Sight.event?_under (id : TaskId) (x : Sight) : (x.under id).event? = x.event?.map (·.under id) := by
  cases x <;> rfl

/-- Does a caller ask what can be seen of a task, or remove it? -/
def Act.asks {μ : Type} (id : TaskId) : Act μ → Bool
  | .look k | .remove k => k = id
  | .startTask .. | .scan _ | .drain .. | .startLoop | .endLoop _ | .beginShutdown | .finishShutdown
  | .elsewhere _ => false

/-- The answers of a scan about one task, as those of a supervisor that has no other. -/
def Liveness.about (id : TaskId) (answers : List (TaskId × Liveness)) : List (TaskId × Liveness) :=
  (answers.filter (·.1 = id)).map fun a => (.first, a.2)

theorem Liveness.news_about (id : TaskId) (answers : List (TaskId × Liveness)) :
    (Liveness.about id answers).filterMap (News.ofAnswer? .first) = answers.filterMap (News.ofAnswer? id) := by
  induction answers with
  | nil => rfl
  | cons a rest ih =>
    obtain ⟨k, answer⟩ := a
    rw [Supervisor.filterMap_ofAnswer?_cons, ← ih]
    unfold about
    by_cases hk : k = id
    · subst hk
      rw [List.filter_cons_of_pos (by simp), List.map_cons, Supervisor.filterMap_ofAnswer?_cons,
        News.ofAnswer?_self, News.ofAnswer?_self]
    · rw [List.filter_cons_of_neg (by simpa using hk), News.ofAnswer?_of_ne hk]
      rfl

namespace Supervisor

/-- A start hands out the next identifier and tracks a task whatever else is tracked, or it fails without a trace. -/
theorem startTask_outcome {μ : Type} (m : Machine μ) (s : Supervisor) (words : List String) (cwd : String)
    (stdout stderr : Sink) (w : μ) :
    (∃ p, (startTask m s words cwd stdout stderr w).1.toOption = some (.issued s.issued) ∧
      ∀ s', (startTask m s' words cwd stdout stderr w).2.1 = (s'.track (Task.new p stdout stderr)).2) ∨
    (startTask m s words cwd stdout stderr w).1.toOption = none ∧
      (startTask m s words cwd stdout stderr w).2.1 = s := by
  unfold startTask
  rcases spawn m words cwd stdout stderr w with ⟨e | p, w'⟩
  · exact .inr ⟨rfl, rfl⟩
  · exact .inl ⟨p, rfl, fun s' => rfl⟩

end Supervisor

namespace Supervision

variable {μ : Type} {m : Machine μ} {S S' : Supervision μ} {id : TaskId}

def sight (id : TaskId) (S : Supervision μ) (a : Act μ) : List Sight :=
  (if a.asks id then [.answer (S.told? a)] else []) ++
    (((S.exits a).map StepEvent.ofExit).filter (·.tellsEnd id)).map .event

/-- What is seen of a task in a run, in order. -/
def sights (m : Machine μ) (id : TaskId) (S : Supervision μ) (as : List (Act μ)) : List Sight :=
  S.collect m (sight id) as

theorem filterMap_event?_sights (m : Machine μ) (id : TaskId) (S : Supervision μ) (as : List (Act μ)) :
    (S.sights m id as).filterMap Sight.event? = ((S.exitLog m as).map StepEvent.ofExit).filter (·.tellsEnd id) := by
  have hone : ∀ (T : Supervision μ) (a : Act μ),
      (T.sight id a).filterMap Sight.event? = ((T.exits a).map StepEvent.ofExit).filter (·.tellsEnd id) := by
    intro T a
    unfold sight
    rw [List.filterMap_append, List.filterMap_map]
    have hanswer : (if a.asks id then [Sight.answer (T.told? a)] else []).filterMap Sight.event? = [] := by
      split <;> rfl
    rw [hanswer]
    exact List.filterMap_some
  induction as generalizing S with
  | nil => rfl
  | cons a as ih =>
    show (S.sight id a ++ (S.act m a).sights m id as).filterMap _ =
      ((S.exits a ++ (S.act m a).exitLog m as).map _).filter _
    rw [List.filterMap_append, hone, ih, List.map_append, List.filter_append]

theorem told?_of_asks {a : Act μ} (h : a.asks id = true) : S.told? a = (S.task? id).map (·.snapshot id) := by
  cases a with
  | look k =>
    obtain rfl : k = id := of_decide_eq_true h
    rfl
  | remove k =>
    obtain rfl : k = id := of_decide_eq_true h
    show (S.supervisor.removeTask k).1 = (S.supervisor.task? k).map _
    unfold Supervisor.removeTask
    cases S.supervisor.task? k <;> rfl
  | startTask | scan | drain | startLoop | endLoop | beginShutdown | finishShutdown | elsewhere => cases h

/-- **What an act shows of a task** depends on the task, and on what the act asks and tells of it. -/
theorem sight_eq (id : TaskId) (S : Supervision μ) (a : Act μ) :
    S.sight id a = (if a.asks id then [.answer ((S.task? id).map (·.snapshot id))] else []) ++
      ((S.task? id).toList.flatMap (·.reports (a.news id))).map fun t =>
        .event (.taskExited id t.status t.returnCode) := by
  have hexits : ((S.exits a).map StepEvent.ofExit).filter (·.tellsEnd id) =
      ((S.exits a).filter (·.1 = id)).map StepEvent.ofExit := by
    rw [List.filter_map]
    rfl
  unfold sight
  rw [hexits, filter_exits, List.map_map, List.map_map]
  congr 1
  split
  · next h => rw [told?_of_asks h]
  · rfl

/-! ## One task alone -/

/-- What is left of an act for one task. Its start meets the machine as the whole run has left it. -/
def kept (m : Machine μ) (id : TaskId) (S : Supervision μ) : Act μ → List (Act μ)
  | .startTask words cwd stdout stderr =>
    if (Supervisor.startTask m S.supervisor words cwd stdout stderr S.world).1.toOption = some id then
      [.elsewhere S.world, .startTask words cwd stdout stderr]
    else []
  | .scan answers => [.scan (Liveness.about id answers)]
  | .drain k out err => if k = id then [.drain .first out err] else []
  | .look k => if k = id then [.look .first] else []
  | .remove k => if k = id then [.remove .first] else []
  | .startLoop => [.startLoop]
  | .endLoop i => [.endLoop i]
  | .beginShutdown => [.beginShutdown]
  | .finishShutdown => [.finishShutdown]
  | .elsewhere world => [.elsewhere world]

/-- **What is left of a run for one task.** -/
def alone (m : Machine μ) (id : TaskId) (S : Supervision μ) (as : List (Act μ)) : List (Act μ) :=
  S.collect m (kept m id) as

/-- A run with all tasks, and one that has only one of them. -/
structure Beside (S S' : Supervision μ) (id : TaskId) : Prop where
  task : S'.task? .first = S.task? id
  others : ∀ k, k ≠ .first → S'.task? k = none
  /-- The one task has been started, or the second run has started none. -/
  fresh : S.supervisor.Issued id ∨ S'.supervisor.issued = 0

theorem beside_new (config : SupervisorConfig) (r : Reporter) (w : μ) (id : TaskId) :
    Beside (new config r w) (new config r w) id := ⟨rfl, fun _ _ => rfl, .inr rfl⟩

theorem Beside.left (h : Beside S S' id) (a : Act μ) (same : (S.act m a).task? id = S.task? id) :
    Beside (S.act m a) S' id :=
  ⟨h.task.trans same.symm, h.others, h.fresh.imp_left (issued_of_issued m a)⟩

theorem Beside.both (h : Beside S S' id) {a b : Act μ} (issued : (S'.act m b).supervisor.issued = S'.supervisor.issued)
    (others : ∀ k, k ≠ .first → (S'.act m b).task? k = none)
    (same : (S'.act m b).task? .first = (S.act m a).task? id) : Beside (S.act m a) (S'.act m b) id :=
  ⟨same, others, h.fresh.imp (issued_of_issued m a) issued.trans⟩

theorem Beside.start (h : Beside S S' id) (words : List String) (cwd : String) (stdout stderr : Sink) :
    let a : Act μ := .startTask words cwd stdout stderr
    Beside (S.act m a) (S'.run m (S.kept m id a)) id := by
  intro a
  show Beside (S.act m a) (S'.run m
    (if (Supervisor.startTask m S.supervisor words cwd stdout stderr S.world).1.toOption = some id then
      [.elsewhere S.world, a] else [])) id
  rcases Supervisor.startTask_outcome m S.supervisor words cwd stdout stderr S.world with
    ⟨p, hok, hnext⟩ | ⟨herror, hsame⟩
  · have htask : (S.act m a).task? id =
        (S.task? id).or (if id = .issued S.supervisor.issued then some (Task.new p stdout stderr) else none) :=
      (congrArg (Supervisor.task? · id) (hnext S.supervisor)).trans (Supervisor.task?_track S.supervisor _ id)
    rw [hok]
    by_cases hid : id = .issued S.supervisor.issued
    · rw [if_pos (congrArg some hid.symm)]
      rw [if_pos hid] at htask
      have hnew : S'.supervisor.issued = 0 := h.fresh.resolve_left fun used => not_issued_new S (hid ▸ used)
      have halone : ∀ k, (S'.run m [.elsewhere S.world, a]).task? k =
          (S'.task? k).or (if k = .first then some (Task.new p stdout stderr) else none) := by
        intro k
        rw [show TaskId.first = .issued S'.supervisor.issued from congrArg _ hnew.symm]
        exact (congrArg (Supervisor.task? · k) (hnext S'.supervisor)).trans (Supervisor.task?_track S'.supervisor _ k)
      have hissued : (S.act m a).supervisor.issued = S.supervisor.issued + 1 :=
        congrArg (·.issued) (hnext S.supervisor)
      refine ⟨?_, fun k hk => ?_, .inl ⟨S.supervisor.issued, ?_, hid⟩⟩
      · rw [halone, if_pos rfl, h.task, htask]
      · rw [halone, if_neg hk, h.others k hk]
        rfl
      · rw [hissued]
        exact Nat.lt_succ_self _
    · rw [if_neg fun heq => hid (Option.some.inj heq).symm]
      refine h.left a ?_
      rw [htask, if_neg hid, Option.or_none]
  · rw [herror, if_neg nofun]
    exact h.left a (congrArg (Supervisor.task? · id) hsame)

/-- **One act keeps the runs beside each other.** -/
theorem Beside.act (h : Beside S S' id) (a : Act μ) : Beside (S.act m a) (S'.run m (S.kept m id a)) id := by
  have hsame : ∀ b : Act μ, (S'.act m b).supervisor.issued = S'.supervisor.issued →
      (∀ k, (S'.act m b).task? k = S'.task? k) → (S.act m a).task? id = S.task? id →
      Beside (S.act m a) (S'.act m b) id := by
    intro b hissued hS' hS
    refine h.both hissued (fun k hk => (hS' k).trans (h.others k hk)) ?_
    rw [hS', hS, h.task]
  cases a with
  | startTask words cwd stdout stderr => exact h.start words cwd stdout stderr
  | scan answers =>
    have hnext : ∀ (T : Supervision μ) bs k, (T.act m (.scan bs)).task? k =
        (T.task? k).map (·.hearAll (bs.filterMap (News.ofAnswer? k))) :=
      fun T bs k => Supervisor.task?_askAll T.supervisor bs k
    refine h.both (b := .scan (Liveness.about id answers)) (Supervisor.issued_askAll _ _) (fun k hk => ?_) ?_
    · rw [hnext, h.others k hk]
      rfl
    · rw [hnext, hnext, h.task, Liveness.news_about]
  | drain k out err =>
    have hnext : ∀ (T : Supervision μ) j i, (T.act m (.drain j out err)).task? i =
        if i = j then (T.task? i).map (·.drained out err) else T.task? i :=
      fun T j i => Supervisor.task?_modifyTask T.supervisor j i _
    show Beside _ (S'.run m (if k = id then [.drain .first out err] else [])) id
    by_cases hk : k = id
    · rw [if_pos hk]
      refine h.both (b := .drain .first out err) rfl (fun i hi => ?_) ?_
      · rw [hnext, if_neg hi, h.others i hi]
      · rw [hnext, hnext, if_pos rfl, if_pos hk.symm, h.task]
    · rw [if_neg hk]
      refine h.left _ ?_
      rw [hnext, if_neg (Ne.symm hk)]
  | look k =>
    show Beside _ (S'.run m (if k = id then [.look .first] else [])) id
    split
    · exact hsame (.look .first) rfl (fun _ => rfl) rfl
    · exact h.left (.look k) rfl
  | remove k =>
    have hnext : ∀ (T : Supervision μ) j i, (T.act m (.remove j)).task? i = if i = j then none else T.task? i :=
      fun T j i => Supervisor.task?_removeTask T.supervisor j i
    show Beside _ (S'.run m (if k = id then [.remove .first] else [])) id
    by_cases hk : k = id
    · rw [if_pos hk]
      refine h.both (b := .remove .first) (Supervisor.issued_removeTask _ _) (fun i hi => ?_) ?_
      · rw [hnext, if_neg hi, h.others i hi]
      · rw [hnext, hnext, if_pos rfl, if_pos hk.symm]
    · rw [if_neg hk]
      refine h.left _ ?_
      rw [hnext, if_neg (Ne.symm hk)]
  | startLoop =>
    exact hsame .startLoop (Supervisor.issued_start _) (fun k => Supervisor.task?_congr (Supervisor.tasks_start _) k)
      (Supervisor.task?_congr (Supervisor.tasks_start _) id)
  | endLoop i => exact hsame (.endLoop i) rfl (fun _ => rfl) rfl
  | beginShutdown =>
    exact hsame .beginShutdown (Supervisor.issued_beginShutdown _)
      (fun k => Supervisor.task?_congr (Supervisor.tasks_beginShutdown _) k)
      (Supervisor.task?_congr (Supervisor.tasks_beginShutdown _) id)
  | finishShutdown => exact h.both (b := .finishShutdown) rfl (fun _ _ => rfl) rfl
  | elsewhere world => exact hsame (.elsewhere world) rfl (fun _ => rfl) rfl

theorem sight_eq_nil {a : Act μ} (asks : a.asks id = false) (news : a.news id = []) : S.sight id a = [] := by
  rw [sight_eq, asks, news]
  cases S.task? id <;> rfl

theorem Beside.sight_of_same (h : Beside S S' id) {a b : Act μ} (asks : b.asks .first = a.asks id)
    (news : b.news .first = a.news id) : S.sight id a = (S'.sight .first b).map (·.under id) := by
  rw [sight_eq, sight_eq, asks, news, h.task, List.map_append, List.map_map]
  congr 1
  cases a.asks id with
  | true => cases S.task? id <;> rfl
  | false => rfl

/-- **Both runs show the same of the task**, act by act. -/
theorem Beside.sight (h : Beside S S' id) (a : Act μ) :
    S.sight id a = (S'.sights m .first (S.kept m id a)).map (·.under id) := by
  -- An act is struck out if it says nothing of the task, and else it says the same under the other identifier.
  have hgone : a.asks id = false → a.news id = [] → S.sight id a = (S'.sights m .first []).map (·.under id) :=
    fun asks news => sight_eq_nil asks news
  have hkept : ∀ b : Act μ, b.asks .first = a.asks id → b.news .first = a.news id →
      S.sight id a = (S'.sights m .first [b]).map (·.under id) := by
    intro b asks news
    rw [show S'.sights m .first [b] = S'.sight .first b from List.append_nil _]
    exact h.sight_of_same asks news
  cases a with
  | startTask words cwd stdout stderr =>
    rw [sight_eq_nil rfl rfl]
    show [] = List.map _ (S'.sights m .first
      (if (Supervisor.startTask m S.supervisor words cwd stdout stderr S.world).1.toOption = some id then
        [.elsewhere S.world, .startTask words cwd stdout stderr] else []))
    split <;> rfl
  | scan answers => exact hkept _ rfl (Liveness.news_about id answers)
  | drain k out err =>
    show _ = List.map _ (S'.sights m .first (if k = id then [.drain .first out err] else []))
    by_cases hk : k = id
    · rw [if_pos hk]
      exact hkept _ rfl (by simp [Act.news, hk])
    · rw [if_neg hk]
      exact hgone rfl (if_neg hk)
  | look k =>
    show _ = List.map _ (S'.sights m .first (if k = id then [.look .first] else []))
    by_cases hk : k = id
    · rw [if_pos hk]
      exact hkept _ (by simp [Act.asks, hk]) rfl
    · rw [if_neg hk]
      exact hgone (decide_eq_false hk) rfl
  | remove k =>
    show _ = List.map _ (S'.sights m .first (if k = id then [.remove .first] else []))
    by_cases hk : k = id
    · rw [if_pos hk]
      exact hkept _ (by simp [Act.asks, hk]) rfl
    · rw [if_neg hk]
      exact hgone (decide_eq_false hk) rfl
  | startLoop => exact hkept .startLoop rfl rfl
  | endLoop i => exact hkept (.endLoop i) rfl rfl
  | beginShutdown => exact hkept .beginShutdown rfl rfl
  | finishShutdown => exact hkept .finishShutdown rfl rfl
  | elsewhere world => exact hkept (.elsewhere world) rfl rfl

/-! ## Runs -/

/-- **Two runs that stand beside each other stay so, and they show the same of the task.** -/
theorem Beside.run (h : Beside S S' id) (as : List (Act μ)) :
    Beside (S.run m as) (S'.run m (S.alone m id as)) id ∧
      S.sights m id as = (S'.sights m .first (S.alone m id as)).map (·.under id) := by
  induction as generalizing S S' with
  | nil => exact ⟨h, rfl⟩
  | cons a as ih =>
    obtain ⟨hrun, hsights⟩ := ih (h.act (m := m) a)
    have halone : S.alone m id (a :: as) = S.kept m id a ++ (S.act m a).alone m id as := rfl
    rw [halone, run_append]
    refine ⟨hrun, ?_⟩
    show S.sight id a ++ (S.act m a).sights m id as = _
    rw [h.sight (m := m) a, hsights, ← List.map_append]
    exact congrArg _ (collect_append m _ S' _ _).symm

theorem sights_eq_of_alone (config : SupervisorConfig) (r : Reporter) (w : μ) {as bs : List (Act μ)}
    (same : (new config r w).alone m id as = (new config r w).alone m id bs) :
    (new config r w).sights m id as = (new config r w).sights m id bs := by
  rw [((beside_new config r w id).run as).2, same, ← ((beside_new config r w id).run bs).2]

/-- **Tasks keep to themselves.** If everything about all tasks but one is struck out of a run (their starts, the
answers of scans about them, the reading of their output, all calls about them), then every answer to a call about the
one task and every published event of its end are what they were, in the order in which they were; the task is the same,
and no other is tracked. -/
theorem tasks_keep_to_themselves (m : Machine μ) (config : SupervisorConfig) (r : Reporter) (w : μ)
    (as : List (Act μ)) (id : TaskId) :
    let S := new config r w
    let bs := S.alone m id as
    let published := (S.exitLog m as).map StepEvent.ofExit
    let publishedAlone := (S.exitLog m bs).map StepEvent.ofExit
    S.sights m id as = (S.sights m .first bs).map (·.under id) ∧
      (S.run m as).reporter.bus = r.bus.map (·.emitAll published) ∧
      (S.run m bs).reporter.bus = r.bus.map (·.emitAll publishedAlone) ∧
      published.filter (·.tellsEnd id) = (publishedAlone.filter (·.tellsEnd .first)).map (·.under id) ∧
      (S.run m as).task? id = (S.run m bs).task? .first ∧
      ∀ k, k ≠ .first → (S.run m bs).task? k = none := by
  intro S bs published publishedAlone
  obtain ⟨hrun, hsights⟩ := (beside_new config r w id).run (m := m) as
  have hbus : ∀ cs, (S.run m cs).reporter.bus = r.bus.map (·.emitAll ((S.exitLog m cs).map StepEvent.ofExit)) :=
    fun cs => by rw [reporter_run, Reporter.bus_tasksExited]; rfl
  refine ⟨hsights, hbus as, hbus bs, ?_, hrun.task.symm, hrun.others⟩
  rw [← filterMap_event?_sights, ← filterMap_event?_sights, hsights, List.filterMap_map, List.map_filterMap]
  congr 1
  funext x
  exact Sight.event?_under id x

/-- The second of two tasks ends and is looked at, while the first one ends, is read and is removed. -/
theorem tasks_keep_to_themselves_second :
    let as : List (Act Unit) := [.startTask ["sh"] "/" .capture .capture, .startTask ["true"] "/" .discard .discard,
      .scan [(.issued 0, .exited 256), (.issued 1, .exited 0)], .drain (.issued 0) [104] [], .look (.issued 1),
      .remove (.issued 0)]
    let alone : List (Act Unit) := [.elsewhere (), .startTask ["true"] "/" .discard .discard, .scan [(.first, .exited 0)],
      .look .first]
    let S := new {} {} ()
    S.sights .obliging (.issued 1) as = (S.sights .obliging .first alone).map (·.under (.issued 1)) ∧
      (S.sights .obliging (.issued 1) as).length = 2 ∧
      (S.run .obliging as).task? (.issued 1) = (S.run .obliging alone).task? .first ∧
      (S.run .obliging as).task? (.issued 1) = some ((Task.new 0 .discard .discard).exit 0) := by
  intro as alone S
  obtain ⟨hsights, -, -, -, htask, -⟩ := tasks_keep_to_themselves .obliging {} {} () as (.issued 1)
  have halone : S.alone .obliging (.issued 1) as = alone := rfl
  rw [halone] at hsights htask
  exact ⟨hsights, by decide +kernel, htask, rfl⟩

end Supervision

end JobLaunch
