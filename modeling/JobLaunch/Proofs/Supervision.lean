import JobLaunch.Proofs.Monitoring

/-!
# A supervisor at work

Tasks are started, watched, looked at and removed in any order, and the supervisor may be shut down and started again.

* `News` : what is told of one task; `Task.hear` : the task after it;
* `Supervisor.task?_askAll`, `Supervisor.filter_askAll` : what a scan makes of one task, and what it reports of it;
* `Supervision` : a supervisor with its reporter and its machine; `Act` : one thing that happens to it;
* `Supervision.collect` : what acts give one after the other; `Supervision.exitLog`, `Supervision.history` : the ends that
  are reported, and all that is told of a task while it is tracked;
* `Supervision.Turn`, `Supervision.turn` : all that an act can do to one task;
* `Supervision.run_of_tracked`, `Supervision.run_of_untracked` : a task is what its history makes of it, and so are the
  reports of its end.
-/

namespace JobLaunch

/-! ## News of one task -/

/-- What is told of one task. -/
inductive News where
  /-- A scan is told that its process has ended, with a raw wait status. -/
  | ended (raw : Int)
  /-- The captured output of its process has been read to the end. -/
  | read (out err : List UInt8)
  deriving DecidableEq, Inhabited

/-- The raw wait status of a process that has ended. -/
def Liveness.raw? : Liveness → Option Int
  | .exited raw => some raw
  | .alive | .unclear => none

namespace News

def ofAnswer? (k : TaskId) (a : TaskId × Liveness) : Option News :=
  if a.1 = k then a.2.raw?.map ended else none

/-- The raw wait status that is told. -/
def raw? : News → Option Int
  | ended raw => some raw
  | read _ _ => none

/-- The first raw wait status that is told. -/
def ending? (ns : List News) : Option Int := ns.findSome? raw?

theorem ofAnswer?_of_ne {k id : TaskId} (h : id ≠ k) (answer : Liveness) : ofAnswer? k (id, answer) = none := if_neg h

theorem ofAnswer?_self (k : TaskId) (answer : Liveness) : ofAnswer? k (k, answer) = answer.raw?.map ended := if_pos rfl

end News

namespace Task

variable {t : Task}

def hear (t : Task) : News → Task
  | .ended raw => if t.exited then t else t.exit raw
  | .read out err => t.drained out err

def hearAll (t : Task) (ns : List News) : Task := ns.foldl hear t

def report? (t : Task) : News → Option Task
  | .ended raw => if t.exited then none else some (t.exit raw)
  | .read _ _ => none

/-- What is reported of a task while it hears news. -/
def reports (t : Task) : List News → List Task
  | [] => []
  | n :: ns => (t.report? n).toList ++ (t.hear n).reports ns

theorem hearAll_append (t : Task) (ms ns : List News) : t.hearAll (ms ++ ns) = (t.hearAll ms).hearAll ns :=
  List.foldl_append

theorem hear_ended_of_exited (h : t.exited = true) (raw : Int) : t.hear (.ended raw) = t := if_pos h

theorem hear_ended_of_running (h : t.exited = false) (raw : Int) : t.hear (.ended raw) = t.exit raw := by
  show (if t.exited = true then t else t.exit raw) = _
  rw [h, if_neg Bool.false_ne_true]

theorem report?_ended_of_exited (h : t.exited = true) (raw : Int) : t.report? (.ended raw) = none := if_pos h

theorem report?_ended_of_running (h : t.exited = false) (raw : Int) :
    t.report? (.ended raw) = some (t.exit raw) := by
  show (if t.exited = true then none else some (t.exit raw)) = _
  rw [h, if_neg Bool.false_ne_true]

theorem reports_append (t : Task) (ms ns : List News) :
    t.reports (ms ++ ns) = t.reports ms ++ (t.hearAll ms).reports ns := by
  induction ms generalizing t with
  | nil => rfl
  | cons n ms ih =>
    show (t.report? n).toList ++ (t.hear n).reports (ms ++ ns) = _
    rw [ih, ← List.append_assoc]
    rfl

end Task

/-! ## Scans -/

namespace Supervisor

theorem task?_modifyTask (s : Supervisor) (id k : TaskId) (f : Task → Task) :
    (s.modifyTask id f).task? k = if k = id then (s.task? k).map f else s.task? k := by
  unfold task? modifyTask
  dsimp only
  induction s.tasks with
  | nil => simp
  | cons e es ih =>
    obtain ⟨i, t⟩ := e
    by_cases hi : i = id
    · by_cases hk : k = id
      · simp [hi, hk]
      · simpa [hi, hk, Ne.symm hk] using ih
    · by_cases hk : i = k
      · have hne : ¬ k = id := fun h => hi (hk.trans h)
        simp [hk, hne]
      · simpa [hi, hk] using ih

theorem task?_removeTask (s : Supervisor) (id k : TaskId) :
    (s.removeTask id).2.2.task? k = if k = id then none else s.task? k := by
  unfold removeTask
  cases hid : s.task? id with
  | none =>
    by_cases hk : k = id
    · rw [if_pos hk, hk]
      exact hid
    · rw [if_neg hk]
  | some t =>
    show ((s.tasks.filter (·.1 ≠ id)).find? (·.1 = k)).map (·.2) = _
    simp only [List.find?_filter, decide_eq_true_eq]
    by_cases hk : k = id
    · have hnone : s.tasks.find? (fun e => e.1 ≠ id ∧ e.1 = k) = none := by
        rw [List.find?_eq_none]
        simp [hk]
      rw [if_pos hk, hnone]
      rfl
    · have hsame : (fun e : TaskId × Task => decide (e.1 ≠ id ∧ e.1 = k)) = fun e => decide (e.1 = k) := by
        funext e
        by_cases he : e.1 = k
        · simp [he, hk]
        · simp [he]
      rw [if_neg hk, hsame]
      rfl

theorem task?_track (s : Supervisor) (t : Task) (k : TaskId) :
    (s.track t).2.task? k = (s.task? k).or (if k = .issued s.issued then some t else none) := by
  unfold track adopt task?
  rw [List.find?_append]
  cases s.tasks.find? (·.1 = k) with
  | some e => rfl
  | none =>
    by_cases hk : k = .issued s.issued
    · simp [hk]
    · simp [hk, Ne.symm hk]

theorem startTask_cases {μ : Type} (m : Machine μ) (s : Supervisor) (words : List String) (cwd : String)
    (stdout stderr : Sink) (w : μ) : (startTask m s words cwd stdout stderr w).2.1 = s ∨
      ∃ p, (startTask m s words cwd stdout stderr w).2.1 = (s.track (Task.new p stdout stderr)).2 := by
  unfold startTask
  rcases spawn m words cwd stdout stderr w with ⟨e | p, w'⟩
  · exact Or.inl rfl
  · exact Or.inr ⟨p, rfl⟩

theorem tasks_beginShutdown (s : Supervisor) : s.beginShutdown.2.tasks = s.tasks := by
  unfold beginShutdown
  split <;> rfl

theorem issued_beginShutdown (s : Supervisor) : s.beginShutdown.2.issued = s.issued := by
  unfold beginShutdown
  split <;> rfl

theorem issued_removeTask (s : Supervisor) (id : TaskId) : (s.removeTask id).2.2.issued = s.issued := by
  unfold removeTask
  split <;> rfl

theorem issued_askAll (s : Supervisor) (answers : List (TaskId × Liveness)) :
    (s.askAll answers).1.issued = s.issued := by
  induction answers generalizing s with
  | nil => rfl
  | cons a rest ih =>
    refine (ih (s.ask a.1 a.2).1).trans ?_
    unfold ask
    split
    · split <;> rfl
    · rfl

theorem task?_ask (s : Supervisor) (id : TaskId) (answer : Liveness) (k : TaskId) :
    (s.ask id answer).1.task? k = (s.task? k).map (·.hearAll (News.ofAnswer? k (id, answer)).toList) := by
  by_cases hk : id = k
  · subst hk
    rw [News.ofAnswer?_self]
    unfold ask
    cases hid : s.task? id with
    | none => exact hid
    | some t =>
      cases answer with
      | alive => exact hid
      | unclear => exact hid
      | exited raw =>
        show Supervisor.task? (Prod.fst (if t.exited = true then _ else _)) id = some (t.hear (.ended raw))
        cases hexited : t.exited with
        | true =>
          rw [if_pos rfl, hid, Task.hear_ended_of_exited hexited]
        | false =>
          rw [if_neg Bool.false_ne_true, task?_modifyTask, if_pos rfl, hid, Task.hear_ended_of_running hexited]
          rfl
  · rw [News.ofAnswer?_of_ne hk]
    have hsame : (s.ask id answer).1.task? k = s.task? k := by
      unfold ask
      split
      · split
        · rfl
        · rw [task?_modifyTask, if_neg (Ne.symm hk)]
      · rfl
    rw [hsame]
    exact Option.map_id'.symm

theorem filterMap_ofAnswer?_cons (k : TaskId) (a : TaskId × Liveness) (rest : List (TaskId × Liveness)) :
    (a :: rest).filterMap (News.ofAnswer? k) = (News.ofAnswer? k a).toList ++ rest.filterMap (News.ofAnswer? k) := by
  cases h : News.ofAnswer? k a with
  | none => exact List.filterMap_cons_none h
  | some n => exact List.filterMap_cons_some h

theorem task?_askAll (s : Supervisor) (answers : List (TaskId × Liveness)) (k : TaskId) :
    (s.askAll answers).1.task? k = (s.task? k).map (·.hearAll (answers.filterMap (News.ofAnswer? k))) := by
  induction answers generalizing s with
  | nil => exact Option.map_id'.symm
  | cons a rest ih =>
    show ((s.ask a.1 a.2).1.askAll rest).1.task? k = _
    rw [ih, task?_ask, Option.map_map, filterMap_ofAnswer?_cons]
    congr 1
    funext t
    exact (t.hearAll_append _ _).symm

theorem filter_ask (s : Supervisor) (id : TaskId) (answer : Liveness) (k : TaskId) :
    (s.ask id answer).2.toList.filter (·.1 = k) =
      ((s.task? k).toList.flatMap (·.reports (News.ofAnswer? k (id, answer)).toList)).map (k, ·) := by
  by_cases hk : id = k
  · subst hk
    rw [News.ofAnswer?_self]
    unfold ask
    cases hid : s.task? id with
    | none => rfl
    | some t =>
      cases answer with
      | alive => rfl
      | unclear => rfl
      | exited raw =>
        show List.filter _ (Option.toList (Prod.snd (if t.exited = true then _ else _))) =
          (((t.report? (.ended raw)).toList ++ []) ++ []).map (id, ·)
        cases hexited : t.exited with
        | true =>
          rw [if_pos rfl, Task.report?_ended_of_exited hexited]
          rfl
        | false =>
          rw [if_neg Bool.false_ne_true, Task.report?_ended_of_running hexited]
          exact List.filter_cons_of_pos (decide_eq_true rfl)
  · rw [News.ofAnswer?_of_ne hk]
    have hnone : ((s.task? k).toList.flatMap fun t => t.reports []) = [] := List.flatMap_eq_nil_iff.2 fun _ _ => rfl
    have hother : (s.ask id answer).2.toList.filter (·.1 = k) = [] := by
      refine List.filter_eq_nil_iff.2 fun e he => ?_
      unfold ask at he
      split at he
      · split at he
        · cases he
        · rw [List.mem_singleton.1 he]
          simpa using hk
      · cases he
    rw [hother]
    exact (congrArg (List.map (k, ·)) hnone).symm

/-- **What a scan reports of a task**: that it has ended, if that is new. -/
theorem filter_askAll (s : Supervisor) (answers : List (TaskId × Liveness)) (k : TaskId) :
    (s.askAll answers).2.filter (·.1 = k) =
      ((s.task? k).toList.flatMap (·.reports (answers.filterMap (News.ofAnswer? k)))).map (k, ·) := by
  induction answers generalizing s with
  | nil => cases s.task? k <;> rfl
  | cons a rest ih =>
    show ((s.ask a.1 a.2).2.toList ++ ((s.ask a.1 a.2).1.askAll rest).2).filter (·.1 = k) = _
    rw [List.filter_append, filter_ask, ih, task?_ask, filterMap_ofAnswer?_cons]
    cases s.task? k with
    | none => rfl
    | some t => simp [Task.reports_append]

end Supervisor

/-! ## Acts -/

/-- A supervisor with its reporter, on a machine. -/
structure Supervision (μ : Type) where
  supervisor : Supervisor
  reporter : Reporter := {}
  world : μ

/-- One thing that happens to a supervisor. -/
inductive Act (μ : Type) where
  | startTask (words : List String) (cwd : String) (stdout stderr : Sink)
  /-- A monitoring loop asks after tasks. -/
  | scan (answers : List (TaskId × Liveness))
  /-- The captured output of a task has been read to its end. -/
  | drain (task : TaskId) (out err : List UInt8)
  /-- A caller asks what can be seen of a task. -/
  | look (task : TaskId)
  | remove (task : TaskId)
  | startLoop
  | endLoop (loop : Nat)
  | beginShutdown
  | finishShutdown
  /-- The machine changes by itself. -/
  | elsewhere (world : μ)

/-- What an act tells of a task. -/
def Act.news {μ : Type} (k : TaskId) : Act μ → List News
  | .scan answers => answers.filterMap (News.ofAnswer? k)
  | .drain id out err => if id = k then [.read out err] else []
  | .startTask .. | .look _ | .remove _ | .startLoop | .endLoop _ | .beginShutdown | .finishShutdown
  | .elsewhere _ => []

def Supervisor.Issued (s : Supervisor) (id : TaskId) : Prop := ∃ k < s.issued, id = .issued k

namespace Supervision

variable {μ : Type}

def new (config : SupervisorConfig) (reporter : Reporter) (world : μ) : Supervision μ :=
  { supervisor := { config }, reporter, world }

/-- The task with an identifier. -/
def task? (S : Supervision μ) (id : TaskId) : Option Task := S.supervisor.task? id

/-- What is left by an act. -/
def act (m : Machine μ) (S : Supervision μ) : Act μ → Supervision μ
  | .startTask words cwd stdout stderr =>
    let (_, supervisor, world) := Supervisor.startTask m S.supervisor words cwd stdout stderr S.world
    { S with supervisor, world }
  | .scan answers =>
    let (supervisor, reporter) := S.supervisor.scan answers S.reporter
    { S with supervisor, reporter }
  | .drain task out err => { S with supervisor := S.supervisor.drain task out err }
  | .look _ => S
  | .remove task =>
    let (_, process, supervisor) := S.supervisor.removeTask task
    { S with supervisor, world := Launcher.killAll m process.toList S.world }
  | .startLoop => { S with supervisor := S.supervisor.start }
  | .endLoop i => { S with supervisor := S.supervisor.endLoop i }
  | .beginShutdown => { S with supervisor := S.supervisor.beginShutdown.2 }
  | .finishShutdown =>
    let (processes, supervisor) := S.supervisor.finishShutdown
    { S with supervisor, world := Launcher.killAll m processes S.world }
  | .elsewhere world => { S with world }

/-- What is left by acts. -/
def run (m : Machine μ) (S : Supervision μ) (as : List (Act μ)) : Supervision μ := as.foldl (act m) S

/-- What an act tells its caller of a task. -/
def told? (S : Supervision μ) : Act μ → Option TaskSnapshot
  | .look id => S.supervisor.update? id
  | .remove id => (S.supervisor.removeTask id).1
  | .startTask .. | .scan _ | .drain .. | .startLoop | .endLoop _ | .beginShutdown | .finishShutdown
  | .elsewhere _ => none

/-- The tasks that an act reports to have ended. -/
def exits (S : Supervision μ) : Act μ → List (TaskId × Task)
  | .scan answers => (S.supervisor.askAll answers).2
  | .startTask .. | .drain .. | .look _ | .remove _ | .startLoop | .endLoop _ | .beginShutdown | .finishShutdown
  | .elsewhere _ => []

/-- What acts give one after the other, each with what it meets. -/
def collect {α : Type} (m : Machine μ) (f : Supervision μ → Act μ → List α) : Supervision μ → List (Act μ) → List α
  | _, [] => []
  | S, a :: as => f S a ++ collect m f (S.act m a) as

/-- The tasks that acts report to have ended, in order. -/
def exitLog (m : Machine μ) (S : Supervision μ) (as : List (Act μ)) : List (TaskId × Task) := S.collect m exits as

/-- All that acts tell of a task while it is tracked. -/
def history (m : Machine μ) (id : TaskId) (S : Supervision μ) (as : List (Act μ)) : List News :=
  S.collect m (fun S a => if (S.task? id).isSome then a.news id else []) as

variable {m : Machine μ} {S : Supervision μ} {id : TaskId}

theorem run_append (m : Machine μ) (S : Supervision μ) (as bs : List (Act μ)) :
    S.run m (as ++ bs) = (S.run m as).run m bs := List.foldl_append

theorem collect_append {α : Type} (m : Machine μ) (f : Supervision μ → Act μ → List α) (S : Supervision μ)
    (as bs : List (Act μ)) : S.collect m f (as ++ bs) = S.collect m f as ++ (S.run m as).collect m f bs := by
  induction as generalizing S with
  | nil => rfl
  | cons a as ih =>
    show f S a ++ (S.act m a).collect m f (as ++ bs) = _
    rw [ih, ← List.append_assoc]
    rfl

theorem mem_collect {α : Type} {f : Supervision μ → Act μ → List α} {x : α} {as : List (Act μ)} :
    x ∈ S.collect m f as ↔ ∃ before a after, as = before ++ a :: after ∧ x ∈ f (S.run m before) a := by
  induction as generalizing S with
  | nil => exact ⟨nofun, fun ⟨before, a, after, h, _⟩ => absurd h (by simp)⟩
  | cons a as ih =>
    show x ∈ f S a ++ (S.act m a).collect m f as ↔ _
    rw [List.mem_append, ih]
    constructor
    · rintro (hfirst | ⟨before, b, after, rfl, hx⟩)
      · exact ⟨[], a, as, rfl, hfirst⟩
      · exact ⟨a :: before, b, after, rfl, hx⟩
    · rintro ⟨before, b, after, heq, hx⟩
      cases before with
      | nil =>
        obtain ⟨rfl, rfl⟩ := List.cons.inj heq
        exact .inl hx
      | cons c before =>
        obtain ⟨rfl, rfl⟩ := List.cons.inj heq
        exact .inr ⟨before, b, after, rfl, hx⟩

/-! ## One act and one task -/

inductive Turn (S S' : Supervision μ) (id : TaskId) (news : List News) : Prop
  | kept (t : Task) (tracked : S.task? id = some t) (next : S'.task? id = some (t.hearAll news))
  /-- The task is tracked from now on. -/
  | begun (p : ProcessId) (stdout stderr : Sink) (untracked : S.task? id = none)
    (new : id = .issued S.supervisor.issued) (issued : S'.supervisor.Issued id)
    (next : S'.task? id = some (Task.new p stdout stderr))
  | absent (next : S'.task? id = none)

theorem Turn.of_map {S' : Supervision μ} {news : List News} (h : S'.task? id = (S.task? id).map (·.hearAll news)) :
    Turn S S' id news := by
  cases hid : S.task? id with
  | none => exact .absent (by rw [h, hid]; rfl)
  | some t => exact .kept t hid (by rw [h, hid]; rfl)

theorem Turn.of_eq {S' : Supervision μ} (h : S'.task? id = S.task? id) : Turn S S' id [] :=
  .of_map (h.trans Option.map_id'.symm)

theorem issued_le_act (m : Machine μ) (S : Supervision μ) (a : Act μ) :
    S.supervisor.issued ≤ (S.act m a).supervisor.issued := by
  cases a with
  | startTask words cwd stdout stderr =>
    rcases Supervisor.startTask_cases m S.supervisor words cwd stdout stderr S.world with h | ⟨p, h⟩
    · exact Nat.le_of_eq (congrArg (·.issued) h).symm
    · exact Nat.le_trans (Nat.le_succ _) (Nat.le_of_eq (congrArg (·.issued) h).symm)
  | scan answers => exact Nat.le_of_eq (Supervisor.issued_askAll S.supervisor answers).symm
  | drain k out err => exact Nat.le_refl _
  | look k => exact Nat.le_refl _
  | remove k => exact Nat.le_of_eq (Supervisor.issued_removeTask S.supervisor k).symm
  | startLoop => exact Nat.le_of_eq (Supervisor.issued_start S.supervisor).symm
  | endLoop i => exact Nat.le_refl _
  | beginShutdown => exact Nat.le_of_eq (Supervisor.issued_beginShutdown S.supervisor).symm
  | finishShutdown => exact Nat.le_refl _
  | elsewhere world => exact Nat.le_refl _

/-- **All that an act can do to a task.** -/
theorem turn (m : Machine μ) (S : Supervision μ) (a : Act μ) (id : TaskId) : Turn S (S.act m a) id (a.news id) := by
  cases a with
  | startTask words cwd stdout stderr =>
    rcases Supervisor.startTask_cases m S.supervisor words cwd stdout stderr S.world with h | ⟨p, h⟩
    · exact .of_eq (congrArg (Supervisor.task? · id) h)
    · have hnext : (S.act m (.startTask words cwd stdout stderr)).task? id = (S.task? id).or
          (if id = .issued S.supervisor.issued then some (Task.new p stdout stderr) else none) :=
        (congrArg (Supervisor.task? · id) h).trans (Supervisor.task?_track S.supervisor _ id)
      cases hid : S.task? id with
      | some t => exact .kept t hid (by rw [hnext, hid]; rfl)
      | none =>
        rw [hid, Option.none_or] at hnext
        split at hnext
        · next hnew =>
          have hissued : (S.act m (.startTask words cwd stdout stderr)).supervisor.issued = S.supervisor.issued + 1 :=
            congrArg (·.issued) h
          exact .begun p stdout stderr hid hnew ⟨_, by rw [hissued]; exact Nat.lt_succ_self _, hnew⟩ hnext
        · exact .absent hnext
  | scan answers => exact .of_map (Supervisor.task?_askAll S.supervisor answers id)
  | drain k out err =>
    refine .of_map ((Supervisor.task?_modifyTask S.supervisor k id _).trans ?_)
    by_cases hk : k = id
    · rw [if_pos hk.symm]
      show _ = (S.task? id).map (·.hearAll (if k = id then [.read out err] else []))
      rw [if_pos hk]
      rfl
    · rw [if_neg (Ne.symm hk)]
      show _ = (S.task? id).map (·.hearAll (if k = id then [.read out err] else []))
      rw [if_neg hk]
      exact Option.map_id'.symm
  | look k => exact .of_eq rfl
  | remove k =>
    have hnext := Supervisor.task?_removeTask S.supervisor k id
    split at hnext
    · exact .absent hnext
    · exact .of_eq hnext
  | startLoop => exact .of_eq (Supervisor.task?_congr (Supervisor.tasks_start _) id)
  | endLoop i => exact .of_eq rfl
  | beginShutdown => exact .of_eq (Supervisor.task?_congr (Supervisor.tasks_beginShutdown _) id)
  | finishShutdown => exact .absent rfl
  | elsewhere world => exact .of_eq rfl

/-- **What an act reports of a task** is what its news of it give. -/
theorem filter_exits (S : Supervision μ) (a : Act μ) (id : TaskId) :
    (S.exits a).filter (·.1 = id) = ((S.task? id).toList.flatMap (·.reports (a.news id))).map (id, ·) := by
  have hsilent : ∀ ns : List News, (∀ t : Task, t.reports ns = []) →
      [] = ((S.task? id).toList.flatMap (·.reports ns)).map ((id, ·) : Task → TaskId × Task) := by
    intro ns h
    rw [List.flatMap_eq_nil_iff.2 fun t _ => h t]
    rfl
  cases a with
  | scan answers => exact Supervisor.filter_askAll S.supervisor answers id
  | drain k out err =>
    refine hsilent _ fun t => ?_
    show t.reports (if k = id then [.read out err] else []) = []
    split <;> rfl
  | startTask words cwd stdout stderr => exact hsilent _ fun t => rfl
  | look k => exact hsilent _ fun t => rfl
  | remove k => exact hsilent _ fun t => rfl
  | startLoop => exact hsilent _ fun t => rfl
  | endLoop i => exact hsilent _ fun t => rfl
  | beginShutdown => exact hsilent _ fun t => rfl
  | finishShutdown => exact hsilent _ fun t => rfl
  | elsewhere world => exact hsilent _ fun t => rfl

theorem history_cons (m : Machine μ) (S : Supervision μ) (id : TaskId) (a : Act μ) (as : List (Act μ)) :
    S.history m id (a :: as) = (if (S.task? id).isSome then a.news id else []) ++ (S.act m a).history m id as := rfl

theorem filter_exitLog_cons (m : Machine μ) (S : Supervision μ) (id : TaskId) (a : Act μ) (as : List (Act μ)) :
    (S.exitLog m (a :: as)).filter (·.1 = id) =
      ((S.task? id).toList.flatMap (·.reports (a.news id))).map (id, ·) ++
        ((S.act m a).exitLog m as).filter (·.1 = id) := by
  rw [← filter_exits, ← List.filter_append]
  rfl

/-! ## Runs -/

/-- Only identifiers that have been handed out are in use. -/
def Sound (S : Supervision μ) : Prop := ∀ id, S.task? id ≠ none → S.supervisor.Issued id

theorem sound_new (config : SupervisorConfig) (r : Reporter) (w : μ) : Sound (new config r w) :=
  fun _ h => absurd rfl h

theorem issued_of_issued (m : Machine μ) (a : Act μ) (h : S.supervisor.Issued id) :
    (S.act m a).supervisor.Issued id := by
  obtain ⟨k, hk, rfl⟩ := h
  exact ⟨k, Nat.lt_of_lt_of_le hk (issued_le_act m S a), rfl⟩

theorem not_issued_new (S : Supervision μ) : ¬ S.supervisor.Issued (.issued S.supervisor.issued) := by
  rintro ⟨k, hk, heq⟩
  cases heq
  exact Nat.lt_irrefl _ hk

theorem Sound.act (h : S.Sound) (a : Act μ) : (S.act m a).Sound := by
  intro id hid
  cases turn m S a id with
  | kept t tracked next => exact issued_of_issued m a (h id fun hnone => absurd (hnone.symm.trans tracked) nofun)
  | begun p stdout stderr untracked new issued next => exact issued
  | absent next => exact absurd next hid

theorem Sound.run (h : S.Sound) (as : List (Act μ)) : (S.run m as).Sound := by
  induction as generalizing S with
  | nil => exact h
  | cons a as ih => exact ih (h.act a)

theorem run_of_absent (used : S.supervisor.Issued id) (h : S.task? id = none) (as : List (Act μ)) :
    (S.run m as).task? id = none ∧ S.history m id as = [] ∧ (S.exitLog m as).filter (·.1 = id) = [] := by
  induction as generalizing S with
  | nil => exact ⟨h, rfl, rfl⟩
  | cons a as ih =>
    have hnext : (S.act m a).task? id = none := by
      cases turn m S a id with
      | kept t tracked next => exact absurd (h.symm.trans tracked) nofun
      | begun p stdout stderr untracked new issued next => exact absurd (new ▸ used) (not_issued_new S)
      | absent next => exact next
    obtain ⟨hrun, hhistory, hexits⟩ := ih (issued_of_issued m a used) hnext
    refine ⟨hrun, ?_, ?_⟩
    · rw [history_cons, h, hhistory]
      rfl
    · rw [filter_exitLog_cons, h, hexits]
      rfl

/-- **A tracked task is what is told of it, and so are the reports of its end.** -/
theorem run_of_tracked (sound : S.Sound) {t : Task} (h : S.task? id = some t) (as : List (Act μ)) :
    (∀ u, (S.run m as).task? id = some u → u = t.hearAll (S.history m id as)) ∧
      (S.exitLog m as).filter (·.1 = id) = (t.reports (S.history m id as)).map (id, ·) := by
  induction as generalizing S t with
  | nil => exact ⟨fun u hu => Option.some.inj (hu.symm.trans h), rfl⟩
  | cons a as ih =>
    have hhistory : S.history m id (a :: as) = a.news id ++ (S.act m a).history m id as := by
      rw [history_cons, h]
      rfl
    have hexits : (S.exitLog m (a :: as)).filter (·.1 = id) =
        (t.reports (a.news id)).map (id, ·) ++ ((S.act m a).exitLog m as).filter (·.1 = id) := by
      rw [filter_exitLog_cons, h]
      simp
    rw [hhistory, hexits, Task.hearAll_append, Task.reports_append, List.map_append]
    cases turn m S a id with
    | kept t' tracked next =>
      obtain rfl : t' = t := Option.some.inj (tracked.symm.trans h)
      obtain ⟨hrun, hrest⟩ := ih (sound.act a) next
      exact ⟨hrun, congrArg (_ ++ ·) hrest⟩
    | begun p stdout stderr untracked new issued next => exact absurd (untracked.symm.trans h) nofun
    | absent next =>
      have hissued : S.supervisor.Issued id := sound id fun hnone => absurd (hnone.symm.trans h) nofun
      obtain ⟨hrun, hnone, hrest⟩ := run_of_absent (m := m) (issued_of_issued m a hissued) next as
      refine ⟨fun u hu => absurd (hrun.symm.trans hu) nofun, ?_⟩
      rw [hnone, hrest]
      rfl

/-- **Whatever task an identifier comes to stand for is what is told of it from its start.** -/
theorem run_of_untracked (sound : S.Sound) (h : S.task? id = none) (as : List (Act μ)) :
    ∃ p stdout stderr, (∀ u, (S.run m as).task? id = some u →
        u = (Task.new p stdout stderr).hearAll (S.history m id as)) ∧
      (S.exitLog m as).filter (·.1 = id) =
        ((Task.new p stdout stderr).reports (S.history m id as)).map (id, ·) := by
  induction as generalizing S with
  | nil => exact ⟨0, .discard, .discard, fun u hu => absurd (h.symm.trans hu) nofun, rfl⟩
  | cons a as ih =>
    have hhistory : S.history m id (a :: as) = (S.act m a).history m id as := by
      rw [history_cons, h]
      rfl
    have hexits : (S.exitLog m (a :: as)).filter (·.1 = id) = ((S.act m a).exitLog m as).filter (·.1 = id) := by
      rw [filter_exitLog_cons, h]
      rfl
    rw [hhistory, hexits]
    cases turn m S a id with
    | kept t tracked next => exact absurd (h.symm.trans tracked) nofun
    | begun p stdout stderr untracked new issued next => exact ⟨p, stdout, stderr, run_of_tracked (sound.act a) next as⟩
    | absent next => exact ih (sound.act a) next

end Supervision

end JobLaunch
