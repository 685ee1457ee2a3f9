import JobLaunch.Launcher.Basic

/-!
# Monitoring between waits

* `Watch` : what the monitoring of the tasks does while calls wait; `Launcher.watch`, `Launcher.watchAll` : its effect;
* `Launcher.registry_watchAll` : the registry is not touched;
* `Launcher.tasks_watchAll_congr` : the effect on the tasks depends on the tasks alone;
* `Launcher.tasks_watchAll_filter` : what happens to some of them does not depend on the others.
-/

namespace JobLaunch

/-- A machine that refuses nothing. -/
def Machine.obliging : Machine Unit where
  writeFile _ _ w := (.ok (), w)
  spawn _ w := (.ok 0, w)
  kill _ w := w

/-- What the monitoring of the tasks does while calls wait. -/
inductive Watch where
  /-- The monitoring loop asks after tasks. -/
  | scan (answers : List (TaskId × Liveness))
  | drain (task : TaskId) (out err : List UInt8)
  | endLoop (loop : Nat)
  deriving DecidableEq, Inhabited

namespace Supervisor

variable {s t : Supervisor}

@[simp] theorem tasks_start (s : Supervisor) : s.start.tasks = s.tasks := by
  unfold start
  split <;> rfl

@[simp] theorem issued_start (s : Supervisor) : s.start.issued = s.issued := by
  unfold start
  split <;> rfl

theorem task?_congr (h : s.tasks = t.tasks) (id : TaskId) : s.task? id = t.task? id := by
  unfold task?
  rw [h]

theorem tasks_modifyTask_congr (h : s.tasks = t.tasks) (id : TaskId) (f : Task → Task) :
    (s.modifyTask id f).tasks = (t.modifyTask id f).tasks := by
  unfold modifyTask
  rw [h]

theorem tasks_ask_congr (h : s.tasks = t.tasks) (id : TaskId) (answer : Liveness) :
    (s.ask id answer).1.tasks = (t.ask id answer).1.tasks := by
  unfold ask
  rw [task?_congr h id]
  split
  · split
    · exact h
    · exact tasks_modifyTask_congr h id _
  · exact h

theorem tasks_askAll_congr (h : s.tasks = t.tasks) (answers : List (TaskId × Liveness)) :
    (s.askAll answers).1.tasks = (t.askAll answers).1.tasks := by
  induction answers generalizing s t with
  | nil => exact h
  | cons a answers ih => exact ih (tasks_ask_congr h a.1 a.2)

theorem modifyTask_of_untracked {id : TaskId} (h : s.task? id = none) (f : Task → Task) : s.modifyTask id f = s := by
  have hnone : ∀ e ∈ s.tasks, ¬ e.1 = id := by
    intro e he heq
    rw [task?, Option.map_eq_none_iff, List.find?_eq_none] at h
    exact h e he (decide_eq_true heq)
  unfold modifyTask
  congr 1
  exact (List.map_congr_left fun e he => if_neg (hnone e he)).trans (List.map_id _)

/-! ### Some of the tasks -/

variable {keep : TaskId → Bool}

theorem task?_filter (h : t.tasks = s.tasks.filter (keep ·.1)) (id : TaskId) :
    t.task? id = if keep id then s.task? id else none := by
  unfold task?
  rw [h, List.find?_filter]
  split
  · next hid =>
    congr 2
    funext e
    by_cases he : e.1 = id
    · simp [he, hid]
    · simp [he]
  · next hid =>
    rw [List.find?_eq_none.2]
    · rfl
    · rintro e - he
      simp only [Bool.decide_and, Bool.decide_eq_true, Bool.and_eq_true, decide_eq_true_eq] at he
      exact hid (he.2 ▸ he.1)

theorem tasks_modifyTask_filter (h : t.tasks = s.tasks.filter (keep ·.1)) (id : TaskId) (f : Task → Task) :
    (t.modifyTask id f).tasks = (s.modifyTask id f).tasks.filter (keep ·.1) := by
  unfold modifyTask
  dsimp only
  rw [h, List.filter_map]
  congr 2
  funext e
  by_cases he : e.1 = id
  · simp [he]
  · simp [he]

theorem tasks_ask_filter (h : t.tasks = s.tasks.filter (keep ·.1)) (id : TaskId) (answer : Liveness) :
    (t.ask id answer).1.tasks = (s.ask id answer).1.tasks.filter (keep ·.1) := by
  unfold ask
  rw [task?_filter h id]
  cases hid : keep id with
  | true =>
    rw [if_pos rfl]
    split
    · split
      · exact h
      · exact tasks_modifyTask_filter h id _
    · exact h
  | false =>
    -- the task that is asked after is not one of them
    have hgone : ∀ f, (s.modifyTask id f).tasks.filter (keep ·.1) = s.tasks.filter (keep ·.1) := by
      intro f
      have huntracked : t.task? id = none := by rw [task?_filter h, hid, if_neg Bool.false_ne_true]
      rw [← tasks_modifyTask_filter h id f, ← h, modifyTask_of_untracked huntracked]
    rw [if_neg Bool.false_ne_true]
    show t.tasks = _
    split
    · split
      · exact h
      · exact h.trans (hgone _).symm
    · exact h

theorem tasks_askAll_filter (h : t.tasks = s.tasks.filter (keep ·.1)) (answers : List (TaskId × Liveness)) :
    (t.askAll answers).1.tasks = (s.askAll answers).1.tasks.filter (keep ·.1) := by
  induction answers generalizing s t with
  | nil => exact h
  | cons a answers ih => exact ih (tasks_ask_filter h a.1 a.2)

end Supervisor

namespace Launcher

def watch (l : Launcher) : Watch → Launcher
  | .scan answers =>
    let (supervisor, reporter) := l.supervisor.scan answers l.reporter
    { l with supervisor, reporter }
  | .drain task out err => { l with supervisor := l.supervisor.drain task out err }
  | .endLoop i => { l with supervisor := l.supervisor.endLoop i }

/-- The launcher after more monitoring. -/
def watchAll (l : Launcher) (ws : List Watch) : Launcher := ws.foldl watch l

@[simp] theorem registry_watch (l : Launcher) (v : Watch) : (l.watch v).registry = l.registry := by
  cases v <;> rfl

theorem watchAll_append (l : Launcher) (vs ws : List Watch) :
    l.watchAll (vs ++ ws) = (l.watchAll vs).watchAll ws := List.foldl_append

@[simp] theorem registry_watchAll (l : Launcher) (ws : List Watch) : (l.watchAll ws).registry = l.registry := by
  induction ws generalizing l with
  | nil => rfl
  | cons v ws ih => exact (ih (l.watch v)).trans (registry_watch l v)

theorem watchAll_eq (l : Launcher) (ws : List Watch) :
    l.watchAll ws = { l with supervisor := (l.watchAll ws).supervisor, reporter := (l.watchAll ws).reporter } := by
  induction ws generalizing l with
  | nil => rfl
  | cons v ws ih =>
    refine (ih (l.watch v)).trans ?_
    cases v <;> rfl

theorem backend_watchAll (l : Launcher) (ws : List Watch) : (l.watchAll ws).backend = l.backend := by rw [watchAll_eq]

theorem config_watchAll (l : Launcher) (ws : List Watch) : (l.watchAll ws).config = l.config := by rw [watchAll_eq]

theorem tasks_watch_congr {l l' : Launcher} (h : l.supervisor.tasks = l'.supervisor.tasks) (v : Watch) :
    (l.watch v).supervisor.tasks = (l'.watch v).supervisor.tasks := by
  cases v with
  | scan answers => exact Supervisor.tasks_askAll_congr h answers
  | drain task out err => exact Supervisor.tasks_modifyTask_congr h task _
  | endLoop i => exact h

theorem tasks_watchAll_congr {l l' : Launcher} (h : l.supervisor.tasks = l'.supervisor.tasks) (ws : List Watch) :
    (l.watchAll ws).supervisor.tasks = (l'.watchAll ws).supervisor.tasks := by
  induction ws generalizing l l' with
  | nil => exact h
  | cons v ws ih => exact ih (tasks_watch_congr h v)

theorem tasks_watch_filter {l l' : Launcher} {keep : TaskId → Bool}
    (h : l'.supervisor.tasks = l.supervisor.tasks.filter (keep ·.1)) (v : Watch) :
    (l'.watch v).supervisor.tasks = (l.watch v).supervisor.tasks.filter (keep ·.1) := by
  cases v with
  | scan answers => exact Supervisor.tasks_askAll_filter h answers
  | drain task out err => exact Supervisor.tasks_modifyTask_filter h task _
  | endLoop i => exact h

/-- **What the monitoring does to some of the tasks** does not depend on the others. -/
theorem tasks_watchAll_filter {l l' : Launcher} {keep : TaskId → Bool}
    (h : l'.supervisor.tasks = l.supervisor.tasks.filter (keep ·.1)) (ws : List Watch) :
    (l'.watchAll ws).supervisor.tasks = (l.watchAll ws).supervisor.tasks.filter (keep ·.1) := by
  induction ws generalizing l l' with
  | nil => exact h
  | cons v ws ih => exact ih (tasks_watch_filter h v)

end Launcher

end JobLaunch
