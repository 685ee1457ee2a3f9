import JobLaunch.Proofs.Misconfigured
import JobLaunch.Proofs.Supervision
import Mathlib.Logic.Function.Basic

/-!
# A supervisor under other numbers

Tasks and monitoring loops are numbered in the order of their starts. A supervisor that has had tasks and loops before
does what one without them does, under higher numbers.

* `TaskId.renumber`, `Supervisor.renumber`, `Act.renumber` : the same under higher numbers; `Supervisor.task?_renumber`,
  `Supervisor.askAll_renumber` and the like : the operations of a supervisor do not mind;
* `Supervision.asks` : what an act asks of the machine; `Showing`, `Supervision.shows` : all that is seen of an act;
* `Supervision.Twin` : two supervisors are one under other numbers; `Supervision.Twin.act`, `Supervision.Twin.shows`;
* `Supervision.shown_of_idle` : a supervisor without tasks and without a loop in charge works as a new one.
-/

namespace JobLaunch

/-! ## Higher numbers -/

namespace TaskId

/-- The identifier whose number is higher by `k`. -/
def renumber (k : Nat) : TaskId → TaskId
  | issued n => issued (n + k)
  | named u => named u

theorem renumber_injective (k : Nat) : Function.Injective (renumber k) := by
  intro a b h
  cases a <;> cases b <;> simp [renumber] at h ⊢ <;> exact h

theorem renumber_inj {k : Nat} {a b : TaskId} : a.renumber k = b.renumber k ↔ a = b := (renumber_injective k).eq_iff

end TaskId

/-- What can be seen of the task, under a higher number. -/
def TaskSnapshot.renumber (k : Nat) (t : TaskSnapshot) : TaskSnapshot := { t with task := t.task.renumber k }

namespace Supervisor

variable (k : Nat) (old : List MonitorLoop) (s : Supervisor)

/-- The supervisor as it would be after `k` other tasks and after old loops. -/
def renumber : Supervisor where
  config := s.config
  tasks := s.tasks.map fun e => (e.1.renumber k, e.2)
  issued := s.issued + k
  loops := old ++ s.loops
  current := s.current.map (old.length + ·)

theorem task?_renumber (id : TaskId) : (s.renumber k old).task? (id.renumber k) = s.task? id := by
  have hkey : ((fun e : TaskId × Task => decide (e.1 = id.renumber k)) ∘ fun e : TaskId × Task =>
      (e.1.renumber k, e.2)) = fun e => decide (e.1 = id) := by
    funext e
    exact decide_eq_decide.2 TaskId.renumber_inj
  unfold task? renumber
  rw [List.find?_map, Option.map_map, hkey]
  rfl

theorem modifyTask_renumber (id : TaskId) (f : Task → Task) :
    (s.renumber k old).modifyTask (id.renumber k) f = (s.modifyTask id f).renumber k old := by
  unfold modifyTask renumber
  simp only [List.map_map]
  congr 2
  funext e
  by_cases he : e.1 = id <;> simp [he, TaskId.renumber_inj]

theorem ask_renumber (id : TaskId) (answer : Liveness) : (s.renumber k old).ask (id.renumber k) answer =
    ((s.ask id answer).1.renumber k old, (s.ask id answer).2.map fun e => (e.1.renumber k, e.2)) := by
  unfold ask
  rw [task?_renumber]
  split
  · next t raw _ =>
    split
    · rfl
    · exact Prod.ext (modifyTask_renumber k old s id fun _ => t.exit raw) rfl
  · rfl

theorem askAll_renumber (answers : List (TaskId × Liveness)) :
    (s.renumber k old).askAll (answers.map fun a => (a.1.renumber k, a.2)) =
      ((s.askAll answers).1.renumber k old, (s.askAll answers).2.map fun e => (e.1.renumber k, e.2)) := by
  induction answers generalizing s with
  | nil => rfl
  | cons a rest ih =>
    rw [List.map_cons, askAll, ask_renumber]
    dsimp only
    rw [ih]
    dsimp only [askAll]
    rw [List.map_append]
    cases (s.ask a.1 a.2).2 <;> rfl

theorem drain_renumber (id : TaskId) (out err : List UInt8) :
    (s.renumber k old).drain (id.renumber k) out err = (s.drain id out err).renumber k old :=
  modifyTask_renumber k old s id _

theorem update?_renumber (id : TaskId) :
    (s.renumber k old).update? (id.renumber k) = (s.update? id).map (·.renumber k) := by
  unfold update?
  rw [task?_renumber, Option.map_map]
  rfl

theorem removeTask_renumber (id : TaskId) : (s.renumber k old).removeTask (id.renumber k) =
    ((s.removeTask id).1.map (·.renumber k), (s.removeTask id).2.1, (s.removeTask id).2.2.renumber k old) := by
  unfold removeTask
  rw [task?_renumber]
  cases s.task? id with
  | none => rfl
  | some t =>
    have htasks : (s.renumber k old).tasks.filter (·.1 ≠ id.renumber k) =
        (s.tasks.filter (·.1 ≠ id)).map fun e => (e.1.renumber k, e.2) := by
      rw [renumber, List.filter_map]
      congr 2
      funext e
      exact decide_eq_decide.2 (not_congr TaskId.renumber_inj)
    dsimp only
    rw [htasks]
    rfl

theorem track_renumber (t : Task) :
    (s.renumber k old).track t = ((s.track t).1.renumber k, (s.track t).2.renumber k old) := by
  unfold track adopt renumber
  simp only [List.map_append, List.map_cons, List.map_nil, TaskId.renumber, Nat.add_right_comm]

theorem startTask_renumber {μ : Type} (m : Machine μ) (words : List String) (cwd : String) (stdout stderr : Sink)
    (w : μ) : startTask m (s.renumber k old) words cwd stdout stderr w =
      ((startTask m s words cwd stdout stderr w).1.map (·.renumber k),
        (startTask m s words cwd stdout stderr w).2.1.renumber k old,
        (startTask m s words cwd stdout stderr w).2.2) := by
  unfold startTask
  rcases spawn m words cwd stdout stderr w with ⟨e | p, w'⟩
  · rfl
  · dsimp only
    rw [track_renumber]
    rfl

theorem isMonitoring_renumber : (s.renumber k old).isMonitoring = s.isMonitoring := by
  unfold isMonitoring renumber
  cases s.current with
  | none => rfl
  | some i =>
    show (old ++ s.loops)[old.length + i]?.any _ = s.loops[i]?.any _
    rw [List.getElem?_append_right (Nat.le_add_right _ _), Nat.add_sub_cancel_left]

theorem start_renumber : (s.renumber k old).start = s.start.renumber k old := by
  unfold start
  rw [isMonitoring_renumber]
  split
  · rfl
  · simp [renumber]

theorem modify_renumber (i : Nat) (f : MonitorLoop → MonitorLoop) :
    (s.renumber k old).loops.modify (old.length + i) f = old ++ s.loops.modify i f :=
  List.modifyTailIdx_add _ i old s.loops

theorem endLoop_renumber (i : Nat) : (s.renumber k old).endLoop (old.length + i) = (s.endLoop i).renumber k old := by
  unfold endLoop
  rw [modify_renumber]
  rfl

theorem beginShutdown_renumber : (s.renumber k old).beginShutdown.2 = s.beginShutdown.2.renumber k old := by
  have hcurrent : (s.renumber k old).current = s.current.map (old.length + ·) := rfl
  unfold beginShutdown
  rw [hcurrent]
  cases hc : s.current with
  | none => rfl
  | some i =>
    dsimp only [Option.map_some]
    rw [modify_renumber]
    rfl

theorem finishShutdown_renumber : (s.renumber k old).finishShutdown =
    (s.finishShutdown.1, s.finishShutdown.2.renumber k old) := by
  unfold finishShutdown renumber
  simp [List.filter_map, Function.comp_def]

end Supervisor

namespace Act

variable {μ ν : Type}

/-- The act on a supervisor whose tasks have numbers higher by `k`, and whose loops have numbers higher by `n`. -/
def renumber (k n : Nat) : Act μ → Act μ
  | .startTask words cwd stdout stderr => .startTask words cwd stdout stderr
  | .scan answers => .scan (answers.map fun a => (a.1.renumber k, a.2))
  | .drain task out err => .drain (task.renumber k) out err
  | .look task => .look (task.renumber k)
  | .remove task => .remove (task.renumber k)
  | .startLoop => .startLoop
  | .endLoop i => .endLoop (n + i)
  | .beginShutdown => .beginShutdown
  | .finishShutdown => .finishShutdown
  | .elsewhere world => .elsewhere world

/-- The act on another machine. -/
def map (f : μ → ν) : Act μ → Act ν
  | .startTask words cwd stdout stderr => .startTask words cwd stdout stderr
  | .scan answers => .scan answers
  | .drain task out err => .drain task out err
  | .look task => .look task
  | .remove task => .remove task
  | .startLoop => .startLoop
  | .endLoop i => .endLoop i
  | .beginShutdown => .beginShutdown
  | .finishShutdown => .finishShutdown
  | .elsewhere world => .elsewhere (f world)

theorem map_renumber (f : μ → ν) (k n : Nat) (a : Act μ) : (a.renumber k n).map f = (a.map f).renumber k n := by
  cases a <;> rfl

end Act

/-! ## What is seen -/

/-- All that is seen of an act, and what a caller could see before it. -/
structure Showing where
  monitoring : Bool
  taskCount : Nat
  started : Option (Except LaunchError TaskId)
  told : Option TaskSnapshot
  /-- The tasks that are reported to have ended. -/
  exits : List (TaskId × Task)
  /-- What the machine is asked to do. -/
  asked : List Operation

/-- The same of tasks with numbers higher by `k`. -/
def Showing.renumber (k : Nat) (x : Showing) : Showing :=
  { x with
    started := x.started.map (·.map (·.renumber k))
    told := x.told.map (·.renumber k)
    exits := x.exits.map fun e => (e.1.renumber k, e.2) }

namespace Supervision

variable {μ : Type} {m : Machine μ} {S T : Supervision μ} {k : Nat} {old : List MonitorLoop}

def logging (S : Supervision μ) : Supervision (μ × List Operation) := ⟨S.supervisor, S.reporter, (S.world, [])⟩

def asks (m : Machine μ) (S : Supervision μ) (a : Act μ) : List Operation :=
  (S.logging.act m.logging (a.map (·, []))).world.2

def started? (m : Machine μ) (S : Supervision μ) : Act μ → Option (Except LaunchError TaskId)
  | .startTask words cwd stdout stderr =>
    some (Supervisor.startTask m S.supervisor words cwd stdout stderr S.world).1
  | .scan _ | .drain .. | .look _ | .remove _ | .startLoop | .endLoop _ | .beginShutdown | .finishShutdown
  | .elsewhere _ => none

def shows (m : Machine μ) (S : Supervision μ) (a : Act μ) : Showing where
  monitoring := S.supervisor.isMonitoring
  taskCount := S.supervisor.taskCount
  started := S.started? m a
  told := S.told? a
  exits := S.exits a
  asked := S.asks m a

/-- All that is seen of acts, in order. -/
def shown (m : Machine μ) (S : Supervision μ) (as : List (Act μ)) : List Showing :=
  S.collect m (fun S a => [S.shows m a]) as

/-! ## Two supervisors -/

/-- The second supervisor is the first one after `k` other tasks and after old loops, on the same machine. -/
structure Twin (k : Nat) (old : List MonitorLoop) (T S : Supervision μ) : Prop where
  supervisor : S.supervisor = T.supervisor.renumber k old
  world : S.world = T.world

/-- **One act of both keeps them so.** -/
theorem Twin.act (h : Twin k old T S) (m : Machine μ) (a : Act μ) :
    Twin k old (T.act m a) (S.act m (a.renumber k old.length)) := by
  obtain ⟨s, r, w⟩ := S
  obtain ⟨rfl, rfl⟩ : s = T.supervisor.renumber k old ∧ w = T.world := ⟨h.supervisor, h.world⟩
  cases a with
  | startTask words cwd stdout stderr =>
    have hstart := Supervisor.startTask_renumber k old T.supervisor m words cwd stdout stderr T.world
    exact ⟨congrArg (·.2.1) hstart, congrArg (·.2.2) hstart⟩
  | scan answers => exact ⟨congrArg (·.1) (Supervisor.askAll_renumber k old T.supervisor answers), rfl⟩
  | drain id out err => exact ⟨T.supervisor.drain_renumber k old id out err, rfl⟩
  | look id => exact ⟨rfl, rfl⟩
  | remove id =>
    have hremove := Supervisor.removeTask_renumber k old T.supervisor id
    refine ⟨congrArg (·.2.2) hremove, ?_⟩
    exact congrArg (fun x => Launcher.killAll m x.2.1.toList T.world) hremove
  | startLoop => exact ⟨T.supervisor.start_renumber k old, rfl⟩
  | endLoop i => exact ⟨T.supervisor.endLoop_renumber k old i, rfl⟩
  | beginShutdown => exact ⟨T.supervisor.beginShutdown_renumber k old, rfl⟩
  | finishShutdown =>
    have hfinish := T.supervisor.finishShutdown_renumber k old
    refine ⟨congrArg (·.2) hfinish, ?_⟩
    exact congrArg (fun x => Launcher.killAll m x.1 T.world) hfinish
  | elsewhere world => exact ⟨rfl, rfl⟩

/-- **And it shows the same of both**, but for the numbers. -/
theorem Twin.shows (h : Twin k old T S) (m : Machine μ) (a : Act μ) :
    S.shows m (a.renumber k old.length) = (T.shows m a).renumber k := by
  have hlogging : Twin k old T.logging S.logging := ⟨h.supervisor, congrArg (·, []) h.world⟩
  have hasks : S.asks m (a.renumber k old.length) = T.asks m a := by
    unfold asks
    rw [Act.map_renumber]
    exact congrArg (·.2) (hlogging.act m.logging _).world
  have hcount : S.supervisor.taskCount = T.supervisor.taskCount := by
    rw [h.supervisor]
    exact List.length_map _
  have hstarted : S.started? m (a.renumber k old.length) = (T.started? m a).map (·.map (·.renumber k)) := by
    cases a with
    | startTask words cwd stdout stderr =>
      show some (Supervisor.startTask m S.supervisor words cwd stdout stderr S.world).1 = _
      rw [h.supervisor, h.world, Supervisor.startTask_renumber]
      rfl
    | _ => rfl
  have htold : S.told? (a.renumber k old.length) = (T.told? a).map (·.renumber k) := by
    cases a with
    | look id =>
      show S.supervisor.update? (id.renumber k) = _
      rw [h.supervisor, Supervisor.update?_renumber]
      rfl
    | remove id =>
      show (S.supervisor.removeTask (id.renumber k)).1 = _
      rw [h.supervisor, Supervisor.removeTask_renumber]
      rfl
    | _ => rfl
  have hexits : S.exits (a.renumber k old.length) = (T.exits a).map fun e => (e.1.renumber k, e.2) := by
    cases a with
    | scan answers =>
      show (S.supervisor.askAll _).2 = _
      rw [h.supervisor, Supervisor.askAll_renumber]
      rfl
    | _ => rfl
  unfold Supervision.shows Showing.renumber
  rw [hasks, hcount, hstarted, htold, hexits, h.supervisor, Supervisor.isMonitoring_renumber]

theorem Twin.shown (h : Twin k old T S) (m : Machine μ) (as : List (Act μ)) :
    S.shown m (as.map (·.renumber k old.length)) = (T.shown m as).map (·.renumber k) := by
  induction as generalizing S T with
  | nil => rfl
  | cons a as ih =>
    show S.shows m (a.renumber k old.length) :: (S.act m (a.renumber k old.length)).shown m (as.map _) =
      (T.shows m a).renumber k :: ((T.act m a).shown m as).map _
    rw [h.shows, ih (h.act m a)]

/-- **A supervisor without tasks and without a loop in charge works as a new one:** whatever is done with a new one, of
the same configuration and on the same machine, shows the same if it is done with this one, but for the numbers of tasks
and loops. -/
theorem shown_of_idle (idle : S.supervisor.tasks = []) (vacant : S.supervisor.current = none) (m : Machine μ)
    (r : Reporter) (as : List (Act μ)) :
    S.shown m (as.map (·.renumber S.supervisor.issued S.supervisor.loops.length)) =
      ((new S.supervisor.config r S.world).shown m as).map (·.renumber S.supervisor.issued) := by
  have htwin : Twin S.supervisor.issued S.supervisor.loops (new S.supervisor.config r S.world) S := by
    refine ⟨?_, rfl⟩
    simp only [Supervisor.renumber, new, List.map_nil, Nat.zero_add, List.append_nil, Option.map_none]
    rw [← idle, ← vacant]
  exact htwin.shown m as

end Supervision

end JobLaunch
