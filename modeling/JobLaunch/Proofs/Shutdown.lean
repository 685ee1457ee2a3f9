import JobLaunch.Proofs.MonitorLoops
import JobLaunch.Proofs.Renumbering
import JobLaunch.Proofs.TaskLife

/-!
# Shutting a supervisor down

Callers start loops and tasks, remove tasks, and shut the supervisor down. A shutdown waits for the loop that it has
taken out of charge; meanwhile anything else may happen, and the loop may end, fail, or outlast the time that it is given.

* `SharedSupervisor` : a supervisor with the shutdowns that are under way;
* `SharedSupervisor.Move` : what may happen next; `SharedSupervisor.acts` : the acts that it consists of;
* `SharedSupervisor.run` : what is left by moves;
* `Supervision.Recorded` : an exit is recorded in time; `Supervision.kill_or_recorded` : else the process is killed;
* `SharedSupervisor.Shuts` : the moves from the call of a shutdown to its return, with those in between;
* `SharedSupervisor.shutdown_leaves_nothing` : one monitoring loop at most, and a shutdown leaves nothing behind.
-/

namespace JobLaunch

variable {μ : Type}

/-! ## What becomes of a process -/

theorem Launcher.killAll_logging (m : Machine μ) (ps : List ProcessId) (w : μ × List Operation) :
    (killAll m.logging ps w).2 = w.2 ++ ps.map .kill := by
  induction ps generalizing w with
  | nil => exact (List.append_nil _).symm
  | cons p ps ih =>
    refine (ih (m.logging.kill p w)).trans ?_
    exact List.append_assoc _ _ _

namespace Supervision

variable {m : Machine μ} {S : Supervision μ} {id : TaskId} {t : Task}

theorem asks_remove (m : Machine μ) (S : Supervision μ) (id : TaskId) :
    S.asks m (.remove id) = (S.supervisor.removeTask id).2.1.toList.map .kill :=
  Launcher.killAll_logging m _ (S.world, [])

theorem asks_finishShutdown (m : Machine μ) (S : Supervision μ) :
    S.asks m .finishShutdown = S.supervisor.finishShutdown.1.map .kill :=
  Launcher.killAll_logging m _ (S.world, [])

theorem isSome_task?_act (m : Machine μ) (tracked : S.task? id = some t) {a : Act μ} (kept : a ≠ .remove id)
    (open_ : a ≠ .finishShutdown) : ((S.act m a).task? id).isSome = true := by
  have hsame : ∀ S' : Supervision μ, S'.task? id = S.task? id → (S'.task? id).isSome = true := by
    intro S' h
    rw [h, tracked]
    rfl
  cases a with
  | startTask words cwd stdout stderr =>
    rcases Supervisor.startTask_cases m S.supervisor words cwd stdout stderr S.world with h | ⟨p, h⟩
    · exact hsame _ (congrArg (Supervisor.task? · id) h)
    · refine hsame _ ((congrArg (Supervisor.task? · id) h).trans ?_)
      rw [Supervisor.task?_track, show S.supervisor.task? id = some t from tracked]
      exact tracked.symm
  | scan answers =>
    rw [show (S.act m (.scan answers)).task? id = _ from Supervisor.task?_askAll S.supervisor answers id,
      show S.supervisor.task? id = some t from tracked]
    rfl
  | drain k out err =>
    rw [show (S.act m (.drain k out err)).task? id = _ from Supervisor.task?_modifyTask S.supervisor k id _,
      show S.supervisor.task? id = some t from tracked]
    split <;> rfl
  | remove k =>
    have hne : ¬ id = k := fun h => kept (h ▸ rfl)
    exact hsame _ ((Supervisor.task?_removeTask S.supervisor k id).trans (if_neg hne))
  | startLoop => exact hsame _ (Supervisor.task?_congr (Supervisor.tasks_start _) id)
  | beginShutdown => exact hsame _ (Supervisor.task?_congr (Supervisor.tasks_beginShutdown _) id)
  | finishShutdown => exact absurd rfl open_
  | look | endLoop | elsewhere => exact hsame _ rfl

/-- **An act that gives a task up kills its process**, unless its exit is recorded. -/
theorem kill_mem_asks (tracked : S.task? id = some t) (running : t.exited = false) {a : Act μ}
    (lost : (S.act m a).task? id = none) : .kill t.process ∈ S.asks m a := by
  by_cases hremove : a = .remove id
  · subst hremove
    have hprocess : (S.supervisor.removeTask id).2.1 = some t.process := by
      rw [Supervisor.removeTask, show S.supervisor.task? id = some t from tracked]
      exact if_neg (Bool.eq_false_iff.1 running)
    rw [asks_remove, hprocess]
    exact List.mem_singleton_self _
  · by_cases hfinish : a = .finishShutdown
    · subst hfinish
      have hfind : (S.supervisor.tasks.find? (·.1 = id)).map (·.2) = some t := tracked
      obtain ⟨e, he, rfl⟩ := Option.map_eq_some_iff.1 hfind
      rw [asks_finishShutdown]
      refine List.mem_map_of_mem (List.mem_map.2 ⟨e, List.mem_filter.2 ⟨List.mem_of_find?_eq_some he, ?_⟩, rfl⟩)
      rw [running]
      rfl
    · have hsome := isSome_task?_act m tracked hremove hfinish
      rw [lost] at hsome
      cases hsome

/-- At some moment of a run the task is tracked, and its exit is recorded. -/
def Recorded (m : Machine μ) (S : Supervision μ) (as : List (Act μ)) (id : TaskId) : Prop :=
  ∃ before after t, as = before ++ after ∧ (S.run m before).task? id = some t ∧ t.exited = true

/-- **A task that is not tracked any more at the end of a run was killed in it**, unless its exit was recorded. -/
theorem kill_or_recorded {as : List (Act μ)} (tracked : S.task? id = some t) (lost : (S.run m as).task? id = none) :
    S.Recorded m as id ∨ .kill t.process ∈ S.collect m (asks m) as := by
  induction as generalizing S t with
  | nil => exact absurd (lost.symm.trans tracked) nofun
  | cons a as ih =>
    cases hexited : t.exited with
    | true => exact .inl ⟨[], a :: as, t, rfl, tracked, hexited⟩
    | false =>
      cases turn m S a id with
      | kept u htracked next =>
        obtain rfl : u = t := Option.some.inj (htracked.symm.trans tracked)
        rcases ih next lost with ⟨before, after, v, rfl, hv, hrecorded⟩ | hkilled
        · exact .inl ⟨a :: before, after, v, rfl, hv, hrecorded⟩
        · rw [Task.process_hearAll] at hkilled
          exact .inr (List.mem_append_right _ hkilled)
      | begun p stdout stderr untracked new issued next => exact absurd (untracked.symm.trans tracked) nofun
      | absent next => exact .inr (List.mem_append_left _ (kill_mem_asks tracked hexited next))

end Supervision

/-! ## Calls side by side -/

/-- A supervisor with the shutdowns that are under way on it. -/
structure SharedSupervisor (μ : Type) where
  supervision : Supervision μ
  /-- The shutdowns in the order of their calls: the loop that each waits for; none for one that has returned. -/
  shutdowns : List (Option Nat) := []

namespace SharedSupervisor

/-- What may happen next. -/
inductive Move (μ : Type) where
  | start
  | startTask (words : List String) (cwd : String) (stdout stderr : Sink)
  | remove (task : TaskId)
  | look (task : TaskId)
  /-- A caller shuts the supervisor down; that goes up to the wait for the loop in charge, or to the end without one. -/
  | shutdown
  /-- The wait of a shutdown is over, because its loop has ended or the time is up, and it goes up to its end. -/
  | resume (shutdown : Nat)
  /-- A loop that runs asks after tasks. -/
  | scan (loop : Nat) (answers : List (TaskId × Liveness))
  /-- A loop that has been told to end does so. -/
  | heed (loop : Nat)
  /-- A loop fails. -/
  | fail (loop : Nat)
  | drain (task : TaskId) (out err : List UInt8)
  /-- The machine changes by itself. -/
  | elsewhere (world : μ)

def Move.isCall : Move μ → Bool
  | .start | .startTask .. | .remove _ | .shutdown | .resume _ => true
  | .look _ | .scan .. | .heed _ | .fail _ | .drain .. | .elsewhere _ => false

def new (config : SupervisorConfig) (r : Reporter) (w : μ) : SharedSupervisor μ := { supervision := .new config r w }

def supervisor (S : SharedSupervisor μ) : Supervisor := S.supervision.supervisor

/-- The loop that a shutdown waits for. -/
def awaited? (S : SharedSupervisor μ) (j : Nat) : Option Nat := S.shutdowns[j]?.join

/-- The acts that a move consists of; none, if nobody can make it. -/
def acts (S : SharedSupervisor μ) : Move μ → List (Act μ)
  | .start => [.startLoop]
  | .startTask words cwd stdout stderr => [.startTask words cwd stdout stderr]
  | .remove id => [.remove id]
  | .look id => [.look id]
  | .shutdown => if S.supervisor.current.isSome then [.beginShutdown] else [.beginShutdown, .finishShutdown]
  | .resume j => if (S.awaited? j).isSome then [.finishShutdown] else []
  | .scan i answers => if S.supervisor.runs i then [.scan answers] else []
  | .heed i => if S.supervisor.told i then [.endLoop i] else []
  | .fail i => [.endLoop i]
  | .drain id out err => [.drain id out err]
  | .elsewhere world => [.elsewhere world]

def nextShutdowns (S : SharedSupervisor μ) : Move μ → List (Option Nat)
  | .shutdown => S.shutdowns ++ [S.supervisor.current]
  | .resume j => S.shutdowns.set j none
  | .start | .startTask .. | .remove _ | .look _ | .scan .. | .heed _ | .fail _ | .drain .. | .elsewhere _ =>
    S.shutdowns

/-- What is left by a move. -/
def move (m : Machine μ) (S : SharedSupervisor μ) (v : Move μ) : SharedSupervisor μ :=
  ⟨S.supervision.run m (S.acts v), S.nextShutdowns v⟩

/-- What is left by moves. -/
def run (m : Machine μ) (S : SharedSupervisor μ) (vs : List (Move μ)) : SharedSupervisor μ := vs.foldl (move m) S

/-- The acts that moves consist of, in order. -/
def allActs (m : Machine μ) : SharedSupervisor μ → List (Move μ) → List (Act μ)
  | _, [] => []
  | S, v :: vs => S.acts v ++ allActs m (S.move m v) vs

/-- What moves ask of the machine, in order. -/
def asks (m : Machine μ) (S : SharedSupervisor μ) (vs : List (Move μ)) : List Operation :=
  S.supervision.collect m (Supervision.asks m) (S.allActs m vs)

variable {m : Machine μ} {S : SharedSupervisor μ}

theorem run_append (m : Machine μ) (S : SharedSupervisor μ) (vs us : List (Move μ)) :
    S.run m (vs ++ us) = (S.run m vs).run m us := List.foldl_append

theorem allActs_append (m : Machine μ) (S : SharedSupervisor μ) (vs us : List (Move μ)) :
    S.allActs m (vs ++ us) = S.allActs m vs ++ (S.run m vs).allActs m us := by
  induction vs generalizing S with
  | nil => rfl
  | cons v vs ih =>
    show S.acts v ++ (S.move m v).allActs m (vs ++ us) = _
    rw [ih, ← List.append_assoc]
    rfl

theorem supervision_run (m : Machine μ) (S : SharedSupervisor μ) (vs : List (Move μ)) :
    (S.run m vs).supervision = S.supervision.run m (S.allActs m vs) := by
  induction vs generalizing S with
  | nil => rfl
  | cons v vs ih =>
    show ((S.move m v).run m vs).supervision = S.supervision.run m (S.acts v ++ (S.move m v).allActs m vs)
    rw [ih, Supervision.run_append]
    rfl

theorem start_of_mem_allActs {vs : List (Move μ)} (h : .startLoop ∈ S.allActs m vs) : .start ∈ vs := by
  induction vs generalizing S with
  | nil => cases h
  | cons v vs ih =>
    rcases List.mem_append.1 (show Act.startLoop ∈ S.acts v ++ (S.move m v).allActs m vs from h) with hfirst | hrest
    · cases v with
      | start => exact List.mem_cons_self
      | shutdown | resume | scan | heed =>
        dsimp only [acts] at hfirst
        split at hfirst <;> simp at hfirst
      | startTask | remove | look | fail | drain | elsewhere => simp [acts] at hfirst
    · exact List.mem_cons_of_mem _ (ih hrest)

theorem nextShutdowns_of_not_call {v : Move μ} (h : v.isCall = false) : S.nextShutdowns v = S.shutdowns := by
  cases v with
  | start | startTask | remove | shutdown | resume => cases h
  | look | scan | heed | fail | drain | elsewhere => rfl

theorem shutdowns_run {vs : List (Move μ)} (h : ∀ v ∈ vs, v.isCall = false) :
    (S.run m vs).shutdowns = S.shutdowns := by
  induction vs generalizing S with
  | nil => rfl
  | cons v vs ih =>
    refine (ih fun u hu => h u (List.mem_cons_of_mem _ hu)).trans ?_
    exact nextShutdowns_of_not_call (h v List.mem_cons_self)

/-! ## Shutdowns from call to return -/

/-- `span` is all that happens from the call of a shutdown to its return, and `during` what comes in between. -/
inductive Shuts (m : Machine μ) (S : SharedSupervisor μ) : (during span : List (Move μ)) → Prop
  /-- No loop is in charge, and there is nothing to wait for. -/
  | atOnce (vacant : S.supervisor.current = none) : Shuts m S [] [.shutdown]
  /-- The shutdown still waits when it is resumed. -/
  | later (during : List (Move μ))
    (waits : ((S.run m (.shutdown :: during)).awaited? S.shutdowns.length).isSome = true) :
    Shuts m S during (.shutdown :: (during ++ [.resume S.shutdowns.length]))

/-- No other call overlaps a shutdown: no other shutdown is under way at its call, and nobody calls before its return. -/
structure Alone (S : SharedSupervisor μ) (during : List (Move μ)) : Prop where
  first : ∀ j, S.awaited? j = none
  quiet : ∀ v ∈ during, v.isCall = false

theorem Shuts.exists_acts {during span : List (Move μ)} (h : S.Shuts m during span) :
    ∃ between, S.allActs m span = .beginShutdown :: (between ++ [.finishShutdown]) ∧
      (.start ∉ during → .startLoop ∉ between) := by
  cases h with
  | atOnce vacant =>
    refine ⟨[], ?_, fun _ => List.not_mem_nil⟩
    show (if S.supervisor.current.isSome then _ else _) ++ [] = _
    rw [vacant]
    rfl
  | later during waits =>
    have hlast : (S.run m (.shutdown :: during)).allActs m [.resume S.shutdowns.length] = [.finishShutdown] := by
      show (if ((S.run m (.shutdown :: during)).awaited? S.shutdowns.length).isSome then _ else _) ++ [] = _
      rw [waits]
      rfl
    have hspan : S.allActs m (.shutdown :: (during ++ [.resume S.shutdowns.length])) =
        S.acts .shutdown ++ (S.move m .shutdown).allActs m during ++ [.finishShutdown] := by
      rw [← hlast]
      exact allActs_append m S (.shutdown :: during) _
    rw [hspan]
    have hstart : .start ∉ during → .startLoop ∉ (S.move m .shutdown).allActs m during := mt start_of_mem_allActs
    unfold acts
    dsimp only
    split
    · exact ⟨_, rfl, hstart⟩
    · exact ⟨.finishShutdown :: (S.move m .shutdown).allActs m during, rfl, by simpa using hstart⟩

/-! ## What a shutdown leaves -/

section

variable {during span : List (Move μ)}

theorem Shuts.idle (h : S.Shuts m during span) : (S.run m span).supervisor.tasks = [] ∧
    (.start ∉ during → (S.run m span).supervisor.current = none) := by
  obtain ⟨between, hacts, hstart⟩ := h.exists_acts
  have hrun : (S.run m span).supervision = (S.supervision.run m (.beginShutdown :: between)).act m .finishShutdown := by
    rw [supervision_run, hacts, ← List.cons_append, Supervision.run_append]
    rfl
  rw [supervisor, hrun]
  refine ⟨rfl, fun quiet => ?_⟩
  exact Supervision.current_run (S := S.supervision.act m .beginShutdown) (hstart quiet)
    S.supervisor.current_beginShutdown

/-- **A shutdown stops tracking each task, and it has been killed then** unless its exit was recorded. -/
theorem Shuts.kill_or_recorded (h : S.Shuts m during span) {id : TaskId} {t : Task}
    (tracked : S.supervision.task? id = some t) : (S.run m span).supervision.task? id = none ∧
      (S.supervision.Recorded m (S.allActs m span) id ∨ .kill t.process ∈ S.asks m span) := by
  have hlost : (S.run m span).supervision.task? id = none := by
    show ((S.run m span).supervisor.tasks.find? (·.1 = id)).map (·.2) = none
    rw [h.idle.1]
    rfl
  refine ⟨hlost, Supervision.kill_or_recorded tracked ?_⟩
  rw [← supervision_run]
  exact hlost

theorem Shuts.told_of_runs (h : S.Shuts m during span) (commanded : S.supervisor.Commanded) (quiet : .start ∉ during)
    {i : Nat} (runs : (S.run m span).supervisor.runs i = true) :
    S.supervisor.current = some i ∨ S.supervisor.told i = true := by
  obtain ⟨between, hacts, hstart⟩ := h.exists_acts
  have hstartless : .startLoop ∉ S.allActs m span := by simpa [hacts] using hstart quiet
  have hran : S.supervisor.runs i = true := by
    refine Supervision.runs_run (m := m) hstartless ?_
    rw [← supervision_run]
    exact runs
  cases htold : S.supervisor.told i with
  | true => exact .inr rfl
  | false => exact .inl (commanded.alone i (by rw [Supervisor.isActive, hran, htold]; rfl))

theorem Shuts.awaited?_eq_none (h : S.Shuts m during span) (alone : S.Alone during)
    (j : Nat) : (S.run m span).awaited? j = none := by
  have hold : j < S.shutdowns.length → S.shutdowns[j]?.join = none := fun _ => alone.first j
  cases h with
  | atOnce vacant =>
    show (S.shutdowns ++ [S.supervisor.current])[j]?.join = none
    rw [List.getElem?_append, vacant]
    split
    · next hj => exact hold hj
    · cases j - S.shutdowns.length <;> rfl
  | later during waits =>
    have hshutdowns : (S.run m (.shutdown :: (during ++ [.resume S.shutdowns.length]))).shutdowns =
        (S.shutdowns ++ [S.supervisor.current]).set S.shutdowns.length none := by
      have hrest := run_append m (S.move m .shutdown) during [.resume S.shutdowns.length]
      refine (congrArg (·.shutdowns) hrest).trans ?_
      exact congrArg (·.set S.shutdowns.length none) (shutdowns_run alone.quiet)
    rw [awaited?, hshutdowns, List.getElem?_set, List.getElem?_append]
    split
    · split <;> rfl
    · split
      · next hj => exact hold hj
      · next hne hj =>
        have hlate : j - S.shutdowns.length ≠ 0 := by omega
        cases hsub : j - S.shutdowns.length with
        | zero => exact absurd hsub hlate
        | succ n => rfl

end

/-! ## The result -/

theorem commanded_run_new (m : Machine μ) (config : SupervisorConfig) (r : Reporter) (w : μ) (vs : List (Move μ)) :
    ((new config r w).run m vs).supervisor.Commanded := by
  rw [supervisor, supervision_run]
  exact Supervision.commanded_run (Supervisor.commanded_new config) _

theorem config_run_new (m : Machine μ) (config : SupervisorConfig) (r : Reporter) (w : μ) (vs : List (Move μ)) :
    ((new config r w).run m vs).supervisor.config = config := by
  rw [supervisor, supervision_run, Supervision.config_run]
  rfl

/-- **One monitoring loop at most, and a shutdown leaves nothing behind.** Whatever calls have been made, at every
moment: no two loops are active, and the supervisor says that it monitors exactly if a loop is active, which is then the
one in charge. When a shutdown returns, nothing is tracked, and each task that was tracked at its call has been killed
unless its exit was recorded in time. If no other call has overlapped it, no shutdown is under way then and no loop is
active: one that still runs was told to end, by this shutdown or before. From then on the supervisor works as a new
one. -/
theorem shutdown_leaves_nothing (m : Machine μ) (config : SupervisorConfig) (r : Reporter) (w : μ)
    (vs : List (Move μ)) :
    let S := (new config r w).run m vs
    (∀ i j, S.supervisor.isActive i = true → S.supervisor.isActive j = true → i = j) ∧
    (S.supervisor.isMonitoring = true ↔ ∃ i, S.supervisor.current = some i ∧ S.supervisor.isActive i = true) ∧
    ∀ during span, S.Shuts m during span →
      let S' := S.run m span
      let k := S'.supervisor.issued
      let n := S'.supervisor.loops.length
      S'.supervisor.tasks = [] ∧
      (∀ id t, S.supervision.task? id = some t → S'.supervision.task? id = none ∧
        (S.supervision.Recorded m (S.allActs m span) id ∨ .kill t.process ∈ S.asks m span)) ∧
      (S.Alone during →
        S'.supervisor.isMonitoring = false ∧ (∀ j, S'.awaited? j = none) ∧
        (∀ i, S'.supervisor.isActive i = false ∧ (S'.supervisor.runs i = true →
          S'.supervisor.told i = true ∧ (S.supervisor.current = some i ∨ S.supervisor.told i = true))) ∧
        ∀ r' as, S'.supervision.shown m (as.map (·.renumber k n)) =
          ((Supervision.new config r' S'.supervision.world).shown m as).map (·.renumber k)) := by
  intro S
  have hcommanded : S.supervisor.Commanded := commanded_run_new m config r w vs
  refine ⟨fun i j => hcommanded.unique, hcommanded.isMonitoring_iff, fun during span shuts => ?_⟩
  intro S' k n
  refine ⟨shuts.idle.1, fun id t => shuts.kill_or_recorded, fun alone => ?_⟩
  have hquiet : .start ∉ during := fun h => absurd (alone.quiet _ h) nofun
  have hvacant : S'.supervisor.current = none := shuts.idle.2 hquiet
  have hwhole : S' = (new config r w).run m (vs ++ span) := (run_append m _ vs span).symm
  have hcommanded' : S'.supervisor.Commanded := by
    rw [hwhole]
    exact commanded_run_new m config r w (vs ++ span)
  have hconfig : S'.supervisor.config = config := by
    rw [hwhole]
    exact config_run_new m config r w (vs ++ span)
  refine ⟨?_, shuts.awaited?_eq_none alone, fun i => ?_, fun r' as => ?_⟩
  · rw [Supervisor.isMonitoring_eq, hvacant]
    rfl
  · have hinactive := hcommanded'.not_active hvacant i
    refine ⟨hinactive, fun hruns => ⟨?_, shuts.told_of_runs hcommanded hquiet hruns⟩⟩
    rwa [Supervisor.isActive, hruns, Bool.true_and, Bool.not_eq_false'] at hinactive
  · rw [← hconfig]
    exact Supervision.shown_of_idle shuts.idle.1 hvacant m r' as

/-- A loop outlasts the shutdown that told it to end, and a new one is started meanwhile. The second shutdown is alone,
and its loop ends after it has seen one of two tasks end. -/
theorem shutdown_leaves_nothing_beside_old_loop :
    let m := Machine.obliging
    let vs : List (Move Unit) := [.start, .startTask ["sleep"] "/" .discard .discard, .shutdown, .start, .resume 0,
      .startTask ["sleep"] "/" .discard .discard, .startTask ["true"] "/" .discard .discard]
    let during : List (Move Unit) := [.scan 1 [(.issued 2, .exited 0)], .heed 1]
    let span : List (Move Unit) := .shutdown :: (during ++ [.resume 1])
    let as : List (Act Unit) := [.startLoop, .startTask ["true"] "/" .discard .discard, .look (.issued 0)]
    let later : List (Act Unit) := [.startLoop, .startTask ["true"] "/" .discard .discard, .look (.issued 3)]
    let S := (new {} {} ()).run m vs
    let S' := S.run m span
    S.Shuts m during span ∧ S.Alone during ∧ S.supervisor.isActive 1 = true ∧ S.supervisor.taskCount = 2 ∧
      S'.supervisor.tasks = [] ∧ S.asks m span = [.kill 0] ∧ S'.supervisor.runs 0 = true ∧
      (∀ i, S'.supervisor.isActive i = false) ∧ S'.supervisor.isMonitoring = false ∧
      S'.supervision.shown m later = ((Supervision.new {} {} ()).shown m as).map (·.renumber 3) := by
  intro m vs during span as later S S'
  have shuts : S.Shuts m during span := .later during (by decide)
  have alone : S.Alone during := by
    refine ⟨fun j => ?_, by decide⟩
    show ([none] : List (Option Nat))[j]?.join = none
    cases j <;> rfl
  obtain ⟨-, -, hshutdown⟩ := shutdown_leaves_nothing m {} {} () vs
  obtain ⟨hidle, -, halone⟩ := hshutdown during span shuts
  obtain ⟨hmonitoring, -, hloops, hshown⟩ := halone alone
  have hissued : S'.supervisor.issued = 3 := by decide
  have hlength : S'.supervisor.loops.length = 2 := by decide
  have hlater : as.map (·.renumber 3 2) = later := rfl
  have hworks := hshown {} as
  rw [hissued, hlength, hlater, Subsingleton.elim S'.supervision.world ()] at hworks
  exact ⟨shuts, alone, by decide, by decide, hidle, by decide, by decide, fun i => (hloops i).1, hmonitoring, hworks⟩

end SharedSupervisor

end JobLaunch
