import JobLaunch.Proofs.Supervision

/-!
# One monitoring loop in charge

Loops are started, fail or heed that they were told to end, and shutdowns take the one in charge out of charge before it
has ended, so that old and new loops may run side by side.

* `Supervisor.runs`, `Supervisor.told` : a loop has not ended; it has been told to end;
* `Supervisor.isActive` : it runs without having been told to end;
* `Supervisor.Commanded` : a loop is active only if it is in charge, and the one in charge has not been told to end;
* `Supervision.commanded_act`, `Supervision.commanded_run` : every act keeps it so;
* `Supervision.current_run`, `Supervision.runs_run` : without a start no loop comes into charge, and none begins to run.
-/

namespace JobLaunch

namespace Supervisor

variable {s : Supervisor}

/-! ## Loops -/

/-- Does the loop with a number run? -/
def runs (s : Supervisor) (i : Nat) : Bool := s.loops[i]?.any (!·.ended)

/-- Has the loop been told to end? -/
def told (s : Supervisor) (i : Nat) : Bool := s.loops[i]?.any (·.cancelled)

/-- Does the loop run without having been told to end? -/
def isActive (s : Supervisor) (i : Nat) : Bool := s.runs i && !s.told i

theorem isMonitoring_eq (s : Supervisor) : s.isMonitoring = s.current.any s.runs := by
  unfold isMonitoring
  cases s.current <;> rfl

theorem runs_congr {t : Supervisor} (h : s.loops = t.loops) (i : Nat) : s.runs i = t.runs i := by
  unfold runs
  rw [h]

theorem told_congr {t : Supervisor} (h : s.loops = t.loops) (i : Nat) : s.told i = t.told i := by
  unfold told
  rw [h]

theorem runs_endLoop (s : Supervisor) (k i : Nat) : (s.endLoop k).runs i = (s.runs i && !decide (k = i)) := by
  unfold runs endLoop
  rw [List.getElem?_modify]
  cases s.loops[i]? with
  | none => rfl
  | some l => by_cases hk : k = i <;> simp [hk]

theorem told_endLoop (s : Supervisor) (k i : Nat) : (s.endLoop k).told i = s.told i := by
  unfold told endLoop
  rw [List.getElem?_modify]
  cases s.loops[i]? with
  | none => rfl
  | some l => by_cases hk : k = i <;> simp [hk]

theorem current_beginShutdown (s : Supervisor) : s.beginShutdown.2.current = none := by
  unfold beginShutdown
  cases hc : s.current with
  | none => exact hc
  | some i => rfl

theorem runs_beginShutdown (s : Supervisor) (i : Nat) : s.beginShutdown.2.runs i = s.runs i := by
  unfold beginShutdown
  cases s.current with
  | none => rfl
  | some k =>
    unfold runs
    dsimp only
    rw [List.getElem?_modify]
    cases s.loops[i]? with
    | none => rfl
    | some l => by_cases hk : k = i <;> simp [hk]

theorem told_beginShutdown (s : Supervisor) (i : Nat) :
    s.beginShutdown.2.told i = (s.told i || (decide (s.current = some i) && s.loops[i]?.isSome)) := by
  unfold beginShutdown
  cases s.current with
  | none => simp
  | some k =>
    unfold told
    dsimp only
    rw [List.getElem?_modify]
    cases s.loops[i]? with
    | none => simp
    | some l => by_cases hk : k = i <;> simp [hk]

theorem start_of_monitoring (h : s.isMonitoring = true) : s.start = s := if_pos h

theorem start_of_not_monitoring (h : s.isMonitoring = false) :
    s.start = { s with loops := s.loops ++ [{}], current := some s.loops.length } := by
  unfold start
  rw [h, if_neg Bool.false_ne_true]

theorem isActive_of_append {l : MonitorLoop} {i : Nat} {c : Option Nat}
    (h : ({ s with loops := s.loops ++ [l], current := c } : Supervisor).isActive i = true) :
    s.isActive i = true ∨ i = s.loops.length := by
  unfold isActive runs told at h ⊢
  dsimp only at h
  rw [List.getElem?_append] at h
  split at h
  · exact .inl h
  · next late =>
    refine .inr ?_
    have hi : i - s.loops.length = 0 := by
      cases hsub : i - s.loops.length with
      | zero => rfl
      | succ n =>
        rw [hsub] at h
        cases h
    omega

/-! ## The loop in charge -/

/-- No loop is active but the one in charge, and that has not been told to end. -/
structure Commanded (s : Supervisor) : Prop where
  untold : ∀ i ∈ s.current, s.told i = false
  alone : ∀ i, s.isActive i = true → s.current = some i

theorem commanded_new (config : SupervisorConfig) : Commanded { config } := ⟨nofun, nofun⟩

namespace Commanded

theorem of_same {t : Supervisor} (h : s.Commanded) (loops : t.loops = s.loops) (current : t.current = s.current) :
    t.Commanded := by
  refine ⟨fun i hi => ?_, fun i hi => ?_⟩
  · rw [told_congr loops]
    exact h.untold i (current ▸ hi)
  · rw [isActive, runs_congr loops, told_congr loops] at hi
    exact current.trans (h.alone i hi)

theorem unique (h : s.Commanded) {i j : Nat} (hi : s.isActive i = true) (hj : s.isActive j = true) : i = j :=
  Option.some.inj ((h.alone i hi).symm.trans (h.alone j hj))

theorem not_active (h : s.Commanded) (vacant : s.current = none) (i : Nat) : s.isActive i = false :=
  Bool.eq_false_iff.2 fun hi => absurd (vacant.symm.trans (h.alone i hi)) nofun

/-- **The supervisor says that it monitors exactly if a loop is active**, which is then the one in charge. -/
theorem isMonitoring_iff (h : s.Commanded) :
    s.isMonitoring = true ↔ ∃ i, s.current = some i ∧ s.isActive i = true := by
  rw [isMonitoring_eq]
  constructor
  · intro hany
    obtain ⟨i, hi, hruns⟩ := (Option.any_eq_true _ _).1 hany
    exact ⟨i, hi, Bool.and_eq_true_iff.2 ⟨hruns, by rw [h.untold i hi, Bool.not_false]⟩⟩
  · rintro ⟨i, hi, hactive⟩
    rw [hi]
    exact (Bool.and_eq_true_iff.1 hactive).1

theorem start (h : s.Commanded) : s.start.Commanded := by
  cases hm : s.isMonitoring with
  | true => rwa [start_of_monitoring hm]
  | false =>
    rw [start_of_not_monitoring hm]
    refine ⟨fun i hi => ?_, fun i hi => ?_⟩
    · obtain rfl : s.loops.length = i := Option.some.inj hi
      simp [told]
    · -- an old loop that is active would be in charge, and the supervisor would monitor
      rcases isActive_of_append hi with old | rfl
      · have hmonitoring := h.isMonitoring_iff.2 ⟨i, h.alone i old, old⟩
        rw [hm] at hmonitoring
        cases hmonitoring
      · rfl

theorem endLoop (h : s.Commanded) (k : Nat) : (s.endLoop k).Commanded := by
  refine ⟨fun i hi => ?_, fun i hi => ?_⟩
  · rw [told_endLoop]
    exact h.untold i hi
  · rw [isActive, runs_endLoop, told_endLoop, Bool.and_right_comm, Bool.and_eq_true] at hi
    exact h.alone i hi.1

theorem beginShutdown (h : s.Commanded) : s.beginShutdown.2.Commanded := by
  have vacant := s.current_beginShutdown
  refine ⟨fun i hi => ?_, fun i hi => ?_⟩
  · rw [vacant] at hi
    cases hi
  · rw [isActive, runs_beginShutdown, told_beginShutdown, Bool.not_or, ← Bool.and_assoc, Bool.and_eq_true] at hi
    have hcharge : s.current = some i := h.alone i hi.1
    have hknown : s.loops[i]?.isSome = true := by
      cases hl : s.loops[i]? with
      | some l => rfl
      | none =>
        have hruns := (Bool.and_eq_true_iff.1 hi.1).1
        rw [runs, hl] at hruns
        cases hruns
    rw [hcharge, hknown] at hi
    simp at hi

end Commanded

/-! ## Acts about tasks -/

theorem ask_eq (s : Supervisor) (id : TaskId) (answer : Liveness) :
    (s.ask id answer).1 = { s with tasks := (s.ask id answer).1.tasks } := by
  unfold ask
  split
  · split <;> rfl
  · rfl

theorem askAll_eq (s : Supervisor) (answers : List (TaskId × Liveness)) :
    (s.askAll answers).1 = { s with tasks := (s.askAll answers).1.tasks } := by
  induction answers generalizing s with
  | nil => rfl
  | cons a rest ih =>
    refine (ih (s.ask a.1 a.2).1).trans ?_
    exact congrArg (fun t : Supervisor => { t with tasks := ((s.ask a.1 a.2).1.askAll rest).1.tasks })
      (ask_eq s a.1 a.2)

theorem removeTask_eq (s : Supervisor) (id : TaskId) :
    (s.removeTask id).2.2 = { s with tasks := (s.removeTask id).2.2.tasks } := by
  unfold removeTask
  split <;> rfl

end Supervisor

def Act.turnsLoops {μ : Type} : Act μ → Bool
  | .startLoop | .endLoop _ | .beginShutdown => true
  | .startTask .. | .scan _ | .drain .. | .look _ | .remove _ | .finishShutdown | .elsewhere _ => false

namespace Supervision

variable {μ : Type} {m : Machine μ} {S : Supervision μ}

theorem supervisor_act (m : Machine μ) (S : Supervision μ) {a : Act μ} (tasks : a.turnsLoops = false) :
    (S.act m a).supervisor = { S.supervisor with
      tasks := (S.act m a).supervisor.tasks
      issued := (S.act m a).supervisor.issued } := by
  cases a with
  | startTask words cwd stdout stderr =>
    rcases Supervisor.startTask_cases m S.supervisor words cwd stdout stderr S.world with h | ⟨p, h⟩
    · rw [show (S.act m (.startTask words cwd stdout stderr)).supervisor = S.supervisor from h]
    · rw [show (S.act m (.startTask words cwd stdout stderr)).supervisor = _ from h]
      rfl
  | scan answers =>
    refine (S.supervisor.askAll_eq answers).trans ?_
    rw [← Supervisor.issued_askAll S.supervisor answers]
    rfl
  | remove id =>
    refine (S.supervisor.removeTask_eq id).trans ?_
    rw [← Supervisor.issued_removeTask S.supervisor id]
    rfl
  | drain | look | finishShutdown | elsewhere => rfl
  | startLoop | endLoop | beginShutdown => cases tasks

theorem config_act (m : Machine μ) (S : Supervision μ) (a : Act μ) :
    (S.act m a).supervisor.config = S.supervisor.config := by
  cases htasks : a.turnsLoops with
  | false => rw [supervisor_act m S htasks]
  | true =>
    cases a with
    | startLoop =>
      show S.supervisor.start.config = _
      unfold Supervisor.start
      split <;> rfl
    | endLoop i => rfl
    | beginShutdown =>
      show S.supervisor.beginShutdown.2.config = _
      unfold Supervisor.beginShutdown
      split <;> rfl
    | startTask | scan | drain | look | remove | finishShutdown | elsewhere => cases htasks

theorem config_run (m : Machine μ) (S : Supervision μ) (as : List (Act μ)) :
    (S.run m as).supervisor.config = S.supervisor.config := by
  induction as generalizing S with
  | nil => rfl
  | cons a as ih => exact (ih (S.act m a)).trans (config_act m S a)

/-! ## Runs -/

/-- **Every act leaves no loop active but the one in charge.** -/
theorem commanded_act (h : S.supervisor.Commanded) (a : Act μ) : (S.act m a).supervisor.Commanded := by
  cases htasks : a.turnsLoops with
  | false =>
    have hsame := supervisor_act m S htasks
    exact h.of_same (congrArg (·.loops) hsame) (congrArg (·.current) hsame)
  | true =>
    cases a with
    | startLoop => exact h.start
    | endLoop i => exact h.endLoop i
    | beginShutdown => exact h.beginShutdown
    | startTask | scan | drain | look | remove | finishShutdown | elsewhere => cases htasks

theorem commanded_run (h : S.supervisor.Commanded) (as : List (Act μ)) : (S.run m as).supervisor.Commanded := by
  induction as generalizing S with
  | nil => exact h
  | cons a as ih => exact ih (commanded_act h a)

theorem current_act {a : Act μ} (h : a ≠ .startLoop) (vacant : S.supervisor.current = none) :
    (S.act m a).supervisor.current = none := by
  cases htasks : a.turnsLoops with
  | false => rw [supervisor_act m S htasks, vacant]
  | true =>
    cases a with
    | startLoop => exact absurd rfl h
    | endLoop i => exact vacant
    | beginShutdown => exact S.supervisor.current_beginShutdown
    | startTask | scan | drain | look | remove | finishShutdown | elsewhere => cases htasks

theorem current_run {as : List (Act μ)} (h : .startLoop ∉ as) (vacant : S.supervisor.current = none) :
    (S.run m as).supervisor.current = none := by
  induction as generalizing S with
  | nil => exact vacant
  | cons a as ih =>
    rw [List.mem_cons, not_or] at h
    exact ih h.2 (current_act (Ne.symm h.1) vacant)

theorem runs_act {a : Act μ} (h : a ≠ .startLoop) {i : Nat} (runs : (S.act m a).supervisor.runs i = true) :
    S.supervisor.runs i = true := by
  cases htasks : a.turnsLoops with
  | false => rwa [supervisor_act m S htasks] at runs
  | true =>
    cases a with
    | startLoop => exact absurd rfl h
    | endLoop k =>
      rw [show (S.act m (.endLoop k)).supervisor = S.supervisor.endLoop k from rfl, Supervisor.runs_endLoop,
        Bool.and_eq_true] at runs
      exact runs.1
    | beginShutdown =>
      rwa [show (S.act m .beginShutdown).supervisor = S.supervisor.beginShutdown.2 from rfl,
        Supervisor.runs_beginShutdown] at runs
    | startTask | scan | drain | look | remove | finishShutdown | elsewhere => cases htasks

theorem runs_run {as : List (Act μ)} (h : .startLoop ∉ as) {i : Nat} (runs : (S.run m as).supervisor.runs i = true) :
    S.supervisor.runs i = true := by
  induction as generalizing S with
  | nil => exact runs
  | cons a as ih =>
    rw [List.mem_cons, not_or] at h
    exact runs_act (Ne.symm h.1) (ih h.2 runs)

end Supervision

end JobLaunch
