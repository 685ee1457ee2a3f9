import JobLaunch.Proofs.Holdings
import JobLaunch.Proofs.Reservation

/-!
# Every task has an owner

* `Holdings.Owned` : each tracked task belongs to one entry; `Holdings.Kept` : each task of an entry is tracked;
* `Holdings.Owned.transfer`, `Holdings.Kept.transfer` : what a call does keeps both;
* `Traffic.orderly` : one call at a time; `Traffic.orderly_induction`;
* `Traffic.InOrder` : what holds between the moves of orderly calls, and `Traffic.InOrder.move` : every move keeps it;
* `Traffic.tasks_have_owners` : both over every run.
-/

namespace JobLaunch

/-! ## Owners -/

/-- A managed entry has a job id alone, an unmanaged one a task alone. -/
def Entry.Proper (e : Entry) : Prop :=
  if e.managed then e.stepId ≠ none ∧ e.taskId = none else e.taskId ≠ none ∧ e.stepId = none

namespace Holdings

variable {h h' : Holdings}

/-- The task belongs to the entry of a name. -/
def Owns (h : Holdings) (name : String) (id : TaskId) : Prop := ∃ e, h.bare? name = some e ∧ e.taskId = some id

/-- Each tracked task belongs to one entry. -/
structure Owned (h : Holdings) : Prop where
  proper : ∀ n e, h.bare? n = some e → e.Proper
  distinct : ∀ n n' id, h.Owns n id → h.Owns n' id → n = n'
  owner : ∀ id, h.tracks id = true → ∃ n, h.Owns n id
  used : ∀ n id, h.Owns n id → ∃ k < h.issued, id = .issued k

/-- Each task of an entry is tracked. -/
def Kept (h : Holdings) : Prop := ∀ n id, h.Owns n id → h.tracks id = true

theorem owns_register {name n : String} {e : Entry} {id : TaskId} :
    (h.register name e).Owns n id ↔ n = name ∧ e.taskId = some id ∨ n ≠ name ∧ h.Owns n id := by
  unfold Owns register
  by_cases hn : n = name
  · simp [hn]
  · simp [hn]

theorem Owns.register {name n : String} {id : TaskId} (owns : h.Owns n id) (free : h.bare? name = none) (e : Entry) :
    (h.register name e).Owns n id := by
  refine owns_register.2 (.inr ⟨?_, owns⟩)
  rintro rfl
  obtain ⟨e', he', -⟩ := owns
  rw [free] at he'
  cases he'

theorem owns_erase {name n : String} {id : TaskId} : (h.erase name).Owns n id ↔ n ≠ name ∧ h.Owns n id := by
  unfold Owns erase
  by_cases hn : n = name
  · simp [hn]
  · simp [hn]

theorem tracks_untrack {task? : Option TaskId} {id : TaskId} :
    (h.untrack task?).tracks id = true ↔ h.tracks id = true ∧ task? ≠ some id := by
  simp [untrack]

theorem tracks_track {id : TaskId} : h.track.tracks id = true ↔ h.tracks id = true ∨ id = .issued h.issued := by
  simp [track]

theorem Owned.bare (owned : h.Owned) {n : String} {e : Entry} (found : h.bare? n = some e)
    (managed : e.managed = true) : e.taskId = none := by
  have hproper := owned.proper n e found
  rw [Entry.Proper, if_pos managed] at hproper
  exact hproper.2

theorem proper_register {name : String} {e : Entry} (proper : ∀ n e, h.bare? n = some e → e.Proper) (he : e.Proper) :
    ∀ n e', (h.register name e).bare? n = some e' → e'.Proper := by
  intro n e' hn
  replace hn : (if n = name then some e else h.bare? n) = some e' := hn
  split at hn
  · exact Option.some.inj hn ▸ he
  · exact proper n e' hn

/-- **What a call does keeps every task owned.** -/
theorem Owned.transfer (owned : h.Owned) (transfer : h.Transfer h') : h'.Owned := by
  cases transfer with
  | keeps => exact owned
  | submits name job free =>
    have hother : ∀ n id, (h.register name ⟨some job, none, true, none⟩).Owns n id → h.Owns n id := by
      intro n id hn
      rcases owns_register.1 hn with ⟨-, hid⟩ | ⟨-, hn⟩
      · cases hid
      · exact hn
    refine ⟨proper_register owned.proper ⟨Option.some_ne_none job, rfl⟩, fun n n' id hn hn' => ?_, fun id hid => ?_,
      fun n id hn => owned.used n id (hother n id hn)⟩
    · exact owned.distinct n n' id (hother n id hn) (hother n' id hn')
    · obtain ⟨n, hn⟩ := owned.owner id hid
      exact ⟨n, hn.register free _⟩
  | starts name free =>
    have hnew : ∀ n id, (h.track.register name ⟨none, some (.issued h.issued), false, none⟩).Owns n id →
        n = name ∧ id = .issued h.issued ∨ n ≠ name ∧ h.Owns n id := by
      intro n id hn
      rcases owns_register.1 hn with ⟨hname, hid⟩ | hn
      · exact .inl ⟨hname, (Option.some.inj hid).symm⟩
      · exact .inr hn
    have hunused : ∀ n, ¬ h.Owns n (.issued h.issued) := by
      intro n hn
      obtain ⟨k, hk, heq⟩ := owned.used n _ hn
      cases heq
      exact Nat.lt_irrefl _ hk
    refine ⟨proper_register owned.proper ⟨Option.some_ne_none _, rfl⟩, fun n n' id hn hn' => ?_, fun id hid => ?_,
      fun n id hn => ?_⟩
    · rcases hnew n id hn with ⟨rfl, rfl⟩ | ⟨-, hold⟩
      · rcases hnew n' _ hn' with ⟨rfl, -⟩ | ⟨-, hold'⟩
        · rfl
        · exact absurd hold' (hunused n')
      · rcases hnew n' id hn' with ⟨rfl, rfl⟩ | ⟨-, hold'⟩
        · exact absurd hold (hunused n)
        · exact owned.distinct n n' id hold hold'
    · rcases tracks_track.1 hid with hid | rfl
      · obtain ⟨n, hn⟩ := owned.owner id hid
        exact ⟨n, Owns.register hn free _⟩
      · exact ⟨name, owns_register.2 (.inl ⟨rfl, rfl⟩)⟩
    · rcases hnew n id hn with ⟨-, rfl⟩ | ⟨-, hn⟩
      · exact ⟨h.issued, Nat.lt_succ_self _, rfl⟩
      · obtain ⟨k, hk, rfl⟩ := owned.used n id hn
        exact ⟨k, Nat.lt_succ_of_lt hk, rfl⟩
  | removes name e found =>
    have hother : ∀ n id, ((h.untrack e.taskId).erase name).Owns n id → n ≠ name ∧ h.Owns n id :=
      fun n id hn => owns_erase.1 hn
    refine ⟨fun n e' hn => ?_, fun n n' id hn hn' => ?_, fun id hid => ?_,
      fun n id hn => owned.used n id (hother n id hn).2⟩
    · replace hn : (if n = name then none else h.bare? n) = some e' := hn
      split at hn
      · cases hn
      · exact owned.proper n e' hn
    · exact owned.distinct n n' id (hother n id hn).2 (hother n' id hn').2
    · obtain ⟨htracked, hne⟩ := tracks_untrack.1 hid
      obtain ⟨n, hn⟩ := owned.owner id htracked
      refine ⟨n, owns_erase.2 ⟨?_, hn⟩⟩
      rintro rfl
      obtain ⟨e', he', hid'⟩ := hn
      rw [found] at he'
      cases he'
      exact hne hid'

/-- **What a call does keeps the tasks of entries tracked.** -/
theorem Kept.transfer (kept : h.Kept) (owned : h.Owned) (transfer : h.Transfer h') : h'.Kept := by
  cases transfer with
  | keeps => exact kept
  | submits name job free =>
    intro n id hn
    rcases owns_register.1 hn with ⟨-, hid⟩ | ⟨-, hn⟩
    · cases hid
    · exact kept n id hn
  | starts name free =>
    intro n id hn
    refine tracks_track.2 ?_
    rcases owns_register.1 hn with ⟨-, hid⟩ | ⟨-, hn⟩
    · exact .inr (Option.some.inj hid).symm
    · exact .inl (kept n id hn)
  | removes name e found =>
    intro n id hn
    obtain ⟨hne, hn⟩ := owns_erase.1 hn
    exact tracks_untrack.2 ⟨kept n id hn, fun hid => hne (owned.distinct n name id hn ⟨e, found, hid⟩)⟩

theorem Owned.clear (owned : h.Owned) : h.clear.Owned :=
  ⟨owned.proper, owned.distinct, fun _ hid => absurd hid Bool.false_ne_true, owned.used⟩

end Holdings

/-! ## One call at a time -/

def Move.isCall {μ : Type} : Move μ → Bool
  | .begin _ | .forget _ | .beginShutdown | .finishShutdown => true
  | .resume .. | .giveUp _ | .watch _ | .elsewhere _ => false

namespace Launcher

variable {μ : Type}

/-- The task belongs to the entry of a name. -/
def Owns (l : Launcher) (name : String) (id : TaskId) : Prop :=
  ∃ e, l.registry.get? name = some e ∧ e.taskId = some id

theorem owns_iff {l : Launcher} {name : String} {id : TaskId} : l.holdings.Owns name id ↔ l.Owns name id := by
  constructor
  · rintro ⟨e, he, hid⟩
    obtain ⟨e', he', rfl⟩ := Option.map_eq_some_iff.1 he
    exact ⟨e', he', hid⟩
  · rintro ⟨e, he, hid⟩
    exact ⟨e.bare, congrArg (Option.map Entry.bare) he, hid⟩

theorem transfer_forget (m : Machine μ) (l : Launcher) (name : String) (w : μ) :
    l.holdings.Transfer (forget m l name w).2.1.holdings := by
  unfold forget
  cases hget : l.registry.get? name with
  | none => exact .keeps
  | some e =>
    show l.holdings.Transfer (dropTask m { l with registry := l.registry.remove name } e w).2.1.holdings
    rw [holdings_dropTask, holdings_remove l name l.reporter]
    exact .removes name e.bare (congrArg (Option.map Entry.bare) hget)

theorem holdings_dropCall (m : Machine μ) (l : Launcher) (call : Call) (w : μ) :
    (dropCall m l call w).1.holdings = l.holdings := by
  cases call <;> rfl

theorem holdings_beginShutdown (l : Launcher) : l.beginShutdown.2.holdings = l.holdings := by
  refine Holdings.ext rfl (funext fun id => ?_) (Supervisor.issued_beginShutdown l.supervisor)
  exact congrArg Option.isSome (Supervisor.task?_congr (Supervisor.tasks_beginShutdown l.supervisor) id)

theorem holdings_finishShutdown (m : Machine μ) (l : Launcher) (w : μ) :
    (finishShutdown m l w).1.holdings = l.holdings.clear := rfl

end Launcher

namespace Traffic

open Launcher

variable {μ : Type} {m : Machine μ} {S : Traffic μ}

def idle (S : Traffic μ) : Bool := S.calls.all (·.isNone)

/-- A caller calls only while no call is under way. -/
def orderly (m : Machine μ) : Traffic μ → List (Move μ) → Bool
  | _, [] => true
  | S, v :: vs => (!v.isCall || S.idle) && orderly m (S.move m v) vs

theorem call?_of_idle (idle : S.idle = true) (i : Nat) : S.call? i = none := by
  unfold call?
  cases hi : S.calls[i]? with
  | none => rfl
  | some c => exact Option.isNone_iff_eq_none.1 (List.all_eq_true.1 idle c (List.mem_of_getElem? hi))

theorem orderly_induction {P : Traffic μ → Prop} {Q : Move μ → Prop}
    (step : ∀ S v, Q v → (v.isCall = true → S.idle = true) → P S → P (S.move m v)) {vs : List (Move μ)}
    (orderly : S.orderly m vs = true) (all : ∀ v ∈ vs, Q v) (start : P S) : P (S.run m vs) := by
  induction vs generalizing S with
  | nil => exact start
  | cons v vs ih =>
    obtain ⟨hfirst, hrest⟩ := Bool.and_eq_true_iff.1 orderly
    have hidle : v.isCall = true → S.idle = true := by
      intro hcall
      rw [hcall] at hfirst
      exact hfirst
    exact ih hrest (fun u hu => all u (List.mem_cons_of_mem v hu))
      (step S v (all v List.mem_cons_self) hidle start)

/-- What holds between the moves of orderly calls. -/
structure InOrder (S : Traffic μ) : Prop where
  exclusive : Exclusive S.launch? S.launcher.registry
  owned : S.launcher.holdings.Owned
  alone : ∀ i j call call', S.call? i = some call → S.call? j = some call' → i = j
  pending : S.Each (Call.Pending S.launcher.holdings)

/-- What a move leaves of calls and holdings. -/
structure Keeps (S S' : Traffic μ) : Prop where
  transfer : S.launcher.holdings.Transfer S'.launcher.holdings
  alone : ∀ i j call call', S'.call? i = some call → S'.call? j = some call' → i = j
  pending : S'.Each (Call.Pending S'.launcher.holdings)

theorem Keeps.of_single {S' : Traffic μ} (i : Nat) (single : ∀ j call, S'.call? j = some call → j = i)
    (transfer : S.launcher.holdings.Transfer S'.launcher.holdings)
    (pending : ∀ call, S'.call? i = some call → call.Pending S'.launcher.holdings) : Keeps S S' := by
  refine ⟨transfer, fun j k call call' hj hk => ?_, fun j call hj => ?_⟩
  · rw [single j call hj, single k call' hk]
  · rw [single j call hj] at hj
    exact pending call hj

theorem Keeps.of_eq {S' : Traffic μ} (h : S.InOrder) (calls : S'.calls = S.calls)
    (same : S'.launcher.holdings = S.launcher.holdings) : Keeps S S' := by
  have hcall : ∀ i, S'.call? i = S.call? i := fun i => congrArg (fun cs : List (Option Call) => cs[i]?.join) calls
  refine ⟨same ▸ .keeps, fun i j call call' hi hj => ?_, fun i call hi => ?_⟩
  · rw [hcall] at hi hj
    exact h.alone i j call call' hi hj
  · rw [hcall] at hi
    rw [same]
    exact h.pending i call hi

theorem InOrder.keeps_begin (h : S.InOrder) (idle : S.idle = true) (request : Request) :
    Keeps S (S.move m (.begin request)) := by
  have hserved := served_beginCall m S.launcher request S.world fun n e => h.owned.bare
  have hcall := call?_begin m S request
  refine .of_single S.calls.length (fun j call hj => ?_) hserved.transfer fun call hi => ?_
  · rw [hcall] at hj
    split at hj
    · assumption
    · rw [call?_of_idle idle] at hj
      cases hj
  · rw [hcall, if_pos rfl] at hi
    exact hserved.pending call (Progress.call?_eq_some.1 hi)

theorem InOrder.keeps_resume (h : S.InOrder) {i : Nat} {call : Call} (hi : S.call? i = some call) (reply : Reply) :
    Keeps S (S.move m (.resume i reply)) := by
  -- a launch that waits has its name, so that nothing is registered under it
  have hfree : ∀ r, call = .run r → S.launcher.registry.get? r.step.name = none := by
    rintro r rfl
    exact h.exclusive.unregistered ((h.exclusive.reserved_iff r.step.name).2 ⟨i, launch?_of_waits hi⟩)
  have hserved := served_resumeCall m S.launcher call reply S.world (fun n e => h.owned.bare) hfree
    (h.pending i call hi)
  have hcall := call?_resume m hi reply
  have hlauncher : (S.move m (.resume i reply)).launcher = (resumeCall m S.launcher call reply S.world).2.1 := by
    rw [move, turn_resume m hi]
  refine .of_single i (fun j call' hj => ?_) (hlauncher ▸ hserved.transfer) fun call' hi' => ?_
  · rw [hcall] at hj
    split at hj
    · assumption
    · exact h.alone j i call' call hj hi
  · rw [hcall, if_pos rfl] at hi'
    rw [hlauncher]
    exact hserved.pending call' (Progress.call?_eq_some.1 hi')

theorem InOrder.keeps_giveUp (h : S.InOrder) {i : Nat} {call : Call} (hi : S.call? i = some call) :
    Keeps S (S.move m (.giveUp i)) := by
  have hcall := call?_giveUp m hi
  have hsame : (S.move m (.giveUp i)).launcher.holdings = S.launcher.holdings := by
    rw [move, turn_giveUp m hi]
    exact holdings_dropCall m S.launcher call S.world
  refine .of_single i (fun j call' hj => ?_) (hsame ▸ .keeps) fun call' hi' => ?_
  · rw [hcall] at hj
    split at hj
    · assumption
    · exact h.alone j i call' call hj hi
  · rw [hcall, if_pos rfl] at hi'
    cases hi'

theorem keeps_forget (idle : S.idle = true) (name : String) : Keeps S (S.move m (.forget name)) := by
  have hnone : ∀ i, (S.move m (.forget name)).call? i = none := call?_of_idle idle
  refine .of_single 0 (fun j call hj => ?_) (transfer_forget m S.launcher name S.world) fun call h0 => ?_
  · exact absurd ((hnone j).symm.trans hj) nofun
  · exact absurd ((hnone 0).symm.trans h0) nofun

/-- **All that an orderly move can do**, but for the end of a shutdown. -/
theorem InOrder.keeps (h : S.InOrder) {v : Move μ} (idle : v.isCall = true → S.idle = true)
    (stays : v ≠ .finishShutdown) : Keeps S (S.move m v) := by
  cases v with
  | begin request => exact h.keeps_begin (idle rfl) request
  | resume i reply =>
    cases hi : S.call? i with
    | none =>
      rw [move, turn_resume_none m hi]
      exact .of_eq h rfl rfl
    | some call => exact h.keeps_resume hi reply
  | giveUp i =>
    cases hi : S.call? i with
    | none =>
      rw [move, turn_giveUp_none m hi]
      exact .of_eq h rfl rfl
    | some call => exact h.keeps_giveUp hi
  | forget name => exact keeps_forget (idle rfl) name
  | watch v => exact .of_eq h rfl (holdings_watch S.launcher v)
  | beginShutdown => exact .of_eq h rfl (holdings_beginShutdown S.launcher)
  | finishShutdown => exact absurd rfl stays
  | elsewhere world => exact .of_eq h rfl rfl

theorem InOrder.move (h : S.InOrder) {v : Move μ} (idle : v.isCall = true → S.idle = true) :
    (S.move m v).InOrder := by
  have hexclusive := h.exclusive.turnover (turnover m S v)
  by_cases hv : v = .finishShutdown
  · subst hv
    have hclear : (S.move m .finishShutdown).launcher.holdings = S.launcher.holdings.clear :=
      holdings_finishShutdown m S.launcher S.world
    refine ⟨hexclusive, hclear ▸ h.owned.clear, h.alone, fun i call hi => ?_⟩
    rw [show (S.move m .finishShutdown).call? i = S.call? i from rfl, call?_of_idle (idle rfl)] at hi
    cases hi
  · have hkeeps := h.keeps (m := m) idle hv
    exact ⟨hexclusive, h.owned.transfer hkeeps.transfer, hkeeps.alone, hkeeps.pending⟩

theorem bare?_new (backend : Backend) (config : Config) (bus : Option (EventBus StepEvent)) (n : String) :
    (Launcher.new backend config bus).holdings.bare? n = none := rfl

theorem not_owns_new (backend : Backend) (config : Config) (bus : Option (EventBus StepEvent)) (n : String)
    (id : TaskId) : ¬ (Launcher.new backend config bus).holdings.Owns n id := by
  rintro ⟨e, he, -⟩
  rw [bare?_new] at he
  cases he

theorem inOrder_new (backend : Backend) (config : Config) (bus : Option (EventBus StepEvent)) (w : μ) :
    (quiet (.new backend config bus) w).InOrder where
  exclusive := exclusive_quiet backend config bus w
  owned := by
    refine ⟨fun n e he => ?_, fun n _ id hn => absurd hn (not_owns_new backend config bus n id), fun id hid => ?_,
      fun n id hn => absurd hn (not_owns_new backend config bus n id)⟩
    · exact absurd ((bare?_new backend config bus n).symm.trans he) nofun
    · exact absurd hid Bool.false_ne_true
  alone := by
    intro i j call call' hi _
    rw [call?_quiet] at hi
    cases hi
  pending := each_quiet _ _ w

/-- **Every task has an owner.** On a launcher with one call at a time, at every moment: a managed entry has a job id
and no task, an unmanaged one a task and no job id; no two entries have one task; each tracked task belongs to exactly
one entry; and until the first shutdown ends each task of an entry is tracked. -/
theorem tasks_have_owners (m : Machine μ) (backend : Backend) (config : Config) (bus : Option (EventBus StepEvent))
    (w : μ) {vs : List (Move μ)} (orderly : (quiet (.new backend config bus) w).orderly m vs = true) :
    let l := ((quiet (.new backend config bus) w).run m vs).launcher
    (∀ n e, l.registry.get? n = some e →
      if e.managed then e.stepId ≠ none ∧ e.taskId = none else e.taskId ≠ none ∧ e.stepId = none) ∧
      (∀ n n' id, l.Owns n id → l.Owns n' id → n = n') ∧
      (∀ id, l.supervisor.task? id ≠ none → ∃ n, l.Owns n id ∧ ∀ n', l.Owns n' id → n' = n) ∧
      (.finishShutdown ∉ vs → ∀ id, l.supervisor.task? id ≠ none ↔ ∃ n, l.Owns n id) := by
  intro l
  have hstart := inOrder_new backend config bus w
  have horder : ((quiet (.new backend config bus) w).run m vs).InOrder :=
    orderly_induction (Q := fun _ => True) (fun S v _ idle h => h.move idle) orderly (fun _ _ => trivial) hstart
  have howned : l.holdings.Owned := horder.owned
  have hdistinct : ∀ n n' id, l.Owns n id → l.Owns n' id → n = n' := fun n n' id hn hn' =>
    howned.distinct n n' id (owns_iff.2 hn) (owns_iff.2 hn')
  have howner : ∀ id, l.supervisor.task? id ≠ none → ∃ n, l.Owns n id := by
    intro id hid
    obtain ⟨n, hn⟩ := howned.owner id (Option.isSome_iff_ne_none.2 hid)
    exact ⟨n, owns_iff.1 hn⟩
  refine ⟨fun n e he => howned.proper n e.bare (congrArg (Option.map Entry.bare) he), hdistinct, fun id hid => ?_,
    fun running id => ⟨howner id, ?_⟩⟩
  · obtain ⟨n, hn⟩ := howner id hid
    exact ⟨n, hn, fun n' hn' => hdistinct n' n id hn' hn⟩
  · rintro ⟨n, hn⟩
    have hkept : ((quiet (.new backend config bus) w).run m vs).InOrder ∧ l.holdings.Kept :=
      orderly_induction (P := fun S => S.InOrder ∧ S.launcher.holdings.Kept) (Q := fun v => v ≠ .finishShutdown)
        (fun S v stays idle h => ⟨h.1.move idle, h.2.transfer h.1.owned (h.1.keeps idle stays).transfer⟩) orderly
        (fun v hv heq => running (heq ▸ hv))
        ⟨hstart, fun n id hn => absurd hn (not_owns_new backend config bus n id)⟩
    exact Option.isSome_iff_ne_none.1 (hkept.2 n id (owns_iff.2 hn))

/-- Two tasks are started; one of them ends and is stopped, the other still has its owner. -/
theorem tasks_have_owners_stopped :
    let S : Traffic Unit := quiet (.new .localMachine {} none) ()
    let vs : List (Move Unit) := [.begin (.run ⟨"a", "/", false, .plain { exe := "true" }, rfl⟩),
      .begin (.run ⟨"b", "/", false, .plain { exe := "sleep" }, rfl⟩), .watch (.scan [(.issued 0, .exited 0)]), .begin (.stop "a")]
    let l := (S.run .obliging vs).launcher
    S.orderly .obliging vs = true ∧ l.supervisor.task? (.issued 1) ≠ none ∧
      ∃ n, l.Owns n (.issued 1) ∧ ∀ n', l.Owns n' (.issued 1) → n' = n := by
  intro S vs l
  have orderly : S.orderly .obliging vs = true := rfl
  have tracked : l.supervisor.task? (.issued 1) ≠ none := Option.ne_none_iff_exists'.2 ⟨_, rfl⟩
  exact ⟨orderly, tracked, (tasks_have_owners .obliging .localMachine {} none () orderly).2.2.1 _ tracked⟩

end Traffic

end JobLaunch
