import JobLaunch.Proofs.Dossier

/-!
# What happens in a run

* `Happening` : a call or a task has come to its end; `Happening.told` : what is told of several;
* `Traffic.chronicle` : what happens in a run; `Traffic.answers_chronicle` : every answer is in it;
* `Traffic.Accounted`, `Traffic.accounted` : a move tells of what happens with it, and of nothing else;
* `Traffic.told_run` : so does a run;
* `Notice.Ordered`, `Traffic.ordered_run` : the launch of a task is told before its end.
-/

namespace JobLaunch

/-! ## What happens -/

theorem Finished.exited_not_mem_notices (backend : Backend) (y : Finished) (x : TaskId × Task) :
    Notice.exited x ∉ y.notices backend := by
  unfold notices
  cases y.search? backend <;> cases y.launch? <;> cases y.stop? <;> cases y.isSubmissionFailed <;> simp

/-- A call has come to its end, or a task has been seen to end. -/
inductive Happening where
  | finished (x : Finished)
  | exited (x : TaskId × Task)

namespace Happening

def notices (backend : Backend) : Happening → List Notice
  | finished x => x.notices backend
  | exited x => [.exited x]

/-- The call that has come to its end. -/
def finished? : Happening → Option Finished
  | finished x => some x
  | exited _ => none

/-- The calls that have come to their ends. -/
def calls (hs : List Happening) : List Finished := hs.filterMap (·.finished?)

/-- What is told of several happenings. -/
def told (backend : Backend) (hs : List Happening) : List Notice := hs.flatMap (·.notices backend)

theorem finished_mem_of_mem_calls {hs : List Happening} {x : Finished} (h : x ∈ calls hs) : .finished x ∈ hs := by
  obtain ⟨y, hy, hfinished⟩ := List.mem_filterMap.1 h
  cases y with
  | finished y =>
    obtain rfl : y = x := Option.some.inj hfinished
    exact hy
  | exited y => cases hfinished

theorem calls_append (hs hs' : List Happening) : calls (hs ++ hs') = calls hs ++ calls hs' := List.filterMap_append

theorem told_append (backend : Backend) (hs hs' : List Happening) :
    told backend (hs ++ hs') = told backend hs ++ told backend hs' := List.flatMap_append

theorem told_map_exited (backend : Backend) (xs : List (TaskId × Task)) :
    told backend (xs.map .exited) = xs.map .exited := by
  rw [told, List.flatMap_map, List.map_eq_flatMap]
  rfl

theorem exited_mem_told {backend : Backend} {hs : List Happening} {x : TaskId × Task}
    (h : .exited x ∈ told backend hs) : .exited x ∈ hs := by
  obtain ⟨y, hy, hx⟩ := List.mem_flatMap.1 h
  cases y with
  | finished y => exact absurd hx (y.exited_not_mem_notices backend x)
  | exited y =>
    cases List.mem_singleton.1 hx
    exact hy

end Happening

namespace Launcher

variable {l l' : Launcher} {d : Dossier} {p : CallProgress}

theorem Goes.told (h : l.Goes l' d p) :
    l.Tells (Happening.told l.backend (p.result?.toList.map fun a => .finished ⟨d, a⟩)) l' := by
  cases h with
  | waits call told described => exact told
  | ends answer told own =>
    show l.Tells (Finished.notices l.backend ⟨d, answer⟩ ++ []) l'
    rw [List.append_nil]
    exact told

theorem Goes.described (h : l.Goes l' d p) {call : Call} (waits : p.call? = some call) : d.Describes l' call := by
  cases h with
  | waits call told described => exact Option.some.inj waits ▸ described
  | ends answer told own => cases waits

theorem Goes.answered (h : l.Goes l' d p) {answer : Answer} (done : p.result? = some answer) : d.Answered answer := by
  cases h with
  | waits call told described => cases done
  | ends answer told own => exact Option.some.inj done ▸ own

end Launcher

namespace Traffic

open Launcher

variable {μ : Type}

def filed (S : Traffic μ) (files : Nat → Dossier) : Move μ → Nat → Dossier
  | .begin request => fun i => if i = S.calls.length then .new S.launcher request else files i
  | .resume i reply => fun j =>
    if j = i then (S.call? i).elim (files i) fun call => (files i).after (S.launcher.callWait call) reply else files j
  | .giveUp _ | .forget _ | .watch _ | .beginShutdown | .finishShutdown | .elsewhere _ => files

/-- The tasks that are seen to end with a move. -/
def exits (S : Traffic μ) : Move μ → List (TaskId × Task)
  | .watch v => S.launcher.exits v
  | .begin _ | .resume .. | .giveUp _ | .forget _ | .beginShutdown | .finishShutdown | .elsewhere _ => []

def happenings (m : Machine μ) (S : Traffic μ) (files : Nat → Dossier) (v : Move μ) : List Happening :=
  match v with
  | .begin _ => (S.answer? m v).toList.map fun a => .finished ⟨S.filed files v S.calls.length, a⟩
  | .resume i _ => (S.answer? m v).toList.map fun a => .finished ⟨S.filed files v i, a⟩
  | .watch _ => (S.exits v).map .exited
  | .giveUp _ | .forget _ | .beginShutdown | .finishShutdown | .elsewhere _ => []

/-- What happens with moves, in order. -/
def chronicle (m : Machine μ) : Traffic μ → (Nat → Dossier) → List (Move μ) → List Happening
  | _, _, [] => []
  | S, files, v :: vs => S.happenings m files v ++ chronicle m (S.move m v) (S.filed files v) vs

def Described (S : Traffic μ) (files : Nat → Dossier) : Prop :=
  ∀ i call, S.call? i = some call → (files i).Describes S.launcher call

structure Accounted (m : Machine μ) (S : Traffic μ) (files : Nat → Dossier) (v : Move μ) : Prop where
  told : S.launcher.Tells (Happening.told S.launcher.backend (S.happenings m files v)) (S.move m v).launcher
  described : (S.move m v).Described (S.filed files v)
  answered : ∀ x, .finished x ∈ S.happenings m files v → x.dossier.Answered x.answer
  tracked : ∀ x, .exited x ∈ S.happenings m files v → S.launcher.supervisor.task? x.1 ≠ none

variable {m : Machine μ} {S : Traffic μ} {files : Nat → Dossier}

theorem tracked_of_mem_exits {v : Move μ} {x : TaskId × Task} (h : x ∈ S.exits v) :
    S.launcher.supervisor.task? x.1 ≠ none := by
  cases v with
  | watch v => exact task?_of_mem_exits h
  | begin | resume | giveUp | forget | beginShutdown | finishShutdown | elsewhere =>
    exact absurd h List.not_mem_nil

theorem Accounted.of_between (described : S.Described files) {v : Move μ} (same : S.filed files v = files)
    (happens : S.happenings m files v = (S.exits v).map .exited)
    (told : S.launcher.Tells ((S.exits v).map .exited) (S.move m v).launcher)
    (calls : ∀ i call, (S.move m v).call? i = some call → S.call? i = some call) : S.Accounted m files v where
  told := by
    rw [happens, Happening.told_map_exited]
    exact told
  described i call hi := by
    rw [same]
    exact (described i call (calls i call hi)).congr told.backend told.config
  answered x hx := by
    rw [happens] at hx
    obtain ⟨y, -, hy⟩ := List.mem_map.1 hx
    cases hy
  tracked x hx := by
    rw [happens] at hx
    obtain ⟨y, hmem, hy⟩ := List.mem_map.1 hx
    cases hy
    exact tracked_of_mem_exits hmem

theorem Accounted.of_goes (described : S.Described files) {v : Move μ} {i : Nat} {d : Dossier} {p : CallProgress}
    (goes : S.launcher.Goes (S.move m v).launcher d p) (filed : S.filed files v = fun j => if j = i then d else files j)
    (happens : S.happenings m files v = p.result?.toList.map fun a => .finished ⟨d, a⟩)
    (calls : ∀ j, (S.move m v).call? j = if j = i then p.call? else S.call? j) : S.Accounted m files v where
  told := happens ▸ goes.told
  described j call hj := by
    rw [calls] at hj
    rw [filed]
    dsimp only
    split at hj
    · next h =>
      rw [if_pos h]
      exact goes.described hj
    · next h =>
      rw [if_neg h]
      exact (described j call hj).congr goes.told.backend goes.told.config
  answered x hx := by
    rw [happens] at hx
    obtain ⟨a, ha, hfinished⟩ := List.mem_map.1 hx
    cases hfinished
    exact goes.answered (Option.mem_toList.1 ha)
  tracked x hx := by
    rw [happens] at hx
    obtain ⟨a, -, ha⟩ := List.mem_map.1 hx
    cases ha

theorem accounted_begin (described : S.Described files) (request : Request) :
    S.Accounted m files (.begin request) := by
  have hfiled : S.filed files (.begin request) S.calls.length = .new S.launcher request := if_pos rfl
  refine .of_goes described (d := .new S.launcher request) (goes_beginCall m S.launcher request S.world) rfl ?_
    (call?_begin m S request)
  unfold happenings
  dsimp only
  rw [hfiled]
  rfl

theorem accounted_resume (described : S.Described files) {i : Nat} {call : Call} (waits : S.call? i = some call)
    (reply : Reply) : S.Accounted m files (.resume i reply) := by
  have hfiled : S.filed files (.resume i reply) =
      fun j => if j = i then (files i).after (S.launcher.callWait call) reply else files j := by
    unfold filed
    dsimp only
    rw [waits]
    rfl
  refine .of_goes described ?_ hfiled ?_ (call?_resume m waits reply)
  · rw [move, turn_resume m waits]
    exact goes_resumeCall m (described i call waits) reply S.world
  · unfold happenings
    dsimp only
    rw [hfiled, answer?, turn_resume m waits]
    dsimp only
    rw [if_pos rfl]

theorem accounted_resume_none (described : S.Described files) {i : Nat} (absent : S.call? i = none) (reply : Reply) :
    S.Accounted m files (.resume i reply) := by
  have hmove : S.move m (.resume i reply) = S := congrArg (·.2) (turn_resume_none m absent reply)
  refine .of_between described ?_ ?_ ?_ ?_
  · unfold filed
    dsimp only
    rw [absent]
    funext j
    split
    · next h => rw [h]; rfl
    · rfl
  · unfold happenings
    dsimp only
    rw [answer?, turn_resume_none m absent]
    rfl
  · rw [hmove]
    exact .refl S.launcher
  · rw [hmove]
    exact fun _ _ h => h

theorem accounted_giveUp (described : S.Described files) (i : Nat) : S.Accounted m files (.giveUp i) := by
  cases hi : S.call? i with
  | none =>
    have hmove : S.move m (.giveUp i) = S := congrArg (·.2) (turn_giveUp_none m hi)
    refine .of_between described rfl rfl ?_ ?_
    · rw [hmove]
      exact .refl S.launcher
    · rw [hmove]
      exact fun _ _ h => h
  | some call =>
    refine .of_between described rfl rfl ?_ fun j call' hj => ?_
    · rw [move, turn_giveUp m hi]
      exact tells_dropCall m S.launcher call S.world
    · rw [call?_giveUp m hi] at hj
      split at hj
      · cases hj
      · exact hj

/-- **Every move tells of what happens with it, and of nothing else.** -/
theorem accounted (described : S.Described files) (v : Move μ) : S.Accounted m files v := by
  cases v with
  | begin request => exact accounted_begin described request
  | resume i reply =>
    cases hi : S.call? i with
    | none => exact accounted_resume_none described hi reply
    | some call => exact accounted_resume described hi reply
  | giveUp i => exact accounted_giveUp described i
  | forget name => exact .of_between described rfl rfl (tells_forget m S.launcher name S.world) fun _ _ hj => hj
  | watch v =>
    exact .of_between described rfl rfl (tells_watch S.launcher v) fun _ _ hj => hj
  | beginShutdown => exact .of_between described rfl rfl (tells_beginShutdown S.launcher) fun _ _ hj => hj
  | finishShutdown =>
    exact .of_between described rfl rfl (tells_finishShutdown m S.launcher S.world) fun _ _ hj => hj
  | elsewhere world => exact .of_between described rfl rfl (.refl S.launcher) fun _ _ hj => hj

/-! ## Runs -/

theorem described_quiet (l : Launcher) (w : μ) (files : Nat → Dossier) : (quiet l w).Described files := by
  intro i call h
  rw [call?_quiet] at h
  cases h

theorem described_run (described : S.Described files) (vs : List (Move μ)) :
    ∃ files', (S.run m vs).Described files' :=
  run_induction (P := fun S => ∃ files, S.Described files) (fun _ v ⟨_, h⟩ => ⟨_, (accounted h v).described⟩)
    ⟨files, described⟩ vs

/-- **A run tells of what happens in it, and of nothing else.** -/
theorem told_run (described : S.Described files) (vs : List (Move μ)) : S.launcher.Tells
    (Happening.told S.launcher.backend (S.chronicle m files vs)) (S.run m vs).launcher := by
  induction vs generalizing S files with
  | nil => exact .refl S.launcher
  | cons v vs ih =>
    have h := accounted (m := m) described v
    rw [chronicle, Happening.told_append]
    refine h.told.trans ?_
    rw [← h.told.backend]
    exact ih h.described

theorem answered_of_mem_chronicle (described : S.Described files) {vs : List (Move μ)} {x : Finished}
    (hx : .finished x ∈ S.chronicle m files vs) : x.dossier.Answered x.answer := by
  induction vs generalizing S files with
  | nil => cases hx
  | cons v vs ih =>
    have h := accounted (m := m) described v
    rcases List.mem_append.1 hx with hx | hx
    · exact h.answered x hx
    · exact ih h.described hx

theorem answers_happenings (m : Machine μ) (S : Traffic μ) (files : Nat → Dossier) (v : Move μ) :
    (Happening.calls (S.happenings m files v)).map (·.answer) = (S.answer? m v).toList := by
  have hcalls : ∀ d : Dossier, (((S.answer? m v).toList.map fun a => Happening.finished ⟨d, a⟩).filterMap
      (·.finished?)).map (·.answer) = (S.answer? m v).toList := by
    intro d
    cases S.answer? m v <;> rfl
  have hnone : ∀ xs : List (TaskId × Task), ((xs.map .exited).filterMap Happening.finished?).map (·.answer) = [] := by
    intro xs
    simp [Happening.finished?]
  cases v with
  | begin request => exact hcalls _
  | resume i reply => exact hcalls _
  | giveUp i =>
    cases hi : S.call? i with
    | none => rw [answer?, turn_giveUp_none m hi]; rfl
    | some call => rw [answer?, turn_giveUp m hi]; rfl
  | forget name => rfl
  | watch v => exact hnone _
  | beginShutdown => rfl
  | finishShutdown => rfl
  | elsewhere world => rfl

theorem answers_chronicle (m : Machine μ) (S : Traffic μ) (files : Nat → Dossier) (vs : List (Move μ)) :
    (Happening.calls (S.chronicle m files vs)).map (·.answer) = S.answers m vs := by
  induction vs generalizing S files with
  | nil => rfl
  | cons v vs ih =>
    rw [chronicle, Happening.calls_append, List.map_append, answers_happenings, ih]
    rfl

end Traffic

/-! ## The order of notices -/

/-- The launch of a task is told before its end. -/
def Notice.Ordered (ns : List Notice) : Prop :=
  ∀ before x after, ns = before ++ .exited x :: after → 0 < before.countP (·.starts x.1)

theorem Notice.ordered_nil : Ordered [] := by
  intro before x after h
  simp at h

theorem Notice.Ordered.append {ms ns : List Notice} (ordered : Ordered ms)
    (known : ∀ x, .exited x ∈ ns → 0 < ms.countP (·.starts x.1)) : Ordered (ms ++ ns) := by
  intro before x after h
  rcases List.append_eq_append_iff.1 h with ⟨more, rfl, hns⟩ | ⟨rest, hms, hrest⟩
  · rw [List.countP_append]
    refine Nat.lt_of_lt_of_le (known x ?_) (Nat.le_add_right _ _)
    rw [hns]
    exact List.mem_append_right _ List.mem_cons_self
  · cases rest with
    | nil =>
      rw [List.append_nil] at hms
      rw [← hms]
      refine known x ?_
      rw [← List.nil_append ns, ← hrest]
      exact List.mem_cons_self
    | cons n rest =>
      obtain ⟨rfl, -⟩ := List.cons.inj hrest
      exact ordered before x rest hms

namespace Traffic

variable {μ : Type} {m : Machine μ} {S : Traffic μ} {files : Nat → Dossier}

theorem ordered_run (described : S.Described files) {ns : List Notice} (ordered : Notice.Ordered ns)
    (tracked : ∀ id, S.launcher.supervisor.task? id ≠ none → 0 < ns.countP (·.starts id)) (vs : List (Move μ)) :
    Notice.Ordered (ns ++ Happening.told S.launcher.backend (S.chronicle m files vs)) := by
  induction vs generalizing S files ns with
  | nil =>
    rw [chronicle, Happening.told, List.flatMap_nil, List.append_nil]
    exact ordered
  | cons v vs ih =>
    have h := accounted (m := m) described v
    rw [chronicle, Happening.told_append, ← List.append_assoc, ← h.told.backend]
    refine ih h.described ?_ fun id hid => ?_
    · rw [h.told.backend]
      exact ordered.append fun x hx => tracked x.1 (h.tracked x (Happening.exited_mem_told hx))
    · rw [h.told.backend, List.countP_append]
      rcases h.told.tracked id hid with hid | hpos
      · exact Nat.lt_of_lt_of_le (tracked id hid) (Nat.le_add_right _ _)
      · exact Nat.lt_of_lt_of_le hpos (Nat.le_add_left _ _)

end Traffic

end JobLaunch
