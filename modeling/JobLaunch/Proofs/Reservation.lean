import JobLaunch.Proofs.Replay

/-!
# One launch per name

* `Traffic.launch?` : the name whose launch waits as a call;
* `Exclusive` : the waiting launches and the reserved names are the same, and none of these names is registered;
* `Turnover` : all that a move does to waiting launches and reservations (`Traffic.turnover`);
* `Traffic.world_move` : only a launch that has just reserved its name writes files and starts processes;
* `Traffic.one_launch_per_name` : the three of them over every run.
-/

namespace JobLaunch

/-! ## Waiting launches and reservations -/

/-- The waiting launches and the registry belong together. -/
structure Exclusive (launch? : Nat → Option String) (r : Registry) : Prop where
  reserved_iff : ∀ name, r.isReserved name = true ↔ ∃ i, launch? i = some name
  alone : ∀ {i j name}, launch? i = some name → launch? j = some name → i = j
  unregistered : ∀ {name}, r.isReserved name = true → r.get? name = none

/-- What a move does to waiting launches and to the registry. -/
inductive Turnover (launch? : Nat → Option String) (r : Registry) (launch'? : Nat → Option String) (r' : Registry) :
    Prop
  | keeps (launches : ∀ i, launch'? i = launch? i) (reserved : r'.reserved = r.reserved)
    (entries : ∀ n, r.isReserved n = true → r.get? n = none → r'.get? n = none)
  /-- A launch begins to wait, with its name reserved. -/
  | takes (i : Nat) (name : String) (held : r.reserve name = .ok r') (unused : launch? i = none)
    (launches : ∀ j, launch'? j = if j = i then some name else launch? j)
  /-- A waiting launch ends or is given up. -/
  | leaves (i : Nat) (name : String) (waits : launch? i = some name)
    (launches : ∀ j, launch'? j = if j = i then none else launch? j)
    (reserved : r'.reserved = (r.release name).reserved) (entries : ∀ n, n ≠ name → r'.get? n = r.get? n)

theorem Turnover.of_eq {launch? launch'? : Nat → Option String} {r r' : Registry}
    (launches : ∀ i, launch'? i = launch? i) (h : r' = r) : Turnover launch? r launch'? r' := by
  subst h
  exact .keeps launches rfl fun n _ hn => hn

namespace Exclusive

variable {launch? launch'? : Nat → Option String} {r r' : Registry}

theorem held (h : Exclusive launch? r) : r.Held launch? := ⟨h.reserved_iff, h.alone⟩

theorem of_held (held : r.Held launch?) (unregistered : ∀ {name}, r.isReserved name = true → r.get? name = none) :
    Exclusive launch? r := ⟨held.reserved_iff, held.alone, unregistered⟩

theorem of_keeps (h : Exclusive launch? r) (launches : ∀ i, launch'? i = launch? i)
    (reserved : r'.reserved = r.reserved) (entries : ∀ n, r.isReserved n = true → r.get? n = none → r'.get? n = none) :
    Exclusive launch'? r' := by
  refine of_held (h.held.of_keeps launches reserved) fun {n} hn => ?_
  rw [show r'.isReserved n = r.isReserved n from congrArg (·.contains n) reserved] at hn
  exact entries n hn (h.unregistered hn)

theorem of_takes (h : Exclusive launch? r) {i : Nat} {name : String} (held : r.reserve name = .ok r')
    (unused : launch? i = none) (launches : ∀ j, launch'? j = if j = i then some name else launch? j) :
    Exclusive launch'? r' := by
  refine of_held (h.held.of_takes held unused launches) fun {n} hn => ?_
  obtain ⟨hget, -, rfl⟩ := Registry.reserve_eq_ok held
  rw [Registry.isReserved_iff_mem] at hn
  rcases List.mem_cons.1 hn with rfl | hn
  · exact hget
  · exact h.unregistered ((r.isReserved_iff_mem n).2 hn)

theorem of_leaves (h : Exclusive launch? r) {i : Nat} {name : String} (waits : launch? i = some name)
    (launches : ∀ j, launch'? j = if j = i then none else launch? j)
    (reserved : r'.reserved = (r.release name).reserved) (entries : ∀ n, n ≠ name → r'.get? n = r.get? n) :
    Exclusive launch'? r' := by
  refine of_held (h.held.of_leaves waits launches reserved) fun {n} hn => ?_
  rw [show r'.isReserved n = (r.release name).isReserved n from congrArg (·.contains n) reserved] at hn
  obtain ⟨hn, hne⟩ := (Registry.isReserved_release r name n).1 hn
  rw [entries n hne]
  exact h.unregistered hn

theorem turnover (h : Exclusive launch? r) (ht : Turnover launch? r launch'? r') : Exclusive launch'? r' := by
  cases ht with
  | keeps launches reserved entries => exact h.of_keeps launches reserved entries
  | takes i name held unused launches => exact h.of_takes held unused launches
  | leaves i name waits launches reserved entries => exact h.of_leaves waits launches reserved entries

end Exclusive

/-! ## Moves -/

/-- The name of a waiting launch. -/
def Call.launch? : Call → Option String
  | .run r => some r.step.name
  | .poll _ | .stop _ => none

namespace Fact

theorem replay_none {n : String} {fs : List Fact} (h : ∀ name e, registered name e ∉ fs) : replay n none fs = none := by
  induction fs with
  | nil => rfl
  | cons f fs ih =>
    have hf : after n none f = none := by
      cases f with
      | registered name e => exact absurd List.mem_cons_self (h name e)
      | observed s => exact ite_self none
      | removed name => exact ite_self none
    show replay n (after n none f) fs = none
    rw [hf]
    exact ih fun name e hmem => h name e (List.mem_cons_of_mem f hmem)

end Fact

namespace Launcher

variable {μ : Type}

theorem registry_complete (l : Launcher) (step : Step) (id : StepIdentifier) :
    (l.complete step id).2.registry.reserved = (l.registry.release step.name).reserved ∧
      ∀ n, n ≠ step.name → (l.complete step id).2.registry.get? n = l.registry.get? n := by
  rcases complete_cases l step id with ⟨reporter, h⟩ | ⟨e, h⟩
  · rw [h]
    refine ⟨rfl, fun n hn => ?_⟩
    show (l.registry.entries.insert step.name (step.entry id)).get? n = l.registry.entries.get? n
    rw [Dict.get?_insert, if_neg hn]
  · rw [h]
    exact ⟨rfl, fun n hn => rfl⟩

theorem reserved_record (l : Launcher) (xs : List Sighting) : (l.record xs).2.registry.reserved = l.registry.reserved :=
  Registry.reserved_observeAll l.registry _

theorem reserved_beginPoll (l : Launcher) (names : List String) :
    (l.beginPoll names).2.registry.reserved = l.registry.reserved := by
  rcases beginPoll_cases l names with ⟨h, -⟩ | h
  · rw [h]
  · rw [h]
    exact reserved_record l _

theorem reserved_resumePoll (l : Launcher) (p : Poll) (reply : Reply) :
    (l.resumePoll p reply).2.registry.reserved = l.registry.reserved := by
  rcases resumePoll_cases l p reply with ⟨h, -⟩ | ⟨answer, -, h⟩
  · rw [h]
  · rw [h]
    exact reserved_record l _

theorem reserved_stopPolling (name : String) (e : Entry) (next : PollProgress × Launcher) :
    (stopPolling name e next).2.registry.reserved = next.2.registry.reserved := by
  obtain ⟨reports | p, l⟩ := next <;> rfl

theorem reserved_takeDown (m : Machine μ) (l : Launcher) (name : String) (e : Entry) (w : μ) :
    (takeDown m l name e w).2.1.registry.reserved = l.registry.reserved := by
  unfold takeDown
  rw [← registry_dropTask m l e w]
  dsimp only
  split
  · exact (reserved_stopPolling name e _).trans (reserved_beginPoll _ _)
  · exact Registry.reserved_observe _ _ _

theorem registered_not_mem_stopFacts (name : String) (p : StopProgress) (n : String) (e : Entry) :
    Fact.registered n e ∉ stopFacts name p := by
  rcases p with (err | last) | s <;> simp [stopFacts]

theorem registered_not_mem_takeDownFacts (m : Machine μ) (l : Launcher) (name : String) (e : Entry) (w : μ)
    (n : String) (e' : Entry) : Fact.registered n e' ∉ takeDownFacts m l name e w := by
  simp [takeDownFacts, registered_not_mem_stopFacts]

theorem reserved_resumeStop (m : Machine μ) (l : Launcher) (s : Stop) (reply : Reply) (w : μ) :
    (resumeStop m l s reply w).2.1.registry.reserved = l.registry.reserved := by
  obtain ⟨name, e, stage⟩ := s
  cases stage with
  | cancelling command =>
    cases reply with
    | answered answer =>
      rw [← registry_noteCancel l name answer]
      exact reserved_takeDown m (l.noteCancel name answer) name e w
    | paused => rfl
    | ended exit => rfl
    | failed source => rfl
  | polling p => exact (reserved_stopPolling name e _).trans (reserved_resumePoll l p reply)

theorem registered_not_mem_resumeFacts (m : Machine μ) (l : Launcher) (s : Stop) (reply : Reply) (w : μ)
    (n : String) (e : Entry) : Fact.registered n e ∉ resumeFacts m l (.stop s) reply w := by
  obtain ⟨name, e', stage⟩ := s
  cases stage with
  | cancelling command =>
    cases reply with
    | answered answer => exact registered_not_mem_takeDownFacts m (l.noteCancel name answer) name e' w n e
    | paused => exact List.not_mem_nil
    | ended exit => exact List.not_mem_nil
    | failed source => exact List.not_mem_nil
  | polling p => simp [resumeFacts, registered_not_mem_stopFacts]

end Launcher

namespace Traffic

open Launcher

variable {μ : Type} {m : Machine μ} {S : Traffic μ}

/-- The name whose launch waits as a call. -/
def launch? (S : Traffic μ) (i : Nat) : Option String := (S.call? i).bind Call.launch?

theorem launch?_length (S : Traffic μ) : S.launch? S.calls.length = none := by
  simp [launch?, call?]

theorem launch?_begin (m : Machine μ) (S : Traffic μ) (request : Request) (j : Nat) :
    (S.move m (.begin request)).launch? j = if j = S.calls.length then
      (beginCall m S.launcher request S.world).1.call?.bind Call.launch? else S.launch? j := by
  unfold launch?
  rw [call?_begin]
  split <;> rfl

theorem launch?_resume (m : Machine μ) {i : Nat} {call : Call} (h : S.call? i = some call) (reply : Reply) (j : Nat) :
    (S.move m (.resume i reply)).launch? j = if j = i then
      (resumeCall m S.launcher call reply S.world).1.call?.bind Call.launch? else S.launch? j := by
  unfold launch?
  rw [call?_resume m h]
  split <;> rfl

theorem launch?_giveUp (m : Machine μ) {i : Nat} {call : Call} (h : S.call? i = some call) (j : Nat) :
    (S.move m (.giveUp i)).launch? j = if j = i then none else S.launch? j := by
  unfold launch?
  rw [call?_giveUp m h]
  split <;> rfl

theorem launch?_map_poll (p : PollProgress) : (p.map Call.poll Answer.polled).call?.bind Call.launch? = none := by
  cases p <;> rfl

theorem launch?_map_stop (p : StopProgress) : (p.map Call.stop Answer.stopped).call?.bind Call.launch? = none := by
  cases p <;> rfl

theorem get?_move_eq_none {v : Move μ} (h : ∀ name e, Fact.registered name e ∉ S.facts m v) {n : String}
    (hn : S.launcher.registry.get? n = none) : (S.move m v).launcher.registry.get? n = none := by
  rw [get?_move, hn, Fact.replay_none h]

theorem launch?_begin_eq {request : Request}
    (h : (beginCall m S.launcher request S.world).1.call?.bind Call.launch? = none) (j : Nat) :
    (S.move m (.begin request)).launch? j = S.launch? j := by
  rw [launch?_begin, h]
  split
  · next hj => rw [hj, launch?_length]
  · rfl

theorem turnover_beginRun (m : Machine μ) (S : Traffic μ) (step : Step) :
    Turnover S.launch? S.launcher.registry (S.move m (.begin (.run step))).launch?
      (S.move m (.begin (.run step))).launcher.registry := by
  have hbegin : ∀ {p l w}, beginRun m S.launcher step S.world = (p, l, w) →
      (S.move m (.begin (.run step))).launcher.registry = l.registry ∧
        (beginCall m S.launcher (.run step) S.world).1.call?.bind Call.launch? =
          (p.map Call.run Answer.launched).call?.bind Call.launch? := by
    intro p l w h
    constructor
    · exact congrArg (·.2.1.registry) h
    · exact congrArg (fun x => (x.1.map Call.run Answer.launched).call?.bind Call.launch?) h
  cases held : S.launcher.registry.reserve step.name with
  | error e =>
    obtain ⟨hreg, hcall⟩ := hbegin (show _ = (.done (.error e), S.launcher, S.world) by unfold beginRun beginRunOn; rw [held])
    exact .of_eq (launch?_begin_eq hcall) hreg
  | ok r =>
    obtain ⟨-, hfree, -⟩ := Registry.reserve_eq_ok held
    have hrelease : r.release step.name = S.launcher.registry := Registry.release_reserve held
    obtain ⟨hreg, hcall⟩ := hbegin (beginRun_eq m S.world held)
    generalize attempt m S.launcher.backend S.launcher.supervisor.start step S.world = a at hreg hcall
    -- the attempt has failed and the name is free again, or a task is registered at once, or the launch waits
    obtain ⟨e | id | ⟨scheduler, p⟩, supervisor, w⟩ := a
    · replace hreg := hreg.trans hrelease
      exact .of_eq (launch?_begin_eq hcall) hreg
    · obtain ⟨hres, hget⟩ := registry_complete { S.launcher with registry := r, supervisor } step (.task id)
      refine .keeps (launch?_begin_eq hcall) ?_ fun n hn hnone => ?_
      · rw [hreg]
        exact hres.trans (congrArg (·.reserved) hrelease)
      · have hne : n ≠ step.name := by
          rintro rfl
          rw [hfree] at hn
          cases hn
        rw [hreg]
        refine (hget n hne).trans ?_
        rw [← hrelease] at hnone
        exact hnone
    · refine .takes S.calls.length step.name (hreg ▸ held) (launch?_length S) fun j => ?_
      rw [launch?_begin, hcall]
      rfl

theorem turnover_begin (m : Machine μ) (S : Traffic μ) (request : Request) :
    Turnover S.launch? S.launcher.registry (S.move m (.begin request)).launch?
      (S.move m (.begin request)).launcher.registry := by
  cases request with
  | run step => exact turnover_beginRun m S step
  | poll names =>
    refine .keeps (launch?_begin_eq (launch?_map_poll (S.launcher.beginPoll names).1))
      (reserved_beginPoll S.launcher names) fun n _ hn => get?_move_eq_none (fun name e => ?_) hn
    show Fact.registered name e ∉ (S.launcher.beginSightings names).map .observed
    simp
  | stop name =>
    refine .keeps (launch?_begin_eq (launch?_map_stop (beginStop m S.launcher name S.world).1)) ?_
      fun n _ hn => get?_move_eq_none (fun name' e => ?_) hn
    · show (beginStop m S.launcher name S.world).2.1.registry.reserved = S.launcher.registry.reserved
      unfold beginStop
      split
      · rfl
      · split
        · rfl
        · exact reserved_takeDown m S.launcher name _ S.world
    · show Fact.registered name' e ∉ beginFacts m S.launcher (.stop name) S.world
      unfold beginFacts
      dsimp only
      split
      · exact List.not_mem_nil
      · split
        · exact List.not_mem_nil
        · exact registered_not_mem_takeDownFacts m S.launcher name _ S.world name' e

theorem launch?_of_waits {i : Nat} {call : Call} (hi : S.call? i = some call) : S.launch? i = call.launch? := by
  rw [launch?, hi]
  rfl

theorem launch?_resume_eq {i : Nat} {call : Call} (hi : S.call? i = some call) {reply : Reply}
    (h : (resumeCall m S.launcher call reply S.world).1.call?.bind Call.launch? = call.launch?) (j : Nat) :
    (S.move m (.resume i reply)).launch? j = S.launch? j := by
  rw [launch?_resume m hi, h]
  split
  · next hj => rw [hj, launch?_of_waits hi]
  · rfl

theorem launch?_giveUp_eq {i : Nat} {call : Call} (hi : S.call? i = some call) (h : S.launch? i = none) (j : Nat) :
    (S.move m (.giveUp i)).launch? j = S.launch? j := by
  rw [launch?_giveUp m hi]
  split
  · next hj => rw [hj, h]
  · rfl

theorem registry_resume (m : Machine μ) {i : Nat} {call : Call} (hi : S.call? i = some call) (reply : Reply) :
    (S.move m (.resume i reply)).launcher.registry = (resumeCall m S.launcher call reply S.world).2.1.registry := by
  rw [move, turn_resume m hi]

theorem turnover_resumeRun (m : Machine μ) {i : Nat} {r : Run} (hi : S.call? i = some (.run r)) (reply : Reply) :
    Turnover S.launch? S.launcher.registry (S.move m (.resume i reply)).launch?
      (S.move m (.resume i reply)).launcher.registry := by
  have hwaits : S.launch? i = some r.step.name := launch?_of_waits hi
  have hreg : (S.move m (.resume i reply)).launcher.registry = (S.launcher.resumeRun r reply).2.registry :=
    registry_resume m hi reply
  have hlaunch : ∀ j, (S.move m (.resume i reply)).launch? j = if j = i then
      ((S.launcher.resumeRun r reply).1.map Call.run Answer.launched).call?.bind Call.launch? else S.launch? j :=
    launch?_resume m hi reply
  have hcases := resumed S.launcher r reply
  generalize S.launcher.resumeRun r reply = next at hcases hreg hlaunch
  cases hcases with
  | waits stage =>
    refine .of_eq (fun j => ?_) hreg
    rw [hlaunch]
    split
    · next hj => rw [hj, hwaits]; rfl
    · rfl
  | fails reporter e plain =>
    exact .leaves i r.step.name hwaits hlaunch (congrArg (·.reserved) hreg) fun n _ => congrArg (·.get? n) hreg
  | succeeds reporter id =>
    obtain ⟨hres, hget⟩ := registry_complete { S.launcher with reporter } r.step (.scheduler id)
    exact .leaves i r.step.name hwaits hlaunch ((congrArg (·.reserved) hreg).trans hres)
      fun n hn => (congrArg (·.get? n) hreg).trans (hget n hn)

theorem turnover_resume (m : Machine μ) {i : Nat} {call : Call} (hi : S.call? i = some call) (reply : Reply) :
    Turnover S.launch? S.launcher.registry (S.move m (.resume i reply)).launch?
      (S.move m (.resume i reply)).launcher.registry := by
  have hfacts := facts_resume m hi reply
  cases call with
  | run r => exact turnover_resumeRun m hi reply
  | poll p =>
    refine .keeps (launch?_resume_eq hi (launch?_map_poll (S.launcher.resumePoll p reply).1)) ?_
      fun n _ hn => get?_move_eq_none (fun name e => ?_) hn
    · rw [registry_resume m hi]
      exact reserved_resumePoll S.launcher p reply
    · rw [hfacts]
      show Fact.registered name e ∉ (S.launcher.resumeSightings p reply).map .observed
      simp
  | stop s =>
    refine .keeps (launch?_resume_eq hi (launch?_map_stop (resumeStop m S.launcher s reply S.world).1)) ?_
      fun n _ hn => get?_move_eq_none (fun name' e' => ?_) hn
    · rw [registry_resume m hi]
      exact reserved_resumeStop m S.launcher s reply S.world
    · rw [hfacts]
      exact registered_not_mem_resumeFacts m S.launcher s reply S.world name' e'

/-- **What a move does to waiting launches and to reservations.** -/
theorem turnover (m : Machine μ) (S : Traffic μ) (v : Move μ) :
    Turnover S.launch? S.launcher.registry (S.move m v).launch? (S.move m v).launcher.registry := by
  cases v with
  | begin request => exact turnover_begin m S request
  | resume i reply =>
    cases hi : S.call? i with
    | none =>
      rw [move, turn_resume_none m hi]
      exact .of_eq (fun j => rfl) rfl
    | some call => exact turnover_resume m hi reply
  | giveUp i =>
    cases hi : S.call? i with
    | none =>
      rw [move, turn_giveUp_none m hi]
      exact .of_eq (fun j => rfl) rfl
    | some call =>
      have hlaunch := launch?_giveUp m hi
      have hwaits := launch?_of_waits hi
      have hreg : (S.move m (.giveUp i)).launcher.registry = (dropCall m S.launcher call S.world).1.registry := by
        rw [move, turn_giveUp m hi]
      cases call with
      | run r =>
        exact .leaves i r.step.name hwaits hlaunch (congrArg (·.reserved) hreg) fun n _ => congrArg (·.get? n) hreg
      | poll p => exact .of_eq (launch?_giveUp_eq hi hwaits) hreg
      | stop s => exact .of_eq (launch?_giveUp_eq hi hwaits) hreg
  | forget name =>
    refine .keeps (fun j => rfl) ?_ fun n _ hn => get?_move_eq_none (fun name' e => ?_) hn
    · show (forget m S.launcher name S.world).2.1.registry.reserved = _
      unfold forget
      split
      · dsimp only
        rw [registry_dropTask]
        rfl
      · rfl
    · show Fact.registered name' e ∉ if S.launcher.registry.contains name then [Fact.removed name] else []
      split <;> simp
  | watch v =>
    have hreg : (S.move m (.watch v)).launcher.registry = S.launcher.registry := registry_watch S.launcher v
    exact .of_eq (fun j => rfl) hreg
  | beginShutdown => exact .of_eq (fun j => rfl) rfl
  | finishShutdown => exact .of_eq (fun j => rfl) rfl
  | elsewhere world => exact .of_eq (fun j => rfl) rfl

/-! ## The machine -/

/-- The start of a launch that has its name. Between the reservation and the conclusion stands the attempt, and all
that the launch does to the machine is done there. -/
structure Launching (m : Machine μ) (S : Traffic μ) (step : Step) (held : Registry) : Prop where
  taken : S.launcher.registry.reserve step.name = .ok held
  reserved : held.isReserved step.name = true
  unregistered : held.get? step.name = none
  alone : ∀ i, S.launch? i ≠ some step.name
  attempted : beginRun m S.launcher step S.world =
    let a := attempt m S.launcher.backend S.launcher.supervisor.start step S.world
    let c := { S.launcher with registry := held, supervisor := a.2.1 }.conclude step a.1
    (c.1, c.2, a.2.2)
  /-- What the launch asks of the machine it asks with the name reserved, and it kills nothing. -/
  witnessed : let t := beginRunOn m.witnessing S.launcher step (S.world, [])
    (t.1, t.2.1, t.2.2.1) = beginRun m S.launcher step S.world ∧ ∀ x ∈ t.2.2.2, x.2 = held ∧ ∀ p, x.1 ≠ .kill p

theorem Launching.of_reserve (exclusive : Exclusive S.launch? S.launcher.registry) {step : Step} {held : Registry}
    (taken : S.launcher.registry.reserve step.name = .ok held) : Launching m S step held where
  taken := taken
  reserved := by
    rw [(Registry.reserve_eq_ok taken).2.2, Registry.isReserved_iff_mem]
    exact List.mem_cons_self
  unregistered := by
    rw [(Registry.reserve_eq_ok taken).2.2]
    exact (Registry.reserve_eq_ok taken).1
  alone := by
    intro i hi
    have hres := (exclusive.reserved_iff step.name).2 ⟨i, hi⟩
    rw [(Registry.reserve_eq_ok taken).2.1] at hres
    cases hres
  attempted := beginRun_eq m S.world taken
  witnessed := witnessed_of_reserve m S.world taken

theorem world_dropTask (m : Machine μ) (l : Launcher) (e : Entry) (w : μ) :
    ∃ ps, (dropTask m l e w).2.2 = killAll m ps w := by
  unfold dropTask
  cases e.taskId with
  | none => exact ⟨[], rfl⟩
  | some id => exact ⟨_, rfl⟩

theorem world_takeDown (m : Machine μ) (l : Launcher) (name : String) (e : Entry) (w : μ) :
    ∃ ps, (takeDown m l name e w).2.2 = killAll m ps w := by
  obtain ⟨ps, hps⟩ := world_dropTask m l e w
  refine ⟨ps, ?_⟩
  rw [← hps]
  unfold takeDown
  dsimp only
  split <;> rfl

theorem world_beginStop (m : Machine μ) (l : Launcher) (name : String) (w : μ) :
    ∃ ps, (beginStop m l name w).2.2 = killAll m ps w := by
  unfold beginStop
  split
  · exact ⟨[], rfl⟩
  · split
    · exact ⟨[], rfl⟩
    · exact world_takeDown m l name _ w

theorem world_resumeCall (m : Machine μ) (l : Launcher) (call : Call) (reply : Reply) (w : μ) :
    ∃ ps, (resumeCall m l call reply w).2.2 = killAll m ps w := by
  cases call with
  | run r => exact ⟨[], rfl⟩
  | poll p => exact ⟨[], rfl⟩
  | stop s =>
    obtain ⟨name, e, stage⟩ := s
    cases stage with
    | cancelling command =>
      cases reply with
      | answered answer => exact world_takeDown m (l.noteCancel name answer) name e w
      | paused => exact ⟨[], rfl⟩
      | ended exit => exact ⟨[], rfl⟩
      | failed source => exact ⟨[], rfl⟩
    | polling p => exact ⟨[], rfl⟩

theorem world_dropCall (m : Machine μ) (l : Launcher) (call : Call) (w : μ) :
    ∃ ps, (dropCall m l call w).2 = killAll m ps w := by
  cases call with
  | run r =>
    obtain ⟨step, scheduler, stage⟩ := r
    cases stage with
    | submitting p => exact ⟨[p], rfl⟩
    | pausing attempt => exact ⟨[], rfl⟩
    | listing attempt => exact ⟨[], rfl⟩
  | poll p => exact ⟨[], rfl⟩
  | stop s => exact ⟨[], rfl⟩

theorem world_forget (m : Machine μ) (l : Launcher) (name : String) (w : μ) :
    ∃ ps, (forget m l name w).2.2 = killAll m ps w := by
  unfold forget
  split
  · exact world_dropTask m _ _ w
  · exact ⟨[], rfl⟩

/-- A move of the launcher that does more to the machine than to kill processes is a launch that reserves its name. -/
theorem world_move (m : Machine μ) (S : Traffic μ) {v : Move μ} (own : ∀ world, v ≠ .elsewhere world) :
    (∃ ps, (S.move m v).world = killAll m ps S.world) ∨
      ∃ step held, v = .begin (.run step) ∧ S.launcher.registry.reserve step.name = .ok held := by
  cases v with
  | begin request =>
    cases request with
    | run step =>
      cases held : S.launcher.registry.reserve step.name with
      | error e =>
        refine Or.inl ⟨[], ?_⟩
        show (beginRun m S.launcher step S.world).2.2 = S.world
        unfold beginRun beginRunOn
        rw [held]
      | ok r => exact Or.inr ⟨step, r, rfl, held⟩
    | poll names => exact Or.inl ⟨[], rfl⟩
    | stop name => exact Or.inl (world_beginStop m S.launcher name S.world)
  | resume i reply =>
    left
    cases hi : S.call? i with
    | none => exact ⟨[], by rw [move, turn_resume_none m hi]; rfl⟩
    | some call =>
      rw [move, turn_resume m hi]
      exact world_resumeCall m S.launcher call reply S.world
  | giveUp i =>
    left
    cases hi : S.call? i with
    | none => exact ⟨[], by rw [move, turn_giveUp_none m hi]; rfl⟩
    | some call =>
      rw [move, turn_giveUp m hi]
      exact world_dropCall m S.launcher call S.world
  | forget name => exact Or.inl (world_forget m S.launcher name S.world)
  | watch v => exact Or.inl ⟨[], rfl⟩
  | beginShutdown => exact Or.inl ⟨[], rfl⟩
  | finishShutdown => exact Or.inl ⟨_, rfl⟩
  | elsewhere world => exact absurd rfl (own world)

/-! ## Runs -/

theorem exclusive_quiet (backend : Backend) (config : Config) (bus : Option (EventBus StepEvent)) (w : μ) :
    Exclusive (quiet (.new backend config bus) w).launch? (quiet (.new backend config bus) w).launcher.registry where
  reserved_iff name := by simp [launch?, quiet, call?, Launcher.new, Registry.isReserved]
  alone := by
    intro i j name hi
    rw [launch?, call?_quiet] at hi
    cases hi
  unregistered _ := rfl

theorem exclusive_run (m : Machine μ) (backend : Backend) (config : Config) (bus : Option (EventBus StepEvent)) (w : μ)
    (vs : List (Move μ)) : Exclusive ((quiet (.new backend config bus) w).run m vs).launch?
      ((quiet (.new backend config bus) w).run m vs).launcher.registry :=
  run_induction (P := fun S => Exclusive S.launch? S.launcher.registry) (fun S v h => h.turnover (turnover m S v))
    (exclusive_quiet backend config bus w) vs

/-- **At most one launch per name.** On a launcher with any calls side by side, at every moment between their moves:
the reserved names are those of the waiting launches, no two of which share one, and none is registered; whatever move
comes next, it writes files and starts processes only as a launch that has just reserved its name; and a launch whose
name is registered or reserved fails at once, without a trace. -/
theorem one_launch_per_name (m : Machine μ) (backend : Backend) (config : Config) (bus : Option (EventBus StepEvent))
    (w : μ) (vs : List (Move μ)) :
    let S := (quiet (.new backend config bus) w).run m vs
    Exclusive S.launch? S.launcher.registry ∧
      (∀ v, (∀ world, v ≠ .elsewhere world) → (∃ ps, (S.move m v).world = killAll m ps S.world) ∨
        ∃ step held, v = .begin (.run step) ∧ Launching m S step held) ∧
      ∀ step, (S.launcher.registry.contains step.name || S.launcher.registry.isReserved step.name) = true →
        S.turn m (.begin (.run step)) =
          (some (.launched (.error (.duplicateStep step.name))), { S with calls := S.calls ++ [none] }) := by
  intro S
  have hexclusive : Exclusive S.launch? S.launcher.registry := exclusive_run m backend config bus w vs
  refine ⟨hexclusive, fun v own => ?_, fun step htaken => ?_⟩
  · rcases world_move m S own with hkills | ⟨step, held, rfl, hheld⟩
    · exact Or.inl hkills
    · exact Or.inr ⟨step, held, rfl, .of_reserve hexclusive hheld⟩
  · unfold turn beginCall
    dsimp only
    rw [beginRun_of_taken m S.world htaken]
    rfl

/-- While the submission of `a` runs, a second launch of `a` is refused, and one of `b` asks for its files and its process
with its name reserved beside that of `a`. -/
theorem one_launch_per_name_contended :
    let l : Launcher := .new (.scheduled (.pbs {})) {} none
    let a : Step := ⟨"a", "/", true, .pbsBatch {} [], rfl⟩
    let b : Step := ⟨"b", "/", false, .mpirun { exe := "./sim" }, rfl⟩
    let S := (quiet l ()).run .obliging [.begin (.run a)]
    S.launch? 0 = some "a" ∧ S.launcher.registry.get? "a" = none ∧ (∀ i, S.launch? i = some "a" → i = 0) ∧
      S.answer? .obliging (.begin (.run a)) = some (.launched (.error (.duplicateStep "a"))) ∧
      ∃ held, Launching .obliging S b held ∧ held.isReserved "a" = true ∧
        (beginRunOn (Machine.witnessing .obliging) S.launcher b (S.world, [])).2.2.2.map (·.1) =
          [.write "/b.out" "", .write "/b.err" "",
            .spawn ⟨"mpirun", ["./sim"], "/", .file "/b.out", .file "/b.err"⟩] := by
  intro l a b S
  obtain ⟨exclusive, -, refused⟩ :=
    one_launch_per_name .obliging (.scheduled (.pbs {})) {} none () [.begin (.run a)]
  have waits : S.launch? 0 = some "a" := rfl
  have reserved := (exclusive.reserved_iff "a").2 ⟨0, waits⟩
  refine ⟨waits, exclusive.unregistered reserved, fun i hi => exclusive.alone hi waits, ?_, ?_⟩
  · exact congrArg (·.1) (refused a (by rw [reserved, Bool.or_true]))
  · have hlaunching : Launching .obliging S b _ := .of_reserve exclusive rfl
    refine ⟨_, hlaunching, ?_, by decide +kernel⟩
    rw [(Registry.reserve_eq_ok hlaunching.taken).2.2, Registry.isReserved_iff_mem]
    exact List.mem_cons_of_mem _ ((Registry.isReserved_iff_mem _ _).1 reserved)

end Traffic

end JobLaunch
