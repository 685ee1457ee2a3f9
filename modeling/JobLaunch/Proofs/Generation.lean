import JobLaunch.Proofs.Effect
import JobLaunch.Proofs.Reservation

/-!
# Generations of a name

A name may be registered, taken out, and registered again. How often it has been registered tells its entries apart, and
the number of a call tells with which move it has begun.

* `Traffic.before` : the traffic before each move of a run; `Traffic.factsAt` : what the move does to entries;
* `Traffic.generation`, `Traffic.entryAt?` : how often a name has been registered before a move, and its entry there;
* `Traffic.entryAt?_of_kept`, `Traffic.generation_lt` : an entry that nobody takes out stays, and keeps its generation;
  a name that is registered again has a new one;
* `Call.Begun`, `Traffic.begun` : with which request, and on what registry, a waiting call has begun.
-/

namespace JobLaunch

open JobLaunch.Fact (replay)

/-! ## Facts -/

namespace Fact

def registers (n : String) : Fact → Bool
  | .registered name _ => name = n
  | .observed _ | .removed _ => false

variable {n : String} {f : Fact} {fs : List Fact}

theorem after_none (h : registers n f = false) : after n none f = none := by
  cases f with
  | registered name e => exact if_neg (of_decide_eq_false h)
  | observed s => exact ite_self none
  | removed name => exact ite_self none

theorem countP_registers (h : ∀ e, registered n e ∉ fs) : fs.countP (registers n) = 0 := by
  refine List.countP_eq_zero.2 fun f hf hregisters => ?_
  cases f with
  | registered name e =>
    obtain rfl : name = n := of_decide_eq_true hregisters
    exact h e hf
  | observed s => cases hregisters
  | removed name => cases hregisters

theorem countP_registers_pos (h : (replay n none fs).isSome = true) : 0 < fs.countP (registers n) := by
  induction fs with
  | nil => cases h
  | cons f fs ih =>
    rw [List.countP_cons]
    cases hf : registers n f with
    | true => exact Nat.succ_pos _
    | false =>
      rw [replay, List.foldl_cons, after_none hf] at h
      exact ih h

theorem isSome_after {e? : Option Entry} (he : e?.isSome = true) (h : f ≠ removed n) :
    (after n e? f).isSome = true := by
  cases f with
  | registered name e =>
    rw [after]
    split
    · rfl
    · exact he
  | observed s =>
    rw [after]
    split
    · rw [Option.isSome_map]
      exact he
    · exact he
  | removed name => rwa [after, if_neg fun hname => h (congrArg removed hname)]

theorem isSome_replay {e? : Option Entry} (he : e?.isSome = true) (h : removed n ∉ fs) :
    (replay n e? fs).isSome = true := by
  induction fs generalizing e? with
  | nil => exact he
  | cons f fs ih =>
    exact ih (isSome_after he fun hf => h (hf ▸ List.mem_cons_self)) fun hmem => h (List.mem_cons_of_mem f hmem)

end Fact

namespace Launcher

variable {μ : Type}

theorem name_of_mem_launchFacts {step : Step} {p : RunProgress} {n : String} {e : Entry}
    (h : .registered n e ∈ launchFacts step p) : n = step.name := by
  rcases p with (err | id) | r
  · cases h
  · cases List.mem_singleton.1 h
    rfl
  · cases h

theorem registered_not_mem_beginStopFacts (m : Machine μ) (l : Launcher) (name : String) (w : μ) (n : String)
    (e : Entry) : Fact.registered n e ∉ beginFacts m l (.stop name) w := by
  unfold beginFacts
  dsimp only
  cases l.registry.get? name with
  | none => exact List.not_mem_nil
  | some e' =>
    dsimp only
    cases l.cancelCommand? e' with
    | some command => exact List.not_mem_nil
    | none => exact registered_not_mem_takeDownFacts m l name e' w n e

end Launcher

/-! ## Waiting calls -/

/-- A waiting call has begun with a request on a launcher; a stop keeps what it has looked up. -/
def Call.Begun (l : Launcher) (request : Request) : Call → Prop
  | .stop s => request = .stop s.name ∧ l.registry.get? s.name = some s.entry
  | .run _ | .poll _ => ∀ name, request ≠ .stop name

namespace Launcher

variable {μ : Type} {m : Machine μ} {l : Launcher} {w : μ}

theorem takeDown_waiting {name : String} {e : Entry} {s : Stop} (h : (takeDown m l name e w).1 = .waiting s) :
    s.name = name ∧ s.entry = e := by
  rcases takeDown_cases m l name e w with ⟨last, hdone⟩ | ⟨p, hwait, -, -⟩
  · cases hdone.symm.trans h
  · cases hwait.symm.trans h
    exact ⟨rfl, rfl⟩

theorem resumeStop_waiting {s s' : Stop} {reply : Reply} (h : (resumeStop m l s reply w).1 = .waiting s') :
    s'.name = s.name ∧ s'.entry = s.entry := by
  obtain ⟨name, e, stage⟩ := s
  cases stage with
  | cancelling command =>
    cases reply with
    | answered answer => exact takeDown_waiting h
    | paused =>
      cases h
      exact ⟨rfl, rfl⟩
    | ended exit =>
      cases h
      exact ⟨rfl, rfl⟩
    | failed source =>
      cases h
      exact ⟨rfl, rfl⟩
  | polling p =>
    rcases stopPolling_cases name e (l.resumePoll p reply) with ⟨last, hdone⟩ | ⟨p', -, hwait⟩
    · exact absurd (hdone.symm.trans h) nofun
    · cases hwait.symm.trans h
      exact ⟨rfl, rfl⟩

theorem begun_beginCall {request : Request} {call : Call} (h : (beginCall m l request w).1 = .waiting call) :
    call.Begun l request := by
  cases request with
  | run step =>
    replace h : (beginRun m l step w).1.map Call.run Answer.launched = .waiting call := h
    obtain ⟨r, -, rfl⟩ := Progress.map_eq_waiting h
    exact nofun
  | poll names =>
    replace h : (l.beginPoll names).1.map Call.poll Answer.polled = .waiting call := h
    obtain ⟨p, -, rfl⟩ := Progress.map_eq_waiting h
    exact nofun
  | stop name =>
    replace h : (beginStop m l name w).1.map Call.stop Answer.stopped = .waiting call := h
    obtain ⟨s, hs, rfl⟩ := Progress.map_eq_waiting h
    unfold beginStop at hs
    cases hget : l.registry.get? name with
    | none =>
      rw [hget] at hs
      cases hs
    | some e =>
      rw [hget] at hs
      dsimp only at hs
      cases hcommand : l.cancelCommand? e with
      | some command =>
        rw [hcommand] at hs
        cases hs
        exact ⟨rfl, hget⟩
      | none =>
        rw [hcommand] at hs
        obtain ⟨hname, hentry⟩ := takeDown_waiting hs
        exact ⟨congrArg Request.stop hname.symm, by rw [hname, hentry, hget]⟩

theorem begun_resumeCall {l₀ : Launcher} {request : Request} {call call' : Call} {reply : Reply}
    (begun : call.Begun l₀ request) (h : (resumeCall m l call reply w).1 = .waiting call') :
    call'.Begun l₀ request := by
  cases call with
  | run r =>
    replace h : (l.resumeRun r reply).1.map Call.run Answer.launched = .waiting call' := h
    obtain ⟨r', -, rfl⟩ := Progress.map_eq_waiting h
    exact begun
  | poll p =>
    replace h : (l.resumePoll p reply).1.map Call.poll Answer.polled = .waiting call' := h
    obtain ⟨p', -, rfl⟩ := Progress.map_eq_waiting h
    exact begun
  | stop s =>
    replace h : (resumeStop m l s reply w).1.map Call.stop Answer.stopped = .waiting call' := h
    obtain ⟨s', hs, rfl⟩ := Progress.map_eq_waiting h
    obtain ⟨hname, hentry⟩ := resumeStop_waiting hs
    obtain ⟨hrequest, hget⟩ : request = .stop s.name ∧ l₀.registry.get? s.name = some s.entry := begun
    exact ⟨by rw [hname, hrequest], by rw [hname, hentry, hget]⟩

end Launcher

/-! ## Moves -/

namespace Traffic

open Launcher

variable {μ : Type} {m : Machine μ} {S : Traffic μ} {v : Move μ} {n : String}

theorem unregistered_of_registered (exclusive : Exclusive S.launch? S.launcher.registry) {e : Entry}
    (h : .registered n e ∈ S.facts m v) : S.launcher.registry.get? n = none := by
  cases v with
  | begin request =>
    cases request with
    | run step =>
      replace h : Fact.registered n e ∈ launchFacts step (beginRun m S.launcher step S.world).1 := h
      rw [name_of_mem_launchFacts h]
      cases held : S.launcher.registry.reserve step.name with
      | ok r => exact (Registry.reserve_eq_ok held).1
      | error err =>
        have hrefused : (beginRun m S.launcher step S.world).1 = .done (.error err) := by
          unfold beginRun beginRunOn
          rw [held]
        rw [hrefused] at h
        cases h
    | poll names =>
      replace h : Fact.registered n e ∈ (S.launcher.beginSightings names).map .observed := h
      simp at h
    | stop name =>
      exact absurd h (registered_not_mem_beginStopFacts m S.launcher name S.world n e)
  | resume i reply =>
    cases hi : S.call? i with
    | none =>
      rw [facts_resume_none m hi] at h
      cases h
    | some call =>
      rw [facts_resume m hi] at h
      cases call with
      | run r =>
        have hname := name_of_mem_launchFacts h
        refine exclusive.unregistered ((exclusive.reserved_iff n).2 ⟨i, ?_⟩)
        rw [launch?_of_waits hi, hname]
        rfl
      | poll p =>
        replace h : Fact.registered n e ∈ (S.launcher.resumeSightings p reply).map .observed := h
        simp at h
      | stop s => exact absurd h (registered_not_mem_resumeFacts m S.launcher s reply S.world n e)
  | forget name =>
    unfold facts at h
    dsimp only at h
    split at h <;> simp at h
  | giveUp i => cases h
  | watch v => cases h
  | beginShutdown => cases h
  | finishShutdown => cases h
  | elsewhere world => cases h

theorem call?_move {i : Nat} {call : Call} (h : (S.move m v).call? i = some call) :
    S.call? i = some call ∨
      (∃ request, v = .begin request ∧ i = S.calls.length ∧
        (beginCall m S.launcher request S.world).1 = .waiting call) ∨
      ∃ reply call₀, v = .resume i reply ∧ S.call? i = some call₀ ∧
        (resumeCall m S.launcher call₀ reply S.world).1 = .waiting call := by
  cases v with
  | begin request =>
    rw [call?_begin] at h
    split at h
    · next hi => exact Or.inr (Or.inl ⟨request, rfl, hi, Progress.call?_eq_some.1 h⟩)
    · exact Or.inl h
  | resume j reply =>
    cases hj : S.call? j with
    | none =>
      rw [move, turn_resume_none m hj] at h
      exact Or.inl h
    | some call₀ =>
      rw [call?_resume m hj] at h
      split at h
      · next hi => exact Or.inr (Or.inr ⟨reply, call₀, by rw [hi], by rw [hi, hj], Progress.call?_eq_some.1 h⟩)
      · exact Or.inl h
  | giveUp j =>
    cases hj : S.call? j with
    | none =>
      rw [move, turn_giveUp_none m hj] at h
      exact Or.inl h
    | some call₀ =>
      rw [call?_giveUp m hj] at h
      split at h
      · cases h
      · exact Or.inl h
  | forget name => exact Or.inl h
  | watch v => exact Or.inl h
  | beginShutdown => exact Or.inl h
  | finishShutdown => exact Or.inl h
  | elsewhere world => exact Or.inl h

theorem length_begin (m : Machine μ) (S : Traffic μ) (request : Request) :
    (S.move m (.begin request)).calls.length = S.calls.length + 1 := by
  show (S.calls ++ [_]).length = _
  rw [List.length_append, List.length_singleton]

theorem length_move_le (m : Machine μ) (S : Traffic μ) (v : Move μ) :
    S.calls.length ≤ (S.move m v).calls.length := by
  cases v with
  | begin request =>
    rw [length_begin]
    exact Nat.le_succ _
  | resume i reply =>
    cases hi : S.call? i with
    | none => exact Nat.le_of_eq (by rw [move, turn_resume_none m hi])
    | some call =>
      rw [move, turn_resume m hi]
      exact Nat.le_of_eq List.length_set.symm
  | giveUp i =>
    cases hi : S.call? i with
    | none => exact Nat.le_of_eq (by rw [move, turn_giveUp_none m hi])
    | some call =>
      rw [move, turn_giveUp m hi]
      exact Nat.le_of_eq List.length_set.symm
  | forget name => exact Nat.le_refl _
  | watch v => exact Nat.le_refl _
  | beginShutdown => exact Nat.le_refl _
  | finishShutdown => exact Nat.le_refl _
  | elsewhere world => exact Nat.le_refl _

/-! ## The moves of a run -/

section Run

variable {vs : List (Move μ)} {b e k : Nat}

def before (m : Machine μ) (S : Traffic μ) (vs : List (Move μ)) (k : Nat) : Traffic μ := S.run m (vs.take k)

/-- What a move of a run does to entries. -/
def factsAt (m : Machine μ) (S : Traffic μ) (vs : List (Move μ)) (k : Nat) : List Fact :=
  (vs[k]?.map ((S.before m vs k).facts m)).getD []

/-- How often a name has been registered before a move of a run. -/
def generation (m : Machine μ) (S : Traffic μ) (vs : List (Move μ)) (n : String) (k : Nat) : Nat :=
  (S.log m (vs.take k)).countP (Fact.registers n)

theorem log_append (m : Machine μ) (S : Traffic μ) (us vs : List (Move μ)) :
    S.log m (us ++ vs) = S.log m us ++ (S.run m us).log m vs := by
  induction us generalizing S with
  | nil => rfl
  | cons u us ih =>
    rw [List.cons_append, log, log, ih, List.append_assoc]
    rfl

theorem before_succ (hv : vs[k]? = some v) : S.before m vs (k + 1) = (S.before m vs k).move m v := by
  unfold before
  rw [List.take_add_one, hv, run_append]
  rfl

theorem before_succ_of_none (hv : vs[k]? = none) : S.before m vs (k + 1) = S.before m vs k := by
  unfold before
  rw [List.take_add_one, hv, Option.toList_none, List.append_nil]

theorem factsAt_eq (hv : vs[k]? = some v) : S.factsAt m vs k = (S.before m vs k).facts m v := by
  rw [factsAt, hv]
  rfl

theorem log_take_succ (m : Machine μ) (S : Traffic μ) (vs : List (Move μ)) (k : Nat) :
    S.log m (vs.take (k + 1)) = S.log m (vs.take k) ++ S.factsAt m vs k := by
  rw [List.take_add_one, log_append, factsAt]
  cases vs[k]? with
  | none => rfl
  | some v => exact congrArg (_ ++ ·) (List.append_nil _)

theorem generation_succ (m : Machine μ) (S : Traffic μ) (vs : List (Move μ)) (n : String) (k : Nat) :
    S.generation m vs n (k + 1) = S.generation m vs n k + (S.factsAt m vs k).countP (Fact.registers n) := by
  rw [generation, log_take_succ, List.countP_append]
  rfl

theorem get?_before_succ (m : Machine μ) (S : Traffic μ) (vs : List (Move μ)) (n : String) (k : Nat) :
    (S.before m vs (k + 1)).launcher.registry.get? n =
      replay n ((S.before m vs k).launcher.registry.get? n) (S.factsAt m vs k) := by
  cases hv : vs[k]? with
  | none =>
    rw [before_succ_of_none hv, factsAt, hv]
    rfl
  | some v => rw [before_succ hv, factsAt_eq hv, get?_move]

theorem wellFormed_before (formed : S.Each Call.WellFormed) (vs : List (Move μ)) (k : Nat) :
    (S.before m vs k).Each Call.WellFormed :=
  run_induction (P := Each Call.WellFormed) (fun _ v hS => wellFormed_move m hS v) formed _

theorem exclusive_before (exclusive : Exclusive S.launch? S.launcher.registry) (vs : List (Move μ)) (k : Nat) :
    Exclusive (S.before m vs k).launch? (S.before m vs k).launcher.registry :=
  run_induction (P := fun S => Exclusive S.launch? S.launcher.registry) (fun S v h => h.turnover (turnover m S v))
    exclusive _

/-- Every waiting call has begun with a move of the run. -/
theorem begun (idle : S.calls = []) {i : Nat} {call : Call} (h : (S.before m vs k).call? i = some call) :
    ∃ b < k, ∃ request, vs[b]? = some (.begin request) ∧ (S.before m vs b).calls.length = i ∧
      call.Begun (S.before m vs b).launcher request := by
  induction k generalizing call with
  | zero =>
    replace h : S.calls[i]?.join = some call := h
    rw [idle] at h
    cases h
  | succ k ih =>
    have hearlier : ∀ {call}, (S.before m vs k).call? i = some call → ∃ b < k + 1, ∃ request,
        vs[b]? = some (.begin request) ∧ (S.before m vs b).calls.length = i ∧
          call.Begun (S.before m vs b).launcher request := by
      intro call hcall
      obtain ⟨b, hb, hbegun⟩ := ih hcall
      exact ⟨b, Nat.lt_succ_of_lt hb, hbegun⟩
    cases hv : vs[k]? with
    | none =>
      rw [before_succ_of_none hv] at h
      exact hearlier h
    | some v =>
      rw [before_succ hv] at h
      rcases call?_move h with h | ⟨request, rfl, rfl, hbegin⟩ | ⟨reply, call₀, rfl, hcall, hresume⟩
      · exact hearlier h
      · exact ⟨k, Nat.lt_succ_self k, request, hv, rfl, begun_beginCall hbegin⟩
      · obtain ⟨b, hb, request, hrequest, hlength, hbegun⟩ := hearlier hcall
        exact ⟨b, hb, request, hrequest, hlength, begun_resumeCall hbegun hresume⟩

theorem length_before_le (m : Machine μ) (S : Traffic μ) (vs : List (Move μ)) (h : b ≤ k) :
    (S.before m vs b).calls.length ≤ (S.before m vs k).calls.length := by
  induction h with
  | refl => exact Nat.le_refl _
  | @step k _ ih =>
    refine Nat.le_trans ih ?_
    cases hv : vs[k]? with
    | none => exact Nat.le_of_eq (by rw [before_succ_of_none hv])
    | some v =>
      rw [before_succ hv]
      exact length_move_le m _ v

theorem length_before_lt {request : Request} (hb : vs[b]? = some (.begin request)) (h : b < k) :
    (S.before m vs b).calls.length < (S.before m vs k).calls.length := by
  refine Nat.lt_of_lt_of_le ?_ (length_before_le m S vs h)
  rw [before_succ hb, length_begin]
  exact Nat.lt_succ_self _

theorem begin_unique {request request' : Request} (hb : vs[b]? = some (.begin request))
    (hk : vs[k]? = some (.begin request')) (h : (S.before m vs b).calls.length = (S.before m vs k).calls.length) :
    b = k := by
  rcases Nat.lt_trichotomy b k with hlt | heq | hlt
  · exact absurd h (Nat.ne_of_lt (length_before_lt hb hlt))
  · exact heq
  · exact absurd h.symm (Nat.ne_of_lt (length_before_lt hk hlt))

/-! ## Generations -/

/-- The entry of a name before a move of a run. -/
def entryAt? (m : Machine μ) (S : Traffic μ) (vs : List (Move μ)) (n : String) (k : Nat) : Option Entry :=
  (S.before m vs k).launcher.registry.get? n

theorem generation_le_succ (m : Machine μ) (S : Traffic μ) (vs : List (Move μ)) (n : String) (k : Nat) :
    S.generation m vs n k ≤ S.generation m vs n (k + 1) := by
  rw [generation_succ]
  exact Nat.le_add_right _ _

theorem generation_le (m : Machine μ) (S : Traffic μ) (vs : List (Move μ)) (n : String) (h : b ≤ k) :
    S.generation m vs n b ≤ S.generation m vs n k := by
  induction h with
  | refl => exact Nat.le_refl _
  | step _ ih => exact Nat.le_trans ih (generation_le_succ m S vs n _)

theorem generation_succ_of_isSome (exclusive : Exclusive S.launch? S.launcher.registry)
    (h : (S.entryAt? m vs n k).isSome = true) : S.generation m vs n (k + 1) = S.generation m vs n k := by
  rw [generation_succ, Fact.countP_registers, Nat.add_zero]
  intro e he
  cases hv : vs[k]? with
  | none =>
    rw [factsAt, hv] at he
    cases he
  | some v =>
    rw [factsAt_eq hv] at he
    rw [entryAt?, unregistered_of_registered (exclusive_before exclusive vs k) he] at h
    cases h

theorem isSome_entryAt?_succ (h : (S.entryAt? m vs n k).isSome = true) (kept : .removed n ∉ S.factsAt m vs k) :
    (S.entryAt? m vs n (k + 1)).isSome = true := by
  rw [entryAt?, get?_before_succ]
  exact Fact.isSome_replay h kept

theorem entryAt?_of_kept (exclusive : Exclusive S.launch? S.launcher.registry) (hle : b ≤ e)
    (h : (S.entryAt? m vs n b).isSome = true) (kept : ∀ k, b ≤ k → k < e → .removed n ∉ S.factsAt m vs k) :
    (S.entryAt? m vs n e).isSome = true ∧ S.generation m vs n e = S.generation m vs n b := by
  induction hle with
  | refl => exact ⟨h, rfl⟩
  | @step e hle ih =>
    obtain ⟨hsome, hsame⟩ := ih fun k hb he => kept k hb (Nat.lt_succ_of_lt he)
    exact ⟨isSome_entryAt?_succ hsome (kept e hle (Nat.lt_succ_self e)),
      (generation_succ_of_isSome exclusive hsome).trans hsame⟩

theorem generation_lt (hle : b ≤ e) (hb : S.entryAt? m vs n b = none) (he : (S.entryAt? m vs n e).isSome = true) :
    S.generation m vs n b < S.generation m vs n e := by
  induction hle with
  | refl =>
    rw [hb] at he
    cases he
  | @step e hle ih =>
    cases hprev : S.entryAt? m vs n e with
    | some entry =>
      refine Nat.lt_of_lt_of_le (ih ?_) (generation_le_succ m S vs n e)
      rw [hprev]
      rfl
    | none =>
      refine Nat.lt_of_le_of_lt (generation_le m S vs n hle) ?_
      rw [generation_succ]
      refine Nat.lt_add_of_pos_right (Fact.countP_registers_pos ?_)
      rwa [entryAt?, get?_before_succ, show (S.before m vs e).launcher.registry.get? n = none from hprev] at he

end Run

end Traffic

end JobLaunch
