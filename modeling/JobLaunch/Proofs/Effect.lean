import JobLaunch.Proofs.Replay

/-!
# What one move can do to entries

* `Call.WellFormed` : what holds of every waiting call (`Traffic.Reachable.wellFormed`);
* `Traffic.Effect`, `Traffic.effect` : all that a move can do to entries, with what it answers.
-/

namespace JobLaunch

def Poll.About (p : Poll) (name : String) : Prop := p.names = [name] ∧ ∀ q ∈ p.queried, q.1 = name

/-- A poll asks about a name under one job id. -/
def Poll.Consistent (p : Poll) : Prop := ∀ q ∈ p.queried, ∀ q' ∈ p.queried, q.1 = q'.1 → q.2 = q'.2

/-- What holds of a waiting call: it asks about a name under one job id, only managed jobs are cancelled, and the last
poll of a stop asks about its own name. -/
def Call.WellFormed : Call → Prop
  | .run _ => True
  | .poll p => p.Consistent
  | .stop ⟨_, e, .cancelling _⟩ => e.managed = true
  | .stop ⟨name, _, .polling p⟩ => p.About name ∧ p.Consistent

theorem Registry.idOf?_eq_some {r : Registry} {managed : Bool} {name : String} {q : String × TrackingId}
    (h : r.idOf? managed name = some q) : q.1 = name ∧ ∃ e, r.get? name = some e ∧ e.managed = managed ∧
      e.trackingId? = some q.2 := by
  unfold idOf? at h
  obtain ⟨e, hget, he⟩ := Option.bind_eq_some_iff.1 h
  by_cases hm : e.managed = managed
  · rw [if_pos hm] at he
    obtain ⟨id, hid, rfl⟩ := Option.map_eq_some_iff.1 he
    exact ⟨rfl, e, hget, hm, hid⟩
  · rw [if_neg hm] at he
    cases he

theorem Progress.map_eq_waiting {σ τ α β : Type} {f : σ → τ} {g : α → β} {p : Progress σ α} {call : τ}
    (h : p.map f g = .waiting call) : ∃ c, p = .waiting c ∧ call = f c := by
  cases p with
  | done result => cases h
  | waiting c =>
    cases h
    exact ⟨c, rfl, rfl⟩

namespace Launcher

variable {μ : Type}

theorem mem_idsOf {l : Launcher} {names : List String} {managed : Bool} {q : String × TrackingId}
    (h : q ∈ l.registry.idsOf names managed) : q.1 ∈ names ∧ ∃ e, l.registry.get? q.1 = some e ∧
      e.managed = managed ∧ e.trackingId? = some q.2 := by
  obtain ⟨name, hname, hq⟩ := List.mem_filterMap.1 h
  obtain ⟨rfl, he⟩ := Registry.idOf?_eq_some hq
  exact ⟨hname, he⟩

theorem about_asked (l : Launcher) (name : String) : (l.asked [name]).About name := by
  refine ⟨rfl, fun q hq => ?_⟩
  obtain ⟨e, he, rfl⟩ := List.mem_map.1 hq
  exact List.mem_singleton.1 (mem_idsOf he).1

theorem consistent_asked (l : Launcher) (names : List String) : (l.asked names).Consistent := by
  intro q hq q' hq' hname
  obtain ⟨a, ha, rfl⟩ := List.mem_map.1 hq
  obtain ⟨b, hb, rfl⟩ := List.mem_map.1 hq'
  obtain ⟨-, e, hget, -, hid⟩ := mem_idsOf ha
  obtain ⟨-, e', hget', -, hid'⟩ := mem_idsOf hb
  dsimp only at hname ⊢
  rw [hname, hget'] at hget
  obtain rfl := Option.some.inj hget
  rw [Option.some.inj (hid.symm.trans hid')]

theorem name_of_mem_sightings {l : Launcher} {p : Poll} {name : String} {x : Sighting}
    {answer : Option (Except String CommandOutput)} (about : p.About name) (hx : x ∈ l.sightings p answer) :
    x.name = name := by
  rcases List.mem_append.1 hx with hx | hx
  · obtain ⟨q, hq, rfl⟩ := List.mem_map.1 hx
    exact about.2 q hq
  · obtain ⟨e, he, rfl⟩ := List.mem_map.1 hx
    have hname := (mem_idsOf he).1
    rw [about.1] at hname
    exact List.mem_singleton.1 hname

theorem mem_beginSightings {l : Launcher} {names : List String} {x : Sighting} (hx : x ∈ l.beginSightings names) :
    x ∈ l.sightings (l.asked names) none := by
  unfold beginSightings at hx
  split at hx
  · exact hx
  · cases hx

theorem mem_resumeSightings {l : Launcher} {p : Poll} {reply : Reply} {x : Sighting}
    (hx : x ∈ l.resumeSightings p reply) : ∃ answer, x ∈ l.sightings p answer := by
  cases reply with
  | answered answer => exact ⟨_, hx⟩
  | paused => cases hx
  | ended exit => cases hx
  | failed source => cases hx

/-! ## Stops -/

theorem name_of_mem_takeDownSightings {m : Machine μ} {l : Launcher} {name : String} {e : Entry} {w : μ} {x : Sighting}
    (hx : x ∈ takeDownSightings m l name e w) : x.name = name := by
  unfold takeDownSightings at hx
  dsimp only at hx
  split at hx
  · exact name_of_mem_sightings (about_asked _ name) (mem_beginSightings hx)
  · rw [List.mem_singleton.1 hx]

theorem stopPolling_cases (name : String) (e : Entry) (next : PollProgress × Launcher) :
    (∃ last, (stopPolling name e next).1 = .done (.ok last)) ∨
      ∃ p, next.1 = .waiting p ∧ (stopPolling name e next).1 = .waiting ⟨name, e, .polling p⟩ := by
  obtain ⟨reports | p, l⟩ := next
  · exact Or.inl ⟨_, rfl⟩
  · exact Or.inr ⟨p, rfl, rfl⟩

theorem beginPoll_waiting {l : Launcher} {names : List String} {p : Poll} (h : (l.beginPoll names).1 = .waiting p) :
    p = l.asked names ∧ l.beginSightings names = [] := by
  rcases beginPoll_cases l names with ⟨hwait, hnone⟩ | hdone
  · rw [hwait] at h
    cases h
    exact ⟨rfl, hnone⟩
  · rw [hdone] at h
    cases h

theorem resumePoll_waiting {l : Launcher} {p p' : Poll} {reply : Reply} (h : (l.resumePoll p reply).1 = .waiting p') :
    p' = p ∧ l.resumeSightings p reply = [] := by
  rcases resumePoll_cases l p reply with ⟨hwait, hnone⟩ | ⟨answer, -, hdone⟩
  · rw [hwait] at h
    cases h
    exact ⟨rfl, hnone⟩
  · rw [hdone] at h
    cases h

theorem takeDown_cases (m : Machine μ) (l : Launcher) (name : String) (e : Entry) (w : μ) :
    (∃ last, (takeDown m l name e w).1 = .done (.ok last)) ∨
      ∃ p, (takeDown m l name e w).1 = .waiting ⟨name, e, .polling p⟩ ∧ (p.About name ∧ p.Consistent) ∧
        takeDownSightings m l name e w = [] := by
  unfold takeDown takeDownSightings
  obtain ⟨seen, l', w'⟩ := dropTask m l e w
  dsimp only
  cases e.managed with
  | true =>
    rw [if_pos rfl, if_pos rfl]
    rcases stopPolling_cases name e (l'.beginPoll [name]) with hdone | ⟨p, hp, hwait⟩
    · exact Or.inl hdone
    · obtain ⟨rfl, hnone⟩ := beginPoll_waiting hp
      exact Or.inr ⟨_, hwait, ⟨about_asked l' name, consistent_asked l' [name]⟩, hnone⟩
  | false =>
    rw [if_neg Bool.false_ne_true]
    exact Or.inl ⟨_, rfl⟩

theorem wellFormed_beginCall (m : Machine μ) (l : Launcher) (request : Request) (w : μ) {call : Call}
    (h : (beginCall m l request w).1 = .waiting call) : call.WellFormed := by
  cases request with
  | run step =>
    replace h : (beginRun m l step w).1.map Call.run Answer.launched = .waiting call := h
    obtain ⟨r, -, rfl⟩ := Progress.map_eq_waiting h
    trivial
  | poll names =>
    replace h : (l.beginPoll names).1.map Call.poll Answer.polled = .waiting call := h
    obtain ⟨p, hp, rfl⟩ := Progress.map_eq_waiting h
    obtain ⟨rfl, -⟩ := beginPoll_waiting hp
    exact consistent_asked l names
  | stop name =>
    replace h : (beginStop m l name w).1.map Call.stop Answer.stopped = .waiting call := h
    obtain ⟨s, hs, rfl⟩ := Progress.map_eq_waiting h
    unfold beginStop at hs
    split at hs
    · cases hs
    · next e _ =>
      split at hs
      · next command hcommand =>
        cases hs
        show e.managed = true
        unfold cancelCommand? at hcommand
        split at hcommand
        · assumption
        · cases hcommand
      · rcases takeDown_cases m l name e w with ⟨last, hdone⟩ | ⟨p, hwait, formed, -⟩
        · rw [hdone] at hs
          cases hs
        · rw [hwait] at hs
          cases hs
          exact formed

theorem wellFormed_resumeCall (m : Machine μ) (l : Launcher) {call call' : Call} (reply : Reply) (w : μ)
    (formed : call.WellFormed) (h : (resumeCall m l call reply w).1 = .waiting call') : call'.WellFormed := by
  cases call with
  | run r =>
    replace h : (l.resumeRun r reply).1.map Call.run Answer.launched = .waiting call' := h
    obtain ⟨r', -, rfl⟩ := Progress.map_eq_waiting h
    trivial
  | poll p =>
    replace h : (l.resumePoll p reply).1.map Call.poll Answer.polled = .waiting call' := h
    obtain ⟨p', hp, rfl⟩ := Progress.map_eq_waiting h
    obtain ⟨rfl, -⟩ := resumePoll_waiting hp
    exact formed
  | stop s =>
    replace h : (resumeStop m l s reply w).1.map Call.stop Answer.stopped = .waiting call' := h
    obtain ⟨s', hs, rfl⟩ := Progress.map_eq_waiting h
    obtain ⟨name, e, stage⟩ := s
    cases stage with
    | cancelling command =>
      cases reply with
      | answered answer =>
        rcases takeDown_cases m (l.noteCancel name answer) name e w with ⟨last, hdone⟩ | ⟨p, hwait, formed', -⟩
        · exact absurd (hdone.symm.trans hs) nofun
        · cases hwait.symm.trans hs
          exact formed'
      | paused =>
        cases hs
        exact formed
      | ended exit =>
        cases hs
        exact formed
      | failed source =>
        cases hs
        exact formed
    | polling p =>
      rcases stopPolling_cases name e (l.resumePoll p reply) with ⟨last, hdone⟩ | ⟨p', hp, hwait⟩
      · exact absurd (hdone.symm.trans hs) nofun
      · obtain ⟨rfl, -⟩ := resumePoll_waiting hp
        cases hwait.symm.trans hs
        exact formed

end Launcher

namespace Traffic

open Launcher

variable {μ : Type}

theorem wellFormed_move (m : Machine μ) {S : Traffic μ} (h : S.Each Call.WellFormed) (v : Move μ) :
    (S.move m v).Each Call.WellFormed :=
  each_move (fun l request w _ hb => wellFormed_beginCall m l request w hb)
    (fun l _ reply w _ hf hr => wellFormed_resumeCall m l reply w hf hr) h v

/-- It has come about by moves on a launcher with no call under way. -/
def Reachable (m : Machine μ) (S : Traffic μ) : Prop := ∃ l w vs, S = (quiet l w).run m vs

theorem Reachable.wellFormed {m : Machine μ} {S : Traffic μ} (h : S.Reachable m) : S.Each Call.WellFormed := by
  obtain ⟨l, w, vs, rfl⟩ := h
  exact run_induction (P := Each Call.WellFormed) (fun _ v hS => wellFormed_move m hS v) (each_quiet _ l w) vs

def Silent (a : Option Answer) : Prop := ∀ reports, a ≠ some (.polled reports)

inductive Effect (S : Traffic μ) : Move μ → List Fact → Option Answer → Prop
  | quiet (v : Move μ) (a : Option Answer) (silent : Silent a) : Effect S v [] a
  | registers (v : Move μ) (name : String) (e : Entry) (new : e.last = none) (a : Option Answer) (silent : Silent a) :
    Effect S v [.registered name e] a
  | asks (names : List String) : Effect S (.begin (.poll names)) ((S.launcher.beginSightings names).map .observed)
    (some (.polled (S.launcher.record (S.launcher.beginSightings names)).1))
  | hears (i : Nat) (p : Poll) (answer : Except String CommandOutput) (waits : S.call? i = some (.poll p)) :
    Effect S (.resume i (.answered answer)) ((S.launcher.sightings p (some answer)).map .observed)
      (some (.polled (S.launcher.record (S.launcher.sightings p (some answer))).1))
  | removes (v : Move μ) (name : String) (xs : List Sighting) (own : ∀ x ∈ xs, x.name = name) (a : Option Answer)
    (silent : Silent a) : Effect S v (xs.map .observed ++ [.removed name]) a

variable {m : Machine μ} {S : Traffic μ} {l : Launcher} {w : μ}

theorem silent_none : Silent none := by
  intro reports h
  cases h

theorem silent_launched (p : RunProgress) : Silent (p.map Call.run Answer.launched).result? := by
  intro reports h
  cases p <;> cases h

theorem silent_stopped (p : StopProgress) : Silent (p.map Call.stop Answer.stopped).result? := by
  intro reports h
  cases p <;> cases h

theorem effect_launchFacts (v : Move μ) (step : Step) (p : RunProgress) :
    Effect S v (launchFacts step p) (p.map Call.run Answer.launched).result? := by
  rcases p with (e | id) | r
  · exact .quiet _ _ (silent_launched _)
  · exact .registers _ _ _ rfl _ (silent_launched _)
  · exact .quiet _ _ (silent_launched _)

theorem effect_takeDown (v : Move μ) (name : String) (e : Entry) :
    Effect S v (takeDownFacts m l name e w)
      ((takeDown m l name e w).1.map Call.stop Answer.stopped).result? := by
  unfold takeDownFacts
  rcases takeDown_cases m l name e w with ⟨last, hdone⟩ | ⟨p, hwait, -, hnone⟩
  · have hstop : stopFacts name (takeDown m l name e w).1 = [.removed name] := by rw [hdone]; rfl
    rw [hstop]
    exact .removes _ _ _ (fun x hx => name_of_mem_takeDownSightings hx) _ (silent_stopped _)
  · rw [hnone, hwait]
    exact .quiet _ _ (silent_stopped _)

theorem effect_begin (m : Machine μ) (S : Traffic μ) (request : Request) :
    Effect S (.begin request) (S.facts m (.begin request)) (S.answer? m (.begin request)) := by
  cases request with
  | run step => exact effect_launchFacts _ step (beginRun m S.launcher step S.world).1
  | poll names =>
    show Effect S _ ((S.launcher.beginSightings names).map .observed)
      ((S.launcher.beginPoll names).1.map Call.poll Answer.polled).result?
    rcases beginPoll_cases S.launcher names with ⟨h, hnone⟩ | h
    · rw [h, hnone]
      exact .quiet _ _ nofun
    · rw [h]
      exact .asks names
  | stop name =>
    show Effect S _ (beginFacts m S.launcher (.stop name) S.world)
      ((beginStop m S.launcher name S.world).1.map Call.stop Answer.stopped).result?
    unfold beginFacts beginStop
    dsimp only
    cases S.launcher.registry.get? name with
    | none => exact .quiet _ _ nofun
    | some e =>
      dsimp only
      cases S.launcher.cancelCommand? e with
      | some command => exact .quiet _ _ nofun
      | none => exact effect_takeDown _ name e

theorem effect_resume (formed : S.Each Call.WellFormed) {i : Nat} {call : Call} (hi : S.call? i = some call)
    (reply : Reply) : Effect S (.resume i reply) (resumeFacts m S.launcher call reply S.world)
      (resumeCall m S.launcher call reply S.world).1.result? := by
  cases call with
  | run r => exact effect_launchFacts _ r.step (S.launcher.resumeRun r reply).1
  | poll p =>
    show Effect S _ ((S.launcher.resumeSightings p reply).map .observed)
      ((S.launcher.resumePoll p reply).1.map Call.poll Answer.polled).result?
    rcases resumePoll_cases S.launcher p reply with ⟨h, hnone⟩ | ⟨answer, rfl, h⟩
    · rw [h, hnone]
      exact .quiet _ _ nofun
    · rw [h]
      exact .hears i p answer hi
  | stop s =>
    obtain ⟨name, e, stage⟩ := s
    cases stage with
    | cancelling command =>
      cases reply with
      | answered answer => exact effect_takeDown _ name e
      | paused => exact .quiet _ _ nofun
      | ended exit => exact .quiet _ _ nofun
      | failed source => exact .quiet _ _ nofun
    | polling p =>
      obtain ⟨about, -⟩ : p.About name ∧ p.Consistent := formed i _ hi
      show Effect S _ ((S.launcher.resumeSightings p reply).map .observed ++
          stopFacts name (stopPolling name e (S.launcher.resumePoll p reply)).1)
        ((stopPolling name e (S.launcher.resumePoll p reply)).1.map Call.stop Answer.stopped).result?
      rcases stopPolling_cases name e (S.launcher.resumePoll p reply) with ⟨last, hdone⟩ | ⟨p', hp, hwait⟩
      · rw [hdone]
        refine .removes _ _ _ (fun x hx => ?_) _ nofun
        obtain ⟨answer, hx⟩ := mem_resumeSightings hx
        exact name_of_mem_sightings about hx
      · obtain ⟨-, hnone⟩ := resumePoll_waiting hp
        rw [hwait, hnone]
        exact .quiet _ _ nofun

/-- **All that a move can do to entries.** -/
theorem effect (m : Machine μ) (formed : S.Each Call.WellFormed) (v : Move μ) :
    Effect S v (S.facts m v) (S.answer? m v) := by
  cases v with
  | begin request => exact effect_begin m S request
  | resume i reply =>
    cases hi : S.call? i with
    | none =>
      rw [answer?, turn_resume_none m hi, facts_resume_none m hi]
      exact .quiet _ _ silent_none
    | some call =>
      rw [answer?, turn_resume m hi, facts_resume m hi]
      exact effect_resume formed hi reply
  | giveUp i =>
    cases hi : S.call? i with
    | none =>
      rw [answer?, turn_giveUp_none m hi]
      exact .quiet _ _ silent_none
    | some call =>
      rw [answer?, turn_giveUp m hi]
      exact .quiet _ _ silent_none
  | forget name =>
    show Effect S _ (if S.launcher.registry.contains name then [.removed name] else []) none
    split
    · exact .removes _ name [] (fun x hx => absurd hx List.not_mem_nil) none silent_none
    · exact .quiet _ _ silent_none
  | watch v => exact .quiet _ _ silent_none
  | beginShutdown => exact .quiet _ _ silent_none
  | finishShutdown => exact .quiet _ _ silent_none
  | elsewhere world => exact .quiet _ _ silent_none

end Traffic

end JobLaunch
