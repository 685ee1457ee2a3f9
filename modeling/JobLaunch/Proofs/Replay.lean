import JobLaunch.Proofs.Traffic

/-!
# The registry from the log

What moves do to the entry of a name can be replayed from their log.

* `Launcher.record` : sightings are recorded; every poll ends so (`Launcher.finishPoll_eq`);
* `Fact.replay` : the entry of a name after facts; `Fact.replay_induction` : what holds of it;
* `Traffic.get?_move`, `Traffic.get?_run` : it is the registered entry.
-/

namespace JobLaunch

/-! ## Polls record sightings -/

namespace Launcher

def record (l : Launcher) (xs : List Sighting) : List Report × Launcher :=
  ((l.registry.observeAll (xs.map (·.report))).1,
    { l with registry := (l.registry.observeAll (xs.map (·.report))).2 })

theorem unknowns_eq (l : Launcher) (p : Poll) : p.unknowns = p.ids.map (l.jobSnapshot none) := by
  have htell : ∀ id, l.jobSnapshot none id = Snapshot.unknown := by
    intro id
    unfold jobSnapshot
    cases l.backend.scheduler? <;> rfl
  simp [Poll.unknowns, Poll.ids, htell, Function.comp_def]

theorem answeredSnapshots_eq (l : Launcher) (p : Poll) (answer : Except String CommandOutput) :
    l.answeredSnapshots p answer = p.ids.map (l.jobSnapshot (some answer)) := by
  unfold answeredSnapshots jobSnapshot
  cases l.backend.scheduler? with
  | none => simp [Poll.unknowns, Poll.ids, Function.comp_def]
  | some s =>
    cases answer with
    | error e => simp [Poll.unknowns, Poll.ids, Function.comp_def]
    | ok output => exact s.snapshots_eq_map output p.ids

theorem finishPoll_eq (l : Launcher) (p : Poll) (answer : Option (Except String CommandOutput)) :
    l.finishPoll p (p.ids.map (l.jobSnapshot answer)) = l.record (l.sightings p answer) := by
  have hmanaged : p.reports (p.ids.map (l.jobSnapshot answer)) =
      (p.queried.map fun q => (⟨q.1, some (.step q.2), l.jobSnapshot answer q.2⟩ : Sighting)).map (·.report) := by
    simp [Poll.reports, Poll.ids, Sighting.report, List.zip_map', Function.comp_def]
  have hunmanaged : (l.registry.idsOf p.names false).map (fun e => (e.1, l.unmanagedSnapshot e.2)) =
      ((l.registry.idsOf p.names false).map fun e =>
        (⟨e.1, some e.2, l.unmanagedSnapshot e.2⟩ : Sighting)).map (·.report) := by
    simp [Sighting.report, Function.comp_def]
  unfold finishPoll record sightings
  rw [List.map_append, Registry.observeAll_append, ← hmanaged, ← hunmanaged]
  simp only [Registry.idsOf_observeAll]

theorem beginPoll_cases (l : Launcher) (names : List String) :
    l.beginPoll names = (.waiting (l.asked names), l) ∧ l.beginSightings names = [] ∨
      l.beginPoll names = (.done (l.record (l.beginSightings names)).1, (l.record (l.beginSightings names)).2) := by
  have hbegin : l.beginPoll names =
      if ((l.asked names).queried.isEmpty || l.backend.scheduler?.isNone) = true then
        (.done (l.finishPoll (l.asked names) (l.asked names).unknowns).1,
          (l.finishPoll (l.asked names) (l.asked names).unknowns).2)
      else (.waiting (l.asked names), l) := rfl
  unfold beginSightings
  rw [hbegin, unknowns_eq l, finishPoll_eq]
  split
  · exact Or.inr rfl
  · exact Or.inl ⟨rfl, rfl⟩

theorem resumePoll_cases (l : Launcher) (p : Poll) (reply : Reply) :
    l.resumePoll p reply = (.waiting p, l) ∧ l.resumeSightings p reply = [] ∨
      ∃ answer, reply = .answered answer ∧ l.resumePoll p reply =
        (.done (l.record (l.sightings p (some answer))).1, (l.record (l.sightings p (some answer))).2) := by
  cases reply with
  | paused => exact Or.inl ⟨rfl, rfl⟩
  | ended exit => exact Or.inl ⟨rfl, rfl⟩
  | failed source => exact Or.inl ⟨rfl, rfl⟩
  | answered answer =>
    refine Or.inr ⟨answer, rfl, ?_⟩
    unfold resumePoll
    rw [← finishPoll_eq, ← answeredSnapshots_eq]

end Launcher

/-! ## Replaying facts -/

namespace Fact

def after (n : String) (e? : Option Entry) : Fact → Option Entry
  | .registered name e => if name = n then some e else e?
  | .observed s => if s.name = n then e?.map (·.see s.fresh) else e?
  | .removed name => if name = n then none else e?

def replay (n : String) (e? : Option Entry) (fs : List Fact) : Option Entry := fs.foldl (after n) e?

theorem replay_append (n : String) (e? : Option Entry) (fs gs : List Fact) :
    replay n e? (fs ++ gs) = replay n (replay n e? fs) gs := List.foldl_append

/-- What holds of the entries that are registered, and goes on to hold of an entry with a new snapshot, holds after any
facts. -/
theorem replay_induction {P : Entry → Prop} {n : String} {fs : List Fact}
    (registered : ∀ name e, .registered name e ∈ fs → P e)
    (observed : ∀ x, .observed x ∈ fs → ∀ e, P e → P (e.see x.fresh)) {e? : Option Entry} (start : ∀ e ∈ e?, P e) :
    ∀ e ∈ replay n e? fs, P e := by
  induction fs generalizing e? with
  | nil => exact start
  | cons f fs ih =>
    refine ih (fun name e he => registered name e (List.mem_cons_of_mem f he))
      (fun x hx => observed x (List.mem_cons_of_mem f hx)) ?_
    show ∀ e ∈ after n e? f, P e
    unfold after
    cases f with
    | registered name e =>
      dsimp only
      split
      · intro e' he'
        cases he'
        exact registered name e List.mem_cons_self
      · exact start
    | observed x =>
      dsimp only
      split
      · intro e' he'
        obtain ⟨e, he, rfl⟩ := Option.map_eq_some_iff.1 he'
        exact observed x List.mem_cons_self e (start e he)
      · exact start
    | removed name =>
      dsimp only
      split
      · intro e he
        cases he
      · exact start

end Fact

namespace Launcher

open JobLaunch.Fact (replay)

theorem get?_record (l : Launcher) (xs : List Sighting) (n : String) :
    (l.record xs).2.registry.get? n = replay n (l.registry.get? n) (xs.map .observed) := by
  show (l.registry.observeAll (xs.map (·.report))).2.get? n = _
  generalize l.registry = r
  induction xs generalizing r with
  | nil => rfl
  | cons x xs ih =>
    show ((r.observe x.name x.fresh).2.observeAll (xs.map (·.report))).2.get? n = _
    rw [ih, Registry.get?_observe]
    simp only [List.map_cons, Fact.replay, List.foldl_cons, Fact.after, eq_comm]

theorem get?_complete (l : Launcher) (step : Step) (id : StepIdentifier) (n : String) :
    (l.complete step id).2.registry.get? n =
      replay n (l.registry.get? n) (launchFacts step (.done (l.complete step id).1)) := by
  rcases complete_cases l step id with ⟨reporter, h⟩ | ⟨e, h⟩
  · rw [h]
    show (l.registry.entries.insert step.name (step.entry id)).get? n =
      if step.name = n then some (step.entry id) else l.registry.get? n
    rw [Dict.get?_insert]
    simp only [eq_comm, Registry.get?]
  · rw [h]
    rfl

theorem get?_beginRun (m : Machine μ) (l : Launcher) (step : Step) (w : μ) (n : String) :
    (beginRun m l step w).2.1.registry.get? n =
      replay n (l.registry.get? n) (launchFacts step (beginRun m l step w).1) := by
  cases held : l.registry.reserve step.name with
  | error e =>
    unfold beginRun beginRunOn
    rw [held]
    rfl
  | ok r =>
    obtain ⟨-, -, rfl⟩ := Registry.reserve_eq_ok held
    rw [beginRun_eq m w held]
    dsimp only
    cases (attempt m l.backend l.supervisor.start step w).1 with
    | failed e => rfl
    | started id => exact get?_complete _ step (.task id) n
    | submitted scheduler p => rfl

theorem get?_resumeRun (l : Launcher) (r : Run) (reply : Reply) (n : String) :
    (l.resumeRun r reply).2.registry.get? n =
      replay n (l.registry.get? n) (launchFacts r.step (l.resumeRun r reply).1) := by
  have hcases := resumed l r reply
  generalize l.resumeRun r reply = next at hcases
  cases hcases with
  | waits stage => rfl
  | fails reporter e plain => rfl
  | succeeds reporter job => exact get?_complete _ r.step (.scheduler job) n

theorem get?_beginPoll (l : Launcher) (names : List String) (n : String) :
    (l.beginPoll names).2.registry.get? n =
      replay n (l.registry.get? n) ((l.beginSightings names).map .observed) := by
  rcases beginPoll_cases l names with ⟨h, hnone⟩ | h
  · rw [h, hnone]
    rfl
  · rw [h]
    exact get?_record l _ n

theorem get?_resumePoll (l : Launcher) (p : Poll) (reply : Reply) (n : String) :
    (l.resumePoll p reply).2.registry.get? n =
      replay n (l.registry.get? n) ((l.resumeSightings p reply).map .observed) := by
  rcases resumePoll_cases l p reply with ⟨h, hnone⟩ | ⟨answer, rfl, h⟩
  · rw [h, hnone]
    rfl
  · rw [h]
    exact get?_record l _ n

theorem get?_stopPolling (name : String) (e : Entry) (next : PollProgress × Launcher) (n : String) :
    (stopPolling name e next).2.registry.get? n =
      replay n (next.2.registry.get? n) (stopFacts name (stopPolling name e next).1) := by
  obtain ⟨reports | p, l⟩ := next
  · show (l.registry.remove name).get? n = if name = n then none else l.registry.get? n
    rw [Registry.get?_remove]
    simp only [eq_comm]
  · rfl

@[simp] theorem registry_dropTask (m : Machine μ) (l : Launcher) (e : Entry) (w : μ) :
    (dropTask m l e w).2.1.registry = l.registry := by
  unfold dropTask
  cases e.taskId <;> rfl

theorem get?_takeDown (m : Machine μ) (l : Launcher) (name : String) (e : Entry) (w : μ) (n : String) :
    (takeDown m l name e w).2.1.registry.get? n =
      replay n (l.registry.get? n) (takeDownFacts m l name e w) := by
  unfold takeDownFacts takeDown takeDownSightings
  rw [Fact.replay_append, ← registry_dropTask m l e w]
  obtain ⟨seen, l', w'⟩ := dropTask m l e w
  dsimp only
  cases e.managed with
  | true =>
    rw [if_pos rfl, if_pos rfl, ← get?_beginPoll]
    exact get?_stopPolling name e _ n
  | false =>
    rw [if_neg Bool.false_ne_true, if_neg Bool.false_ne_true]
    show ((l'.registry.observe name _).2.remove name).get? n = if name = n then none else _
    rw [Registry.get?_remove, Registry.get?_observe]
    by_cases hn : n = name
    · rw [if_pos hn, if_pos hn.symm]
    · rw [if_neg hn, if_neg hn, if_neg (Ne.symm hn)]
      exact (if_neg (Ne.symm hn)).symm

theorem registry_noteCancel (l : Launcher) (name : String) (answer : Except String CommandOutput) :
    (l.noteCancel name answer).registry = l.registry := by
  unfold noteCancel
  cases answer with
  | ok output =>
    dsimp only
    split <;> rfl
  | error message => rfl

theorem get?_beginCall (m : Machine μ) (l : Launcher) (request : Request) (w : μ) (n : String) :
    (beginCall m l request w).2.1.registry.get? n = replay n (l.registry.get? n) (beginFacts m l request w) := by
  cases request with
  | run step => exact get?_beginRun m l step w n
  | poll names => exact get?_beginPoll l names n
  | stop name =>
    show (beginStop m l name w).2.1.registry.get? n = _
    unfold beginStop beginFacts
    dsimp only
    cases l.registry.get? name with
    | none => rfl
    | some e =>
      dsimp only
      cases l.cancelCommand? e with
      | some command => rfl
      | none => exact get?_takeDown m l name e w n

theorem get?_resumeCall (m : Machine μ) (l : Launcher) (call : Call) (reply : Reply) (w : μ) (n : String) :
    (resumeCall m l call reply w).2.1.registry.get? n =
      replay n (l.registry.get? n) (resumeFacts m l call reply w) := by
  cases call with
  | run r => exact get?_resumeRun l r reply n
  | poll p => exact get?_resumePoll l p reply n
  | stop s =>
    obtain ⟨name, e, stage⟩ := s
    cases stage with
    | cancelling command =>
      cases reply with
      | answered answer =>
        rw [← registry_noteCancel l name answer]
        exact get?_takeDown m (l.noteCancel name answer) name e w n
      | paused => rfl
      | ended exit => rfl
      | failed source => rfl
    | polling p =>
      show (stopPolling name e (l.resumePoll p reply)).2.registry.get? n = replay n _ (_ ++ _)
      rw [Fact.replay_append, ← get?_resumePoll]
      exact get?_stopPolling name e _ n

theorem get?_forget (m : Machine μ) (l : Launcher) (name : String) (w : μ) (n : String) :
    (forget m l name w).2.1.registry.get? n =
      replay n (l.registry.get? n) (if l.registry.contains name then [.removed name] else []) := by
  unfold forget
  rw [Registry.contains_eq_isSome]
  cases hget : l.registry.get? name with
  | none => rfl
  | some e =>
    show (dropTask m _ e w).2.1.registry.get? n = if name = n then none else l.registry.get? n
    rw [registry_dropTask, Registry.get?_remove]
    simp only [eq_comm]

end Launcher

namespace Traffic

open JobLaunch.Fact (replay)

variable {μ : Type}

theorem get?_move (m : Machine μ) (S : Traffic μ) (v : Move μ) (n : String) :
    (S.move m v).launcher.registry.get? n = replay n (S.launcher.registry.get? n) (S.facts m v) := by
  cases v with
  | begin request => exact Launcher.get?_beginCall m S.launcher request S.world n
  | resume i reply =>
    cases h : S.call? i with
    | none =>
      rw [move, turn_resume_none m h, facts_resume_none m h]
      rfl
    | some call =>
      rw [move, turn_resume m h, facts_resume m h]
      exact Launcher.get?_resumeCall m S.launcher call reply S.world n
  | giveUp i =>
    cases h : S.call? i with
    | none =>
      rw [move, turn_giveUp_none m h]
      rfl
    | some call =>
      rw [move, turn_giveUp m h]
      cases call <;> rfl
  | forget name => exact Launcher.get?_forget m S.launcher name S.world n
  | watch v => exact congrArg (·.get? n) (Launcher.registry_watch S.launcher v)
  | beginShutdown => rfl
  | finishShutdown => rfl
  | elsewhere world => rfl

/-- **The registered entry of a name is what the log makes of it.** -/
theorem get?_run (m : Machine μ) (S : Traffic μ) (vs : List (Move μ)) (n : String) :
    (S.run m vs).launcher.registry.get? n = replay n (S.launcher.registry.get? n) (S.log m vs) := by
  induction vs generalizing S with
  | nil => rfl
  | cons v vs ih =>
    unfold log
    rw [Fact.replay_append, ← get?_move]
    exact ih (S.move m v)

end Traffic

end JobLaunch
