import JobLaunch.Proofs.Effect
import JobLaunch.Proofs.SharedRegistry
import JobLaunch.Proofs.Supervision

/-!
# Status and return code agree

* `Status.Agrees` : a status and a return code that fit each other;
* `Scheduler.agrees_snapshot`, `Task.agrees_hear` : what schedulers and tasks tell agrees, whatever they are told;
* `Snapshot.Agrees.supersede` : so does what is known after one more look;
* `Supervisor.Acted`, `Traffic.acted_move` : a move does to the supervised tasks what acts on the supervisor do;
* `Launcher.Agrees` : all that is stored agrees; `Traffic.Arises.agrees` : it does at every moment;
* `Traffic.status_and_code_agree` : every report of a poll agrees.
-/

namespace JobLaunch

structure Status.Agrees (status : Status) (code : Option Int) : Prop where
  completed_iff : status = .completed ↔ code = some 0
  none_of_running : status.isTerminal = false → code = none

def Snapshot.Agrees (s : Snapshot) : Prop := s.status.Agrees s.returnCode

/-! ## What is told -/

namespace Status.Agrees

variable {status : Status} {code : Option Int}

theorem of_none (h : status ≠ .completed) : status.Agrees none := ⟨iff_of_false h nofun, fun _ => rfl⟩

theorem ofExitCode (code : Int) : (Status.ofExitCode code).Agrees (some code) := by
  unfold Status.ofExitCode
  by_cases hzero : code = 0
  · rw [if_pos hzero, hzero]
    exact ⟨iff_of_true rfl rfl, nofun⟩
  · rw [if_neg hzero]
    exact ⟨iff_of_false nofun fun h => hzero (Option.some.inj h), nofun⟩

theorem ne_zero_of_failed (h : status.Agrees code) (failed : status = .failed) : code ≠ some 0 := by
  intro hzero
  have hdone := h.completed_iff.2 hzero
  rw [failed] at hdone
  cases hdone

end Status.Agrees

namespace Snapshot

theorem agrees_unknown : unknown.Agrees := .of_none nofun

theorem agrees_notFound : notFound.Agrees := .ofExitCode 0

theorem Agrees.supersede {previous : Option Snapshot} {fresh : Snapshot} (hprevious : ∀ s ∈ previous, s.Agrees)
    (hfresh : fresh.Agrees) : (Snapshot.supersede previous fresh).Agrees := by
  unfold Snapshot.supersede
  cases previous with
  | none => exact hfresh
  | some kept =>
    have hkept : kept.Agrees := hprevious kept rfl
    dsimp only
    split
    · split
      · exact hkept
      · exact hkept
    · exact hfresh

end Snapshot

namespace PbsListing

theorem agrees_snapshotOf (state : String) (exitStatus : Option Int32) : (snapshotOf state exitStatus).Agrees := by
  unfold snapshotOf Snapshot.Agrees
  split
  all_goals first
    | exact .ofExitCode _
    | exact .of_none nofun

theorem agrees_snapshot (output : CommandOutput) (id : String) : (snapshot output id).Agrees := by
  unfold snapshot
  split
  · split
    · exact Snapshot.agrees_notFound
    · exact Snapshot.agrees_unknown
  · split
    · exact Snapshot.agrees_unknown
    · split
      · unfold jobSnapshot
        split
        · exact agrees_snapshotOf _ _
        · exact Snapshot.agrees_unknown
      · exact Snapshot.agrees_notFound

end PbsListing

namespace GridListing

theorem statusOf_ne_completed (state : String) : statusOf state ≠ .completed := by
  unfold statusOf
  dsimp only
  split
  · nofun
  · split
    · nofun
    · split
      · nofun
      · split
        · nofun
        · split <;> nofun

theorem agrees_snapshot (output : CommandOutput) (id : String) : (snapshot output id).Agrees := by
  unfold snapshot
  split
  · split
    · exact .of_none (statusOf_ne_completed _)
    · exact Snapshot.agrees_notFound
  · exact Snapshot.agrees_unknown

end GridListing

theorem Scheduler.agrees_snapshot (s : Scheduler) (output : CommandOutput) (id : String) :
    (s.snapshot output id).Agrees := by
  cases s with
  | pbs c => exact PbsListing.agrees_snapshot output id
  | grid c => exact GridListing.agrees_snapshot output id

/-! ## Tasks -/

namespace Task

def Agrees (t : Task) : Prop := t.status.Agrees t.returnCode

theorem agrees_new (p : ProcessId) (stdout stderr : Sink) : (new p stdout stderr).Agrees := .of_none nofun

theorem agrees_exit (t : Task) (raw : Int) : (t.exit raw).Agrees := by
  show Status.Agrees (((exitCode? raw).map Status.ofExitCode).getD .failed) (exitCode? raw)
  cases exitCode? raw with
  | none => exact .of_none nofun
  | some code => exact .ofExitCode code

theorem agrees_hear {t : Task} (h : t.Agrees) (n : News) : (t.hear n).Agrees := by
  cases n with
  | ended raw =>
    show Task.Agrees (if t.exited then t else t.exit raw)
    split
    · exact h
    · exact t.agrees_exit raw
  | read out err =>
    show Task.Agrees (t.drained out err)
    unfold drained
    split
    · exact h
    · exact h

theorem agrees_hearAll {t : Task} (h : t.Agrees) (ns : List News) : (t.hearAll ns).Agrees := by
  induction ns generalizing t with
  | nil => exact h
  | cons n ns ih => exact ih (agrees_hear h n)

end Task

def Supervisor.Agrees (s : Supervisor) : Prop := ∀ id t, s.task? id = some t → t.Agrees

namespace Supervision

variable {μ : Type} {m : Machine μ} {S : Supervision μ}

theorem agrees_act (h : S.supervisor.Agrees) (a : Act μ) : (S.act m a).supervisor.Agrees := by
  intro id t ht
  replace ht : (S.act m a).task? id = some t := ht
  cases turn m S a id with
  | kept t₀ tracked next =>
    rw [next] at ht
    obtain rfl := Option.some.inj ht
    exact Task.agrees_hearAll (h id t₀ tracked) _
  | begun p stdout stderr untracked new issued next =>
    rw [next] at ht
    obtain rfl := Option.some.inj ht
    exact Task.agrees_new p stdout stderr
  | absent next =>
    rw [next] at ht
    cases ht

theorem agrees_run (h : S.supervisor.Agrees) (as : List (Act μ)) : (S.run m as).supervisor.Agrees := by
  induction as generalizing S with
  | nil => exact h
  | cons a as ih => exact ih (agrees_act h a)

end Supervision

/-! ## Moves and the supervisor -/

def Supervisor.Acted {μ : Type} (m : Machine μ) (w : μ) (s s' : Supervisor) : Prop :=
  ∃ as : List (Act μ), ∀ r, (Supervision.run m ⟨s, r, w⟩ as).supervisor = s'

namespace Supervisor

variable {μ : Type} {m : Machine μ} {w : μ} {s s' : Supervisor}

theorem Acted.refl (m : Machine μ) (w : μ) (s : Supervisor) : s.Acted m w s := ⟨[], fun _ => rfl⟩

theorem Acted.of_eq (h : s' = s) : s.Acted m w s' := h ▸ .refl m w s

theorem Acted.agrees (acted : s.Acted m w s') (h : s.Agrees) : s'.Agrees := by
  obtain ⟨as, hrun⟩ := acted
  rw [← hrun {}]
  exact Supervision.agrees_run h as

end Supervisor

namespace Launcher

variable {μ : Type} {m : Machine μ} {l : Launcher} {w : μ}

theorem supervisor_complete (l : Launcher) (step : Step) (id : StepIdentifier) :
    (l.complete step id).2.supervisor = l.supervisor := by
  rcases complete_cases l step id with ⟨reporter, h⟩ | ⟨e, h⟩ <;> rw [h]

theorem supervisor_conclude (l : Launcher) (step : Step) (a : Attempt) :
    (l.conclude step a).2.supervisor = l.supervisor := by
  cases a with
  | failed e => rfl
  | started id => exact supervisor_complete l step (.task id)
  | submitted scheduler p => rfl

theorem supervisor_attempt (m : Machine μ) (backend : Backend) (s : Supervisor) (step : Step) (w : μ) :
    (attempt m backend s step w).2.1 = s ∨ (attempt m backend s step w).2.1 =
      (s.startTask m step.command step.cwd (.file step.outFile) (.file step.errFile) w).2.1 := by
  unfold attempt
  split
  · right
    split
    · next h => rw [h]
    · next h => rw [h]
  · left
    split
    · rfl
    · split
      · rfl
      · split <;> rfl

theorem acted_beginRun (m : Machine μ) (l : Launcher) (step : Step) (w : μ) :
    l.supervisor.Acted m w (beginRun m l step w).2.1.supervisor := by
  cases held : l.registry.reserve step.name with
  | error e =>
    unfold beginRun beginRunOn
    rw [held]
    exact .refl m w _
  | ok r =>
    rw [beginRun_eq m w held]
    dsimp only
    rw [supervisor_conclude]
    -- the monitoring is started first
    rcases supervisor_attempt m l.backend l.supervisor.start step w with h | h
    · exact ⟨[.startLoop], fun _ => h.symm⟩
    · exact ⟨[.startLoop, .startTask step.command step.cwd (.file step.outFile) (.file step.errFile)], fun _ => h.symm⟩

theorem supervisor_resumeRun (l : Launcher) (r : Run) (reply : Reply) :
    (l.resumeRun r reply).2.supervisor = l.supervisor := by
  have hcases := resumed l r reply
  generalize l.resumeRun r reply = next at hcases
  cases hcases with
  | waits stage => rfl
  | fails reporter e plain => rfl
  | succeeds reporter id => exact supervisor_complete _ r.step (.scheduler id)

theorem supervisor_beginPoll (l : Launcher) (names : List String) :
    (l.beginPoll names).2.supervisor = l.supervisor := by
  rcases beginPoll_cases l names with ⟨h, -⟩ | h
  · rw [h]
  · rw [h]
    rfl

theorem supervisor_resumePoll (l : Launcher) (p : Poll) (reply : Reply) :
    (l.resumePoll p reply).2.supervisor = l.supervisor := by
  rcases resumePoll_cases l p reply with ⟨h, -⟩ | ⟨answer, -, h⟩
  · rw [h]
  · rw [h]
    rfl

theorem supervisor_stopPolling (name : String) (e : Entry) (next : PollProgress × Launcher) :
    (stopPolling name e next).2.supervisor = next.2.supervisor := by
  obtain ⟨reports | p, l⟩ := next <;> rfl

theorem acted_dropTask (m : Machine μ) (l : Launcher) (e : Entry) (w : μ) :
    l.supervisor.Acted m w (dropTask m l e w).2.1.supervisor := by
  unfold dropTask
  cases e.taskId with
  | none => exact .refl m w _
  | some id => exact ⟨[.remove id], fun _ => rfl⟩

theorem acted_takeDown (m : Machine μ) (l : Launcher) (name : String) (e : Entry) (w : μ) :
    l.supervisor.Acted m w (takeDown m l name e w).2.1.supervisor := by
  have hsame : (takeDown m l name e w).2.1.supervisor = (dropTask m l e w).2.1.supervisor := by
    unfold takeDown
    dsimp only
    split
    · exact (supervisor_stopPolling name e _).trans (supervisor_beginPoll _ _)
    · rfl
  rw [hsame]
  exact acted_dropTask m l e w

theorem supervisor_noteCancel (l : Launcher) (name : String) (answer : Except String CommandOutput) :
    (l.noteCancel name answer).supervisor = l.supervisor := by
  unfold noteCancel
  cases answer with
  | ok output =>
    dsimp only
    split <;> rfl
  | error message => rfl

theorem acted_beginStop (m : Machine μ) (l : Launcher) (name : String) (w : μ) :
    l.supervisor.Acted m w (beginStop m l name w).2.1.supervisor := by
  unfold beginStop
  split
  · exact .refl m w _
  · split
    · exact .refl m w _
    · exact acted_takeDown m l name _ w

theorem acted_resumeStop (m : Machine μ) (l : Launcher) (s : Stop) (reply : Reply) (w : μ) :
    l.supervisor.Acted m w (resumeStop m l s reply w).2.1.supervisor := by
  obtain ⟨name, e, stage⟩ := s
  cases stage with
  | cancelling command =>
    cases reply with
    | answered answer =>
      rw [← supervisor_noteCancel l name answer]
      exact acted_takeDown m (l.noteCancel name answer) name e w
    | paused => exact .refl m w _
    | ended exit => exact .refl m w _
    | failed source => exact .refl m w _
  | polling p => exact .of_eq ((supervisor_stopPolling name e _).trans (supervisor_resumePoll l p reply))

theorem acted_forget (m : Machine μ) (l : Launcher) (name : String) (w : μ) :
    l.supervisor.Acted m w (forget m l name w).2.1.supervisor := by
  unfold forget
  split
  · next e _ => exact acted_dropTask m { l with registry := l.registry.remove name } e w
  · exact .refl m w _

theorem acted_watch (m : Machine μ) (l : Launcher) (v : Watch) (w : μ) :
    l.supervisor.Acted m w (l.watch v).supervisor := by
  cases v with
  | scan answers => exact ⟨[.scan answers], fun _ => rfl⟩
  | drain id out err => exact ⟨[.drain id out err], fun _ => rfl⟩
  | endLoop i => exact ⟨[.endLoop i], fun _ => rfl⟩

end Launcher

namespace Traffic

open Launcher

variable {μ : Type} {m : Machine μ} {S : Traffic μ}

/-- **A move does to the supervised tasks what acts on the supervisor do.** -/
theorem acted_move (m : Machine μ) (S : Traffic μ) (v : Move μ) :
    S.launcher.supervisor.Acted m S.world (S.move m v).launcher.supervisor := by
  cases v with
  | begin request =>
    cases request with
    | run step => exact acted_beginRun m S.launcher step S.world
    | poll names => exact .of_eq (supervisor_beginPoll S.launcher names)
    | stop name => exact acted_beginStop m S.launcher name S.world
  | resume i reply =>
    cases hi : S.call? i with
    | none =>
      rw [move, turn_resume_none m hi]
      exact .refl m S.world _
    | some call =>
      rw [move, turn_resume m hi]
      cases call with
      | run r => exact .of_eq (supervisor_resumeRun S.launcher r reply)
      | poll p => exact .of_eq (supervisor_resumePoll S.launcher p reply)
      | stop s => exact acted_resumeStop m S.launcher s reply S.world
  | giveUp i =>
    cases hi : S.call? i with
    | none =>
      rw [move, turn_giveUp_none m hi]
      exact .refl m S.world _
    | some call =>
      rw [move, turn_giveUp m hi]
      cases call <;> exact .refl m S.world _
  | forget name => exact acted_forget m S.launcher name S.world
  | watch v => exact acted_watch m S.launcher v S.world
  | beginShutdown => exact ⟨[.beginShutdown], fun _ => rfl⟩
  | finishShutdown => exact ⟨[.finishShutdown], fun _ => rfl⟩
  | elsewhere world => exact .refl m S.world _

end Traffic

/-! ## What is stored -/

def Registry.Agrees (r : Registry) : Prop := ∀ n e, r.get? n = some e → ∀ s ∈ e.last, s.Agrees

/-- All that a launcher stores of steps and tasks agrees. -/
structure Launcher.Agrees (l : Launcher) : Prop where
  registry : l.registry.Agrees
  supervisor : l.supervisor.Agrees

namespace Registry.Agrees

variable {r : Registry}

theorem insert (h : r.Agrees) {e : Entry} (he : ∀ s ∈ e.last, s.Agrees) (name : String) :
    Registry.Agrees { r with entries := r.entries.insert name e } := by
  intro n e' hn
  rw [get?_insert] at hn
  split at hn
  · exact Option.some.inj hn ▸ he
  · exact h n e' hn

theorem remove (h : r.Agrees) (name : String) : (r.remove name).Agrees := by
  intro n e hn
  rw [get?_remove] at hn
  split at hn
  · cases hn
  · exact h n e hn

theorem observe (h : r.Agrees) {fresh : Snapshot} (hfresh : fresh.Agrees) (name : String) :
    (r.observe name fresh).1.Agrees ∧ (r.observe name fresh).2.Agrees := by
  have hmerged : ∀ e, r.get? name = some e → (Snapshot.supersede e.last fresh).Agrees :=
    fun e he => .supersede (h name e he) hfresh
  unfold Registry.observe
  cases hget : r.get? name with
  | none => exact ⟨hfresh, h⟩
  | some e =>
    refine ⟨hmerged e hget, h.insert (fun s hs => ?_) name⟩
    obtain rfl : Snapshot.supersede e.last fresh = s := Option.some.inj hs
    exact hmerged e hget

theorem observeAll (h : r.Agrees) {news : List Report} (hnews : ∀ x ∈ news, x.2.Agrees) :
    (∀ x ∈ (r.observeAll news).1, x.2.Agrees) ∧ (r.observeAll news).2.Agrees := by
  induction news generalizing r with
  | nil => exact ⟨fun x hx => absurd hx List.not_mem_nil, h⟩
  | cons x news ih =>
    obtain ⟨htold, hstored⟩ := h.observe (hnews x List.mem_cons_self) x.1
    obtain ⟨hmore, hlast⟩ := ih hstored fun y hy => hnews y (List.mem_cons_of_mem x hy)
    refine ⟨fun y hy => ?_, hlast⟩
    rcases List.mem_cons.1 hy with rfl | hy
    · exact htold
    · exact hmore y hy

theorem use (h : r.Agrees) (granted : List (Option String)) {u : SharedRegistry.Use}
    (agrees : ∀ name fresh, u = .observe name fresh → fresh.Agrees) :
    (SharedRegistry.use ⟨r, granted⟩ u).2.registry.Agrees := by
  have hchange := SharedRegistry.change ⟨r, granted⟩ u
  generalize (SharedRegistry.use ⟨r, granted⟩ u).2 = d' at hchange
  cases hchange with
  | keeps => exact h
  | adds made => exact h.insert (fun s hs => by cases hs) _
  | reserves free =>
    obtain ⟨-, -, rfl⟩ := reserve_eq_ok free
    exact h
  | commits holds made => exact h.insert (fun s hs => by cases hs) _
  | releases holds => exact h
  | removes name => exact h.remove name
  | observes name fresh => exact (h.observe (agrees name fresh rfl) name).2

end Registry.Agrees

/-! ## What calls record -/

def Fact.Agrees : Fact → Prop
  | .registered _ e => ∀ s ∈ e.last, s.Agrees
  | .observed x => x.fresh.Agrees
  | .removed _ => True

theorem Fact.agrees_replay {n : String} {e? : Option Entry} {fs : List Fact} (hfs : ∀ f ∈ fs, f.Agrees)
    (h : ∀ e ∈ e?, ∀ s ∈ e.last, s.Agrees) : ∀ e ∈ replay n e? fs, ∀ s ∈ e.last, s.Agrees := by
  refine replay_induction (P := fun e => ∀ s ∈ e.last, s.Agrees) (fun name e he => hfs _ he)
    (fun x hx e he s hs => ?_) h
  obtain rfl : Snapshot.supersede e.last x.fresh = s := Option.some.inj hs
  exact .supersede he (hfs _ hx)

namespace Launcher

variable {μ : Type} {m : Machine μ} {l : Launcher} {w : μ}

theorem agrees_jobSnapshot (l : Launcher) (answer : Option (Except String CommandOutput)) (id : String) :
    (l.jobSnapshot answer id).Agrees := by
  unfold jobSnapshot
  split
  · next s output _ => exact s.agrees_snapshot output id
  · exact Snapshot.agrees_unknown

theorem agrees_seen {s : Supervisor} (h : s.Agrees) (id : TaskId) :
    (((s.update? id).map (·.ofStep)).getD Snapshot.unknown).Agrees := by
  unfold Supervisor.update?
  cases ht : s.task? id with
  | none => exact Snapshot.agrees_unknown
  | some t =>
    have ht : t.Agrees := h id t ht
    exact ht

theorem agrees_sightings (h : l.supervisor.Agrees) {p : Poll} {answer : Option (Except String CommandOutput)}
    {x : Sighting} (hx : x ∈ l.sightings p answer) : x.fresh.Agrees := by
  rcases List.mem_append.1 hx with hx | hx
  · obtain ⟨q, -, rfl⟩ := List.mem_map.1 hx
    exact l.agrees_jobSnapshot answer q.2
  · obtain ⟨⟨name, id⟩, -, rfl⟩ := List.mem_map.1 hx
    cases id with
    | step job => exact Snapshot.agrees_unknown
    | task id => exact agrees_seen h id

theorem agrees_takeDownSightings (h : l.supervisor.Agrees) {name : String} {e : Entry} {x : Sighting}
    (hx : x ∈ takeDownSightings m l name e w) : x.fresh.Agrees := by
  unfold takeDownSightings at hx
  dsimp only at hx
  split at hx
  · exact agrees_sightings ((acted_dropTask m l e w).agrees h) (mem_beginSightings hx)
  · rw [List.mem_singleton.1 hx]
    show (((dropTask m l e w).1.map (·.ofStep)).getD Snapshot.unknown).Agrees
    unfold dropTask
    cases e.taskId with
    | none => exact Snapshot.agrees_unknown
    | some id =>
      have hseen : (l.supervisor.removeTask id).1 = l.supervisor.update? id := by
        unfold Supervisor.removeTask Supervisor.update?
        cases l.supervisor.task? id <;> rfl
      show (((l.supervisor.removeTask id).1.map (·.ofStep)).getD Snapshot.unknown).Agrees
      rw [hseen]
      exact agrees_seen h id

theorem agrees_launchFacts {step : Step} {p : RunProgress} {f : Fact} (hf : f ∈ launchFacts step p) : f.Agrees := by
  rcases p with (e | id) | r
  · cases hf
  · rw [List.mem_singleton.1 hf]
    exact fun s hs => by cases hs
  · cases hf

theorem agrees_stopFacts {name : String} {p : StopProgress} {f : Fact} (hf : f ∈ stopFacts name p) : f.Agrees := by
  rcases p with (e | last) | s
  · cases hf
  · rw [List.mem_singleton.1 hf]
    trivial
  · cases hf

theorem agrees_observed {xs : List Sighting} (h : ∀ x ∈ xs, x.fresh.Agrees) {f : Fact} (hf : f ∈ xs.map .observed) :
    f.Agrees := by
  obtain ⟨x, hx, rfl⟩ := List.mem_map.1 hf
  exact h x hx

theorem agrees_takeDownFacts (h : l.supervisor.Agrees) {name : String} {e : Entry} {f : Fact}
    (hf : f ∈ takeDownFacts m l name e w) : f.Agrees := by
  rcases List.mem_append.1 hf with hf | hf
  · exact agrees_observed (fun x hx => agrees_takeDownSightings h hx) hf
  · exact agrees_stopFacts hf

theorem agrees_beginFacts (h : l.supervisor.Agrees) {request : Request} {f : Fact}
    (hf : f ∈ beginFacts m l request w) : f.Agrees := by
  cases request with
  | run step => exact agrees_launchFacts hf
  | poll names => exact agrees_observed (fun x hx => agrees_sightings h (mem_beginSightings hx)) hf
  | stop name =>
    unfold beginFacts at hf
    dsimp only at hf
    split at hf
    · cases hf
    · split at hf
      · cases hf
      · exact agrees_takeDownFacts h hf

theorem agrees_resumeSightings (h : l.supervisor.Agrees) {p : Poll} {reply : Reply} {x : Sighting}
    (hx : x ∈ l.resumeSightings p reply) : x.fresh.Agrees := by
  obtain ⟨answer, hx⟩ := mem_resumeSightings hx
  exact agrees_sightings h hx

theorem agrees_resumeFacts (h : l.supervisor.Agrees) {call : Call} {reply : Reply} {f : Fact}
    (hf : f ∈ resumeFacts m l call reply w) : f.Agrees := by
  cases call with
  | run r => exact agrees_launchFacts hf
  | poll p => exact agrees_observed (fun x hx => agrees_resumeSightings h hx) hf
  | stop s =>
    obtain ⟨name, e, stage⟩ := s
    cases stage with
    | cancelling command =>
      cases reply with
      | answered answer => exact agrees_takeDownFacts (supervisor_noteCancel l name answer ▸ h) hf
      | paused => cases hf
      | ended exit => cases hf
      | failed source => cases hf
    | polling p =>
      rcases List.mem_append.1 hf with hf | hf
      · exact agrees_observed (fun x hx => agrees_resumeSightings h hx) hf
      · exact agrees_stopFacts hf

theorem agrees_record (h : l.Agrees) {xs : List Sighting} (hxs : ∀ x ∈ xs, x.fresh.Agrees) :
    ∀ r ∈ (l.record xs).1, r.2.Agrees := by
  refine (h.registry.observeAll fun y hy => ?_).1
  obtain ⟨x, hx, rfl⟩ := List.mem_map.1 hy
  exact hxs x hx

end Launcher

/-! ## Runs -/

namespace Traffic

open Launcher

variable {μ : Type} {m : Machine μ} {S : Traffic μ}

theorem agrees_facts (h : S.launcher.supervisor.Agrees) {v : Move μ} {f : Fact} (hf : f ∈ S.facts m v) : f.Agrees := by
  cases v with
  | begin request => exact agrees_beginFacts h hf
  | resume i reply =>
    cases hi : S.call? i with
    | none =>
      rw [facts_resume_none m hi] at hf
      cases hf
    | some call =>
      rw [facts_resume m hi] at hf
      exact agrees_resumeFacts h hf
  | forget name =>
    replace hf : f ∈ if S.launcher.registry.contains name then [Fact.removed name] else [] := hf
    split at hf
    · rw [List.mem_singleton.1 hf]
      trivial
    · cases hf
  | giveUp i => cases hf
  | watch v => cases hf
  | beginShutdown => cases hf
  | finishShutdown => cases hf
  | elsewhere world => cases hf

theorem agrees_move (h : S.launcher.Agrees) (v : Move μ) : (S.move m v).launcher.Agrees where
  registry n e hn := by
    rw [get?_move] at hn
    exact Fact.agrees_replay (fun f hf => agrees_facts h.supervisor hf) (h.registry n) e hn
  supervisor := (acted_move m S v).agrees h.supervisor

/-- It has come about on a new launcher by moves, and by what others do with its registry and its supervisor. -/
inductive Arises (m : Machine μ) : Traffic μ → Prop
  | new (backend : Backend) (config : Config) (bus : Option (EventBus StepEvent)) (w : μ) :
    Arises m (quiet (.new backend config bus) w)
  | move {S : Traffic μ} (arises : Arises m S) (v : Move μ) : Arises m (S.move m v)
  /-- The registry is used directly; a snapshot that is recorded so agrees. -/
  | uses {S : Traffic μ} (arises : Arises m S) (granted : List (Option String)) (u : SharedRegistry.Use)
    (agrees : ∀ name fresh, u = .observe name fresh → fresh.Agrees) :
    Arises m { S with launcher := { S.launcher with
      registry := (SharedRegistry.use ⟨S.launcher.registry, granted⟩ u).2.registry } }
  | acts {S : Traffic μ} (arises : Arises m S) (a : Act μ) :
    Arises m (
      let T := Supervision.act m ⟨S.launcher.supervisor, S.launcher.reporter, S.world⟩ a
      { S with launcher := { S.launcher with supervisor := T.supervisor, reporter := T.reporter }, world := T.world })

theorem Arises.run (arises : S.Arises m) (vs : List (Move μ)) : (S.run m vs).Arises m :=
  run_induction (P := Arises m) (fun _ v h => h.move v) arises vs

/-- **All that a launcher stores agrees, at every moment.** -/
theorem Arises.agrees (arises : S.Arises m) : S.launcher.Agrees := by
  induction arises with
  | new backend config bus w => exact ⟨fun n e hn => absurd hn nofun, fun id t ht => absurd ht nofun⟩
  | move arises v ih => exact agrees_move ih v
  | uses arises granted u agrees ih => exact ⟨ih.registry.use granted agrees, ih.supervisor⟩
  | @acts S arises a ih =>
    exact ⟨ih.registry, Supervision.agrees_act (S := ⟨S.launcher.supervisor, S.launcher.reporter, S.world⟩)
      ih.supervisor a⟩

theorem Arises.wellFormed (arises : S.Arises m) : S.Each Call.WellFormed := by
  induction arises with
  | new backend config bus w => exact each_quiet _ _ w
  | move arises v ih => exact wellFormed_move m ih v
  | uses arises granted u agrees ih => exact ih
  | acts arises a ih => exact ih

theorem record_of_polled (formed : S.Each Call.WellFormed) {v : Move μ} {reports : List Report}
    (polled : S.answer? m v = some (.polled reports)) :
    ∃ xs, reports = (S.launcher.record xs).1 ∧ ∀ x ∈ xs, ∃ p answer, x ∈ S.launcher.sightings p answer := by
  have heffect := effect m formed v
  rw [polled] at heffect
  generalize S.facts m v = fs at heffect
  cases heffect with
  | quiet v a silent => exact absurd rfl (silent reports)
  | registers v name e new a silent => exact absurd rfl (silent reports)
  | asks names => exact ⟨_, rfl, fun x hx => ⟨_, _, mem_beginSightings hx⟩⟩
  | hears i p answer waits => exact ⟨_, rfl, fun x hx => ⟨_, _, hx⟩⟩
  | removes v name xs own a silent => exact absurd rfl (silent reports)

/-- **Status and return code always agree.** Whatever schedulers answer, whatever becomes of processes, and however
polls overlap with launches, stops and direct uses of registry and supervisor: a poll reports a step as completed exactly
if it reports zero as its return code, it reports no return code of a step that has not ended or is unknown, and never
zero of a step that has failed. -/
theorem status_and_code_agree (arises : S.Arises m) {v : Move μ} {reports : List Report}
    (polled : S.answer? m v = some (.polled reports)) : ∀ r ∈ reports,
      (r.2.status = .completed ↔ r.2.returnCode = some 0) ∧
        (r.2.status = .pending ∨ r.2.status = .running ∨ r.2.status = .unknown → r.2.returnCode = none) ∧
        (r.2.status = .failed → r.2.returnCode ≠ some 0) := by
  intro r hr
  obtain ⟨xs, rfl, hxs⟩ := record_of_polled arises.wellFormed polled
  have hagrees : r.2.Agrees := by
    refine agrees_record arises.agrees (fun x hx => ?_) r hr
    obtain ⟨p, answer, hx⟩ := hxs x hx
    exact agrees_sightings arises.agrees.supervisor hx
  refine ⟨hagrees.completed_iff, fun hopen => hagrees.none_of_running ?_, hagrees.ne_zero_of_failed⟩
  rcases hopen with h | h | h <;> rw [h] <;> rfl

/-- A task has failed, and the query for a job fails. -/
theorem status_and_code_agree_failed : ∃ (S : Traffic Unit) (v : Move Unit) (job task : Snapshot),
    S.Arises .obliging ∧ S.answer? .obliging v = some (.polled [("b", job), ("a", task)]) ∧
      (task.status = .failed ∧ task.returnCode ≠ some 0) ∧ job.status = .unknown ∧ job.returnCode = none := by
  have polled : ((quiet (.new (.scheduled (.grid {})) {} none) ()).run .obliging
      [.begin (.run ⟨"a", "/", false, .mpirun { exe := "false" }, rfl⟩), .watch (.scan [(.issued 0, .exited 256)]),
        .begin (.run ⟨"b", "/", true, .gridBatch {} [], rfl⟩), .resume 1 (.ended ⟨0, [49, 10], []⟩),
        .begin (.poll ["a", "b"])]).answer? .obliging (.resume 2 (.answered (.error "lost"))) =
      some (.polled [("b", .unknown), ("a", ⟨.failed, some 1, none, none, none⟩)]) := rfl
  have arises := (Arises.new (m := .obliging) (.scheduled (.grid {})) {} none ()).run
    [.begin (.run ⟨"a", "/", false, .mpirun { exe := "false" }, rfl⟩), .watch (.scan [(.issued 0, .exited 256)]),
      .begin (.run ⟨"b", "/", true, .gridBatch {} [], rfl⟩), .resume 1 (.ended ⟨0, [49, 10], []⟩), .begin (.poll ["a", "b"])]
  have hall := status_and_code_agree arises polled
  obtain ⟨-, hjob, -⟩ := hall ("b", .unknown) (by simp)
  obtain ⟨-, -, htask⟩ := hall ("a", ⟨.failed, some 1, none, none, none⟩) (by simp)
  exact ⟨_, _, _, _, arises, polled, ⟨rfl, htask rfl⟩, rfl, hjob (Or.inr (Or.inr rfl))⟩

end Traffic

end JobLaunch
