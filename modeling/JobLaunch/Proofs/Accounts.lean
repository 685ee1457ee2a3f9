import Mathlib.Data.List.Basic
import JobLaunch.Proofs.Chronicle
import JobLaunch.Proofs.Counts

/-!
# Events and counts account for the calls

* `Happening.launches`, `Happening.stops`, `Happening.searches`, `Happening.events` : what has been launched, stopped and
  searched for, and what is published of it;
* `Reporter.AccountsFor` : what has been published and counted accounts for all that has happened;
* `Launcher.Tells.accountsFor` : so it does if it has been told of it, in order;
* `Traffic.plain_move` : what succeeds with no launch and no stop tells of none;
* `Traffic.subscriber_hears_events` : what is published reaches a subscriber;
* `Traffic.events_and_counts_account` : events and counts account for what a launcher has done.
-/

namespace JobLaunch

/-! ## What is told of a call -/

namespace Finished

variable (backend : Backend) (x : Finished)

theorem launched?_notices : (x.notices backend).filterMap (·.launched?) = x.launch?.toList := by
  unfold notices
  cases x.search? backend <;> cases x.launch? <;> cases x.stop? <;> cases x.isSubmissionFailed <;> rfl

theorem cancelled?_notices : (x.notices backend).filterMap (·.cancelled?) =
    (x.stop?.map fun s => (s.1, s.2.managed)).toList := by
  unfold notices
  cases x.search? backend <;> cases x.launch? <;> cases x.stop? <;> cases x.isSubmissionFailed <;> rfl

theorem searched?_notices : (x.notices backend).filterMap (·.searched?) = (x.search? backend).toList := by
  unfold notices
  cases x.search? backend <;> cases x.launch? <;> cases x.stop? <;> cases x.isSubmissionFailed <;> rfl

theorem failed?_notices : (x.notices backend).filterMap (·.failed?) =
    (if x.isSubmissionFailed then some () else none).toList := by
  unfold notices
  cases x.search? backend <;> cases x.launch? <;> cases x.stop? <;> cases x.isSubmissionFailed <;> rfl

end Finished

namespace Happening

/-- The steps that have been launched, with what the launches returned. -/
def launches (hs : List Happening) : List (Step × StepIdentifier) := (calls hs).filterMap (·.launch?)

/-- The names that have been stopped, with what was registered. -/
def stops (hs : List Happening) : List (String × Entry) := (calls hs).filterMap (·.stop?)

/-- The searches for job ids: how many listings, and whether the launch has succeeded. -/
def searches (backend : Backend) (hs : List Happening) : List (Nat × Bool) :=
  (calls hs).filterMap (·.search? backend)

/-- What is published. -/
def events (backend : Backend) (hs : List Happening) : List StepEvent :=
  (told backend hs).filterMap (·.event? backend.name)

theorem filterMap_told {β : Type} {backend : Backend} {f : Notice → Option β} {g : Finished → Option β}
    (ends : ∀ x : Finished, (x.notices backend).filterMap f = (g x).toList) (exits : ∀ x, f (.exited x) = none)
    (hs : List Happening) : (told backend hs).filterMap f = (calls hs).filterMap g := by
  induction hs with
  | nil => rfl
  | cons h hs ih =>
    rw [told, List.flatMap_cons, List.filterMap_append, show (hs.flatMap _).filterMap f = _ from ih]
    cases h with
    | finished x =>
      show (x.notices backend).filterMap f ++ _ = (x :: calls hs).filterMap g
      rw [ends, List.filterMap_cons]
      cases g x <;> rfl
    | exited x =>
      show [Notice.exited x].filterMap f ++ _ = _
      rw [List.filterMap_cons_none (exits x)]
      rfl

end Happening

/-! ## What is answered -/

namespace Answer

/-- The identifier that a launch has returned. -/
def launched? : Answer → Option StepIdentifier
  | launched (.ok id) => some id
  | launched (.error _) | polled _ | stopped _ => none

/-- Is it the result of a stop that has succeeded? -/
def isStopped : Answer → Bool
  | stopped (.ok _) => true
  | stopped (.error _) | launched _ | polled _ => false

end Answer

namespace Dossier.Answered

variable {d : Dossier} {answer : Answer}

theorem launch? (h : d.Answered answer) : (Finished.launch? ⟨d, answer⟩).map (·.2) = answer.launched? := by
  cases h with
  | launched asked fits => simp [Finished.launch?, asked, Answer.launched?]
  | refused | polled | stopped | unstopped => simp [Finished.launch?, Answer.launched?]

theorem stop? (h : d.Answered answer) : (Finished.stop? ⟨d, answer⟩).isSome = answer.isStopped := by
  cases h with
  | stopped asked found last => simp [Finished.stop?, asked, found, Answer.isStopped]
  | launched | refused | polled | unstopped => simp [Finished.stop?, Answer.isStopped]

theorem fits (h : d.Answered answer) {x : Step × StepIdentifier} (hx : Finished.launch? ⟨d, answer⟩ = some x) :
    x.1.Fits x.2 := by
  cases h with
  | launched asked fits =>
    simp only [Finished.launch?, asked, Option.some.injEq] at hx
    exact hx ▸ fits
  | refused | polled | stopped | unstopped => simp [Finished.launch?] at hx

end Dossier.Answered

/-! ## Accounts -/

/-- What a reporter with a bus has published, and what it has counted, account for all that has happened. -/
structure Reporter.AccountsFor (backend : Backend) (bus : Option (EventBus StepEvent)) (hs : List Happening)
    (r : Reporter) : Prop where
  published : r.bus = bus.map (·.emitAll (Happening.events backend hs))
  launches : (Happening.events backend hs).filter (·.isLaunched) =
    (Happening.launches hs).map fun x => .launched x.1.name backend.name x.2
  stops : (Happening.events backend hs).filter (·.isCancelled) =
    (Happening.stops hs).map fun x => .cancelled x.1 x.2.managed
  ordered : ∀ before id status code after,
    Happening.events backend hs = before ++ .taskExited id status code :: after →
      ∃ name, .launched name backend.name (.task id) ∈ before
  once : ∀ id, (Happening.events backend hs).countP (·.startsTask id) ≤ 1
  launchCounts : Metrics.LaunchCounts backend.name (fun kind => (Happening.launches hs).countP (·.1.kind = kind))
    r.journal.metrics.launched
  cancelCount : ∀ label, (r.journal.metrics.cancelled.get? label).getD 0 =
    if label = backend.name then (Happening.stops hs).length else 0
  failureCount : ∀ label, (r.journal.metrics.submissionsFailed.get? label).getD 0 =
    if label = backend.name then (Happening.calls hs).countP (·.isSubmissionFailed) else 0
  resolutions : ∀ label, (r.journal.metrics.resolutions.get? label).getD [] =
    ((Happening.searches backend hs).filter (Metrics.outcomeLabel ·.2 = label)).map (·.1)

theorem Supervisor.issuedCount_le_one (s : Supervisor) (id : TaskId) : s.issuedCount id ≤ 1 := by
  cases id with
  | named text => exact Nat.zero_le 1
  | issued k =>
    show (if k < s.issued then 1 else 0) ≤ 1
    split <;> omega

theorem Notice.Ordered.events {ns : List Notice} (ordered : Ordered ns) {backend : String}
    {before after : List StepEvent} {id : TaskId} {status : Status} {code : Option Int}
    (h : ns.filterMap (·.event? backend) = before ++ .taskExited id status code :: after) :
    ∃ name, .launched name backend (.task id) ∈ before := by
  obtain ⟨first, rest, rfl, hfirst, hrest⟩ := List.filterMap_eq_append_iff.1 h
  obtain ⟨quiet, n, last, rfl, hquiet, hn, -⟩ := List.filterMap_eq_cons_iff.1 hrest
  cases n with
  | exited x =>
    obtain ⟨rfl, -, -⟩ := StepEvent.taskExited.inj (Option.some.inj hn)
    have hpos := ordered (first ++ quiet) x last (by rw [List.append_assoc])
    obtain ⟨n, hmem, hstarts⟩ := List.countP_pos_iff.1 hpos
    cases n with
    | launched step i =>
      obtain rfl : i = .task x.1 := of_decide_eq_true hstarts
      refine ⟨step.name, ?_⟩
      rcases List.mem_append.1 hmem with hmem | hmem
      · rw [← hfirst]
        exact List.mem_filterMap.2 ⟨_, hmem, rfl⟩
      · cases hquiet _ hmem
    | cancelled | submissionFailed | searched | exited => cases hstarts
  | launched | cancelled | submissionFailed | searched => cases hn

namespace Launcher

variable {l : Launcher} {backend : Backend} {config : Config} {bus : Option (EventBus StepEvent)} {hs : List Happening}

theorem Tells.accountsFor (h : (new backend config bus).Tells (Happening.told backend hs) l)
    (ordered : Notice.Ordered (Happening.told backend hs)) : l.reporter.AccountsFor backend bus hs := by
  have hlaunches := Happening.filterMap_told (fun x => x.launched?_notices backend) (fun _ => rfl) hs
  have hstops := Happening.filterMap_told (fun x => x.cancelled?_notices backend) (fun _ => rfl) hs
  have hsearches := Happening.filterMap_told (fun x => x.searched?_notices backend) (fun _ => rfl) hs
  have hfailures := Happening.filterMap_told (fun x => x.failed?_notices backend) (fun _ => rfl) hs
  have hmetrics := h.reporter.metrics
  refine ⟨h.reporter.bus, ?_, ?_, fun before id status code after => ordered.events, fun id => ?_, ?_, fun label => ?_,
    fun label => ?_, fun label => ?_⟩
  · rw [Happening.events, Notice.filter_isLaunched, hlaunches]
    rfl
  · rw [Happening.events, Notice.filter_isCancelled, hstops, ← List.map_filterMap, List.map_map]
    rfl
  · rw [Happening.events, Notice.countP_startsTask]
    exact Nat.le_trans (Nat.le_trans (Nat.le_add_right _ _) (h.fresh id)) (l.supervisor.issuedCount_le_one id)
  · have hcounts := (Metrics.launchCounts_empty backend.name).foldl ((Happening.launches hs).map (·.1.kind))
    simp only [Nat.zero_add, List.countP_map, List.foldl_map] at hcounts
    rw [hmetrics, Metrics.launched_foldl, hlaunches]
    exact hcounts
  · rw [hmetrics, Metrics.cancelled_foldl, hstops, Metrics.get?_foldl_increment, ← List.map_filterMap, List.length_map]
    exact Nat.zero_add _
  · rw [hmetrics, Metrics.submissionsFailed_foldl, hfailures, Metrics.get?_foldl_increment,
      List.length_filterMap_eq_countP]
    refine (Nat.zero_add _).trans (congrArg (if label = backend.name then · else 0) (List.countP_congr fun x _ => ?_))
    cases x.isSubmissionFailed <;> rfl
  · rw [hmetrics, Metrics.resolutions_foldl, hsearches, Metrics.get?_foldl_resolutions]
    rfl

end Launcher

/-! ## Runs -/

namespace Traffic

variable {μ : Type} {m : Machine μ} {S : Traffic μ} {files : Nat → Dossier}

theorem exits_told (m : Machine μ) (S : Traffic μ) (files : Nat → Dossier) (backend : Backend) (v : Move μ) :
    (Happening.told backend (S.happenings m files v)).filterMap (·.exited?) = S.exits v := by
  have hcalls : ∀ (d : Dossier) (answers : List Answer),
      (Happening.told backend (answers.map fun a => .finished ⟨d, a⟩)).filterMap (·.exited?) = [] := by
    intro d answers
    refine List.filterMap_eq_nil_iff.2 fun n hn => ?_
    cases n with
    | exited x =>
      obtain ⟨a, -, ha⟩ := List.mem_map.1 (Happening.exited_mem_told hn)
      cases ha
    | launched | cancelled | submissionFailed | searched => rfl
  cases v with
  | begin request => exact hcalls _ _
  | resume i reply => exact hcalls _ _
  | watch v =>
    show (Happening.told backend ((S.launcher.exits v).map .exited)).filterMap (·.exited?) = S.launcher.exits v
    rw [Happening.told_map_exited, List.filterMap_map]
    exact List.filterMap_some
  | giveUp i => rfl
  | forget name => rfl
  | beginShutdown => rfl
  | finishShutdown => rfl
  | elsewhere world => rfl

/-- **What succeeds with no launch and no stop tells of none**: only ends of tasks are published, and launches and stops
are counted as before. -/
theorem plain_move (described : S.Described files) {v : Move μ}
    (plain : ∀ a ∈ S.answer? m v, a.launched? = none ∧ a.isStopped = false) :
    (S.move m v).launcher.reporter.bus = S.launcher.reporter.bus.map (·.emitAll ((S.exits v).map .ofExit)) ∧
      (S.move m v).launcher.reporter.journal.metrics.launched = S.launcher.reporter.journal.metrics.launched ∧
      (S.move m v).launcher.reporter.journal.metrics.cancelled = S.launcher.reporter.journal.metrics.cancelled := by
  have h := accounted (m := m) described v
  have hcalls : ∀ x ∈ Happening.calls (S.happenings m files v),
      x.dossier.Answered x.answer ∧ x.answer ∈ S.answer? m v := by
    intro x hx
    refine ⟨h.answered x (Happening.finished_mem_of_mem_calls hx), Option.mem_toList.1 ?_⟩
    rw [← answers_happenings m S files v]
    exact List.mem_map_of_mem hx
  have hlaunches : (Happening.told S.launcher.backend (S.happenings m files v)).filterMap (·.launched?) = [] := by
    rw [Happening.filterMap_told (fun x => x.launched?_notices _) fun _ => rfl]
    refine List.filterMap_eq_nil_iff.2 fun x hx => ?_
    obtain ⟨hanswered, hmem⟩ := hcalls x hx
    exact Option.map_eq_none_iff.1 (hanswered.launch?.trans (plain _ hmem).1)
  have hstops : (Happening.told S.launcher.backend (S.happenings m files v)).filterMap (·.cancelled?) = [] := by
    rw [Happening.filterMap_told (fun x => x.cancelled?_notices _) fun _ => rfl]
    refine List.filterMap_eq_nil_iff.2 fun x hx => ?_
    obtain ⟨hanswered, hmem⟩ := hcalls x hx
    rw [Option.map_eq_none_iff, ← Option.isNone_iff_eq_none, ← Option.not_isSome, hanswered.stop?, (plain _ hmem).2]
    rfl
  refine ⟨?_, ?_⟩
  · rw [h.told.reporter.bus, Notice.events_of_plain _ hlaunches hstops, exits_told]
  · rw [h.told.reporter.metrics]
    exact ⟨by rw [Metrics.launched_foldl, hlaunches]; rfl, by rw [Metrics.cancelled_foldl, hstops]; rfl⟩

/-- **A subscriber hears of what happens,** in order and behind what it has not read yet, if all of this is not more than
the capacity of the bus. -/
theorem subscriber_hears_events {capacity : Nat} {b : EventBus StepEvent} (accepted : EventBus.new? capacity = some b)
    {i : Nat} {us : List (EventBus.Action StepEvent)} {es : List StepEvent} (subscribed : EventBus.news i us = some es)
    (m : Machine μ) (backend : Backend) (config : Config) (w : μ) (vs : List (Move μ)) :
    let S := quiet (.new backend config (some (b.run us))) w
    let heard := es.drop (EventBus.passed (EventBus.replies i b us)) ++
      Happening.events backend (S.chronicle m default vs)
    heard.length ≤ capacity →
      (S.run m vs).launcher.reporter.bus.map (fun bus => (bus.receiveAll i).1) = some heard := by
  intro S heard near
  have htold := told_run (m := m) (described_quiet (.new backend config (some (b.run us))) w default) vs
  rw [htold.reporter.bus]
  exact congrArg some (EventBus.receiveAll_emitAll accepted subscribed _ near)

/-- **Events and counts account for what a launcher has done.** However its calls, the scans of its tasks and everything
else follow one another: what it has published and counted is what its calls have answered and its tasks have come to,
and nothing else. Every answer is accounted for; and a move with which no launch and no stop succeeds publishes at most
ends of tasks, and counts no launch and no stop. -/
theorem events_and_counts_account (m : Machine μ) (backend : Backend) (config : Config)
    (bus : Option (EventBus StepEvent)) (w : μ) (vs : List (Move μ)) :
    let S := quiet (.new backend config bus) w
    let T := S.run m vs
    let happened := S.chronicle m default vs
    T.launcher.reporter.AccountsFor backend bus happened ∧
      (Happening.calls happened).map (·.answer) = S.answers m vs ∧
      (Happening.launches happened).map (·.2) = (S.answers m vs).filterMap (·.launched?) ∧
      (Happening.stops happened).length = (S.answers m vs).countP (·.isStopped) ∧
      (∀ x ∈ Happening.launches happened, x.1.Fits x.2) ∧
      ∀ v, (∀ a ∈ T.answer? m v, a.launched? = none ∧ a.isStopped = false) →
        (T.move m v).launcher.reporter.bus = T.launcher.reporter.bus.map (·.emitAll ((T.exits v).map .ofExit)) ∧
          (T.move m v).launcher.reporter.journal.metrics.launched = T.launcher.reporter.journal.metrics.launched ∧
          (T.move m v).launcher.reporter.journal.metrics.cancelled = T.launcher.reporter.journal.metrics.cancelled := by
  intro S T happened
  have described : S.Described default := described_quiet _ w _
  have htold : (Launcher.new backend config bus).Tells (Happening.told backend happened) T.launcher :=
    told_run described vs
  have hordered : Notice.Ordered (Happening.told backend happened) :=
    ordered_run described Notice.ordered_nil (fun id hid => absurd rfl hid) vs
  have hanswers : (Happening.calls happened).map (·.answer) = S.answers m vs := answers_chronicle m S _ vs
  have hcalls : ∀ x ∈ Happening.calls happened, x.dossier.Answered x.answer :=
    fun x hx => answered_of_mem_chronicle described (Happening.finished_mem_of_mem_calls hx)
  refine ⟨htold.accountsFor hordered, hanswers, ?_, ?_, fun x hx => ?_, fun v plain => ?_⟩
  · rw [← hanswers, List.filterMap_map, Happening.launches, List.map_filterMap]
    exact List.filterMap_congr fun x hx => (hcalls x hx).launch?
  · rw [← hanswers, List.countP_map, Happening.stops, List.length_filterMap_eq_countP]
    exact List.countP_congr fun x hx => iff_of_eq (congrArg (· = true) (hcalls x hx).stop?)
  · obtain ⟨y, hy, hlaunch⟩ := List.mem_filterMap.1 hx
    exact (hcalls y hy).fits hlaunch
  · obtain ⟨files', hdescribed⟩ := described_run (m := m) described vs
    exact plain_move hdescribed plain

/-- A direct step is launched, seen to end, and stopped. -/
theorem events_and_counts_account_direct :
    let a : Step := ⟨"a", "/", false, .plain { exe := "true" }, rfl⟩
    let vs : List (Move Unit) := [.begin (.run a), .watch (.scan [(.issued 0, .exited 0)]), .begin (.stop "a")]
    let bus : EventBus StepEvent := { capacity := 8 }
    let S := quiet (.new .localMachine {} (some bus)) ()
    let events : List StepEvent :=
      [.launched "a" "Local" (.task (.issued 0)), .taskExited (.issued 0) .completed (some 0), .cancelled "a" false]
    let T := S.run .obliging vs
    T.launcher.reporter.bus = some (bus.emitAll events) ∧
      (T.launcher.reporter.journal.metrics.cancelled.get? "Local").getD 0 = 1 ∧
      (S.answers .obliging vs).filterMap (·.launched?) = [.task (.issued 0)] ∧
      (S.answers .obliging vs).countP (·.isStopped) = 1 := by
  intro a vs bus S events T
  obtain ⟨accounts, -, hlaunches, hstops, -⟩ :=
    events_and_counts_account .obliging .localMachine {} (some bus) () vs
  have hevents : Happening.events .localMachine (S.chronicle .obliging default vs) = events := rfl
  have hpublished := accounts.published
  rw [hevents, Option.map_some] at hpublished
  have hcancelled := accounts.cancelCount "Local"
  refine ⟨hpublished, hcancelled.trans ?_, hlaunches.symm.trans ?_, hstops.symm.trans ?_⟩
  · decide +kernel
  · decide +kernel
  · decide +kernel

end Traffic

end JobLaunch
