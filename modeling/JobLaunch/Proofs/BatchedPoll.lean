import JobLaunch.Proofs.Finality

/-!
# Polls of several names

* `Registry.Arises` : a registry that has come about by registry operations; `Registry.Arises.tracked` : each of its
  steps has the identifier by which it is followed (`Registry.Tracked`);
* `Registry.fst_observeAll_map`, `Registry.get?_observeAll_map` : recording a snapshot for each of many names, with
  repetitions;
* `Launcher.look` : what one look at a name tells; `Launcher.told` : what is reported of it then;
* `Launcher.sightings_asked` : a poll looks once at each registered name that is requested;
* `Launcher.PollEnds` : the end of a poll; `Launcher.poll_answers_each_name` : every poll ends so.
-/

namespace JobLaunch

/-! ## Registered steps can be followed -/

/-- The step has the identifier by which it is followed. -/
def Entry.Tracked (e : Entry) : Prop := e.trackingId? ≠ none

namespace Entry

variable {e : Entry}

theorem Tracked.of_managed (h : e.Tracked) (managed : e.managed = true) :
    ∃ id, e.stepId = some id ∧ e.trackingId? = some (.step id) := by
  unfold Tracked trackingId? at h
  rw [if_pos managed] at h
  obtain ⟨id, hid⟩ := Option.ne_none_iff_exists'.1 fun hnone => h (congrArg (Option.map TrackingId.step) hnone)
  exact ⟨id, hid, by rw [trackingId?, if_pos managed, hid]; rfl⟩

theorem Tracked.of_unmanaged (h : e.Tracked) (managed : e.managed = false) :
    ∃ id, e.taskId = some id ∧ e.trackingId? = some (.task id) := by
  unfold Tracked trackingId? at h
  rw [managed, if_neg Bool.false_ne_true] at h
  obtain ⟨id, hid⟩ := Option.ne_none_iff_exists'.1 fun hnone => h (congrArg (Option.map TrackingId.task) hnone)
  exact ⟨id, hid, by rw [trackingId?, managed, if_neg Bool.false_ne_true, hid]; rfl⟩

theorem tracked_of_make {name : String} {stepId : Option String} {taskId : Option TaskId} {managed : Bool}
    (h : make name stepId taskId managed = .ok e) : e.Tracked := by
  obtain rfl := make_ok h
  unfold make at h
  cases managed with
  | true =>
    cases stepId with
    | none => cases h
    | some id => exact Option.some_ne_none _
  | false =>
    cases taskId with
    | none => cases h
    | some id => exact Option.some_ne_none _

end Entry

namespace Registry

/-- Each registered step has the identifier by which it is followed. -/
def Tracked (r : Registry) : Prop := ∀ n e, r.get? n = some e → e.Tracked

/-- A registry that has come about from an empty one by registry operations. -/
inductive Arises : Registry → Prop
  | empty : Arises {}
  | add {r r' : Registry} {name : String} {stepId : Option String} {taskId : Option TaskId} {managed : Bool}
    (arises : Arises r) (ok : r.add name stepId taskId managed = .ok r') : Arises r'
  | reserve {r r' : Registry} {name : String} (arises : Arises r) (ok : r.reserve name = .ok r') : Arises r'
  | release {r : Registry} (arises : Arises r) (name : String) : Arises (r.release name)
  | commit {r : Registry} (arises : Arises r) (name : String) (stepId : Option String) (taskId : Option TaskId)
    (managed : Bool) : Arises (r.commit name stepId taskId managed).2
  | remove {r : Registry} (arises : Arises r) (name : String) : Arises (r.remove name)
  | observe {r : Registry} (arises : Arises r) (name : String) (fresh : Snapshot) : Arises (r.observe name fresh).2

variable {r r' : Registry} {name : String} {stepId : Option String} {taskId : Option TaskId} {managed : Bool}

theorem add_eq_ok (h : r.add name stepId taskId managed = .ok r') :
    ∃ e, Entry.make name stepId taskId managed = .ok e ∧ r' = { r with entries := r.entries.insert name e } := by
  unfold add at h
  cases hmake : Entry.make name stepId taskId managed with
  | error err =>
    rw [hmake] at h
    cases h
  | ok e =>
    rw [hmake] at h
    exact ⟨e, rfl, (Except.ok.inj h).symm⟩

theorem Tracked.insert {e : Entry} (h : r.Tracked) (he : e.Tracked) (name : String) :
    Tracked { r with entries := r.entries.insert name e } := by
  intro k e' hk
  rw [get?_insert] at hk
  split at hk
  · exact Option.some.inj hk ▸ he
  · exact h k e' hk

theorem Tracked.remove (h : r.Tracked) (name : String) : (r.remove name).Tracked := by
  intro k e hk
  rw [get?_remove] at hk
  split at hk
  · cases hk
  · exact h k e hk

theorem Tracked.observe (h : r.Tracked) (name : String) (fresh : Snapshot) : (r.observe name fresh).2.Tracked := by
  intro k e hk
  rw [get?_observe] at hk
  split at hk
  · obtain ⟨e', he', rfl⟩ := Option.map_eq_some_iff.1 hk
    exact h k e' he'
  · exact h k e hk

/-- **Each registered step has the identifier by which it is followed.** -/
theorem Arises.tracked (h : r.Arises) : r.Tracked := by
  induction h with
  | empty => exact fun k e hk => absurd hk nofun
  | add arises ok ih =>
    obtain ⟨e, hmake, rfl⟩ := add_eq_ok ok
    exact Tracked.insert ih (Entry.tracked_of_make hmake) _
  | reserve arises ok ih =>
    obtain ⟨-, -, rfl⟩ := reserve_eq_ok ok
    exact ih
  | release arises name ih => exact ih
  | commit arises name stepId taskId managed ih =>
    cases hmake : Entry.make name stepId taskId managed with
    | error err =>
      rw [commit_of_make_error hmake]
      exact ih
    | ok e =>
      rw [commit_of_make hmake]
      exact Tracked.insert ih (Entry.tracked_of_make hmake) _
  | remove arises name ih => exact ih.remove name
  | observe arises name fresh ih => exact ih.observe name fresh

/-! ## Recording many snapshots -/

def last? (r : Registry) (name : String) : Option Snapshot := (r.get? name).bind (·.last)

/-- Is the name registered as managed, or as unmanaged? -/
def has (r : Registry) (managed : Bool) (name : String) : Bool := (r.get? name).any (·.managed = managed)

end Registry

theorem Snapshot.supersede_supersede (previous : Option Snapshot) (fresh : Snapshot) :
    supersede (some (supersede previous fresh)) fresh = supersede previous fresh := by
  cases previous with
  | none => exact supersede_self fresh
  | some kept =>
    by_cases hkept : kept.isTerminal = true
    · rw [supersede_of_terminal hkept]
      by_cases hfresh : fresh.isTerminal = true
      · have hmerged : ∀ output error, ({ kept with output, error } : Snapshot).isTerminal = true := fun _ _ => hkept
        rw [if_pos hfresh, supersede_of_terminal (hmerged _ _), if_pos hfresh, Option.or_assoc, Option.or_self,
          Option.or_assoc, Option.or_self]
      · rw [if_neg hfresh, supersede_of_terminal hkept, if_neg hfresh]
    · rw [supersede_of_not_terminal (Bool.eq_false_iff.2 hkept), supersede_self]

theorem Entry.see_see (e : Entry) (fresh : Snapshot) : (e.see fresh).see fresh = e.see fresh := by
  show { e with last := _ } = { e with last := _ }
  rw [show (e.see fresh).last = some (Snapshot.supersede e.last fresh) from rfl, Snapshot.supersede_supersede]

namespace Registry

theorem last?_observe (r : Registry) (name k : String) (fresh : Snapshot) :
    (r.observe name fresh).2.last? k =
      if k = name then (r.get? k).map fun e => Snapshot.supersede e.last fresh else r.last? k := by
  unfold last?
  rw [get?_observe]
  split
  · cases r.get? k <;> rfl
  · rfl

theorem fst_observeAll_map (r : Registry) (look : String → Snapshot) (ns : List String) :
    (r.observeAll (ns.map fun n => (n, look n))).1 = ns.map fun n => (n, Snapshot.supersede (r.last? n) (look n)) := by
  induction ns generalizing r with
  | nil => rfl
  | cons n ns ih =>
    have htell : ∀ k, Snapshot.supersede ((r.observe n (look n)).2.last? k) (look k) =
        Snapshot.supersede (r.last? k) (look k) := by
      intro k
      rw [last?_observe]
      split
      · next hk =>
        unfold last?
        rw [hk]
        cases r.get? n with
        | none => rfl
        | some e => exact Snapshot.supersede_supersede e.last (look n)
      · rfl
    show (n, (r.observe n (look n)).1) :: ((r.observe n (look n)).2.observeAll (ns.map fun n => (n, look n))).1 = _
    rw [ih, fst_observe]
    simp only [htell]
    rfl

theorem get?_observeAll_map (r : Registry) (look : String → Snapshot) (ns : List String) (k : String) :
    (r.observeAll (ns.map fun n => (n, look n))).2.get? k =
      if k ∈ ns then (r.get? k).map (·.see (look k)) else r.get? k := by
  induction ns generalizing r with
  | nil => rfl
  | cons n ns ih =>
    show ((r.observe n (look n)).2.observeAll (ns.map fun n => (n, look n))).2.get? k = _
    rw [ih, get?_observe]
    by_cases hk : k = n
    · subst hk
      rw [if_pos rfl, if_pos List.mem_cons_self]
      cases r.get? k with
      | none => simp
      | some e => simp [Entry.see_see]
    · simp [hk]

end Registry

/-! ## Looking at names -/

namespace Launcher

variable {l : Launcher}

/-- What the scheduler has answered of a job, or what can be seen of a task. -/
def lookUp (l : Launcher) (answer : Option (Except String CommandOutput)) : TrackingId → Snapshot
  | .step id => l.jobSnapshot answer id
  | .task id => l.unmanagedSnapshot (.task id)

/-- What one look at a name tells: a managed step is looked up by its own job id, any other by its own task. -/
def look (l : Launcher) (answer : Option (Except String CommandOutput)) (name : String) : Snapshot :=
  (((l.registry.get? name).bind (·.trackingId?)).map (l.lookUp answer)).getD Snapshot.unknown

/-- What is reported of a name after one look. -/
def told (l : Launcher) (answer : Option (Except String CommandOutput)) (name : String) : Snapshot :=
  Snapshot.supersede (l.registry.last? name) (l.look answer name)

def polledNames (l : Launcher) (names : List String) : List String :=
  names.filter (l.registry.has true) ++ names.filter (l.registry.has false)

def pollReports (l : Launcher) (answer : Option (Except String CommandOutput)) (names : List String) : List Report :=
  (l.polledNames names).map fun n => (n, l.told answer n)

end Launcher

namespace Registry

variable {r : Registry}

/-- The job id of a name. -/
def stepId? (r : Registry) (name : String) : Option String := (r.get? name).bind (·.stepId)

theorem has_eq_false_of_none {n : String} (h : r.get? n = none) (managed : Bool) : r.has managed n = false := by
  rw [has, h]
  rfl

theorem has_eq {n : String} {e : Entry} (h : r.get? n = some e) (managed : Bool) :
    r.has managed n = decide (e.managed = managed) := by
  rw [has, h]
  rfl

theorem map_idsOf {α : Type} (h : r.Tracked) (names : List String) (managed : Bool)
    (f : TrackingId → α) (default : α) :
    (r.idsOf names managed).map (fun x => (x.1, f x.2)) =
      (names.filter (r.has managed)).map fun n =>
        (n, (((r.get? n).bind (·.trackingId?)).map f).getD default) := by
  induction names with
  | nil => rfl
  | cons n names ih =>
    have hcons : r.idsOf (n :: names) managed = (r.idOf? managed n).toList ++ r.idsOf names managed := by
      show List.filterMap _ _ = _
      cases hid : r.idOf? managed n with
      | none => exact List.filterMap_cons_none hid
      | some x => exact List.filterMap_cons_some hid
    rw [hcons, List.map_append, ih]
    cases hget : r.get? n with
    | none =>
      rw [List.filter_cons_of_neg (by rw [has_eq_false_of_none hget]; exact Bool.false_ne_true)]
      rw [idOf?, hget]
      rfl
    | some e =>
      by_cases hm : e.managed = managed
      · obtain ⟨id, hid⟩ := Option.ne_none_iff_exists'.1 (h n e hget)
        rw [List.filter_cons_of_pos (by rw [has_eq hget]; exact decide_eq_true hm), idOf?, hget, List.map_cons, hget,
          Option.bind_some, Option.bind_some, if_pos hm, hid]
        rfl
      · rw [List.filter_cons_of_neg (by rw [has_eq hget]; simpa using hm), idOf?, hget, Option.bind_some, if_neg hm]
        rfl

theorem has_or_has {n : String} {e : Entry} (h : r.get? n = some e) : r.has true n = true ∨ r.has false n = true := by
  rw [has_eq h, has_eq h]
  cases e.managed with
  | true => exact Or.inl rfl
  | false => exact Or.inr rfl

theorem exists_of_has {n : String} {managed : Bool} (h : r.has managed n = true) :
    ∃ e, r.get? n = some e ∧ e.managed = managed := by
  cases hget : r.get? n with
  | none =>
    rw [has_eq_false_of_none hget] at h
    cases h
  | some e =>
    rw [has_eq hget] at h
    exact ⟨e, rfl, of_decide_eq_true h⟩

end Registry

/-! ## Polls -/

namespace Launcher

variable {l : Launcher} {names : List String}

theorem mem_polledNames {n : String} :
    n ∈ l.polledNames names ↔ n ∈ names ∧ (l.registry.has true n = true ∨ l.registry.has false n = true) := by
  unfold polledNames
  rw [List.mem_append, List.mem_filter, List.mem_filter]
  exact and_or_left.symm

/-- **A poll looks once at each registered name that is requested.** -/
theorem sightings_asked (tracked : l.registry.Tracked)
    (answer : Option (Except String CommandOutput)) (names : List String) :
    (l.sightings (l.asked names) answer).map (·.report) =
      (l.polledNames names).map fun n => (n, l.look answer n) := by
  have hmanaged := Registry.map_idsOf tracked names true (fun t => l.jobSnapshot answer t.text) .unknown
  have hunmanaged := Registry.map_idsOf tracked names false l.unmanagedSnapshot .unknown
  have hreports : (l.sightings (l.asked names) answer).map (·.report) =
      (l.registry.idsOf names true).map (fun x => (x.1, l.jobSnapshot answer x.2.text)) ++
        (l.registry.idsOf names false).map (fun x => (x.1, l.unmanagedSnapshot x.2)) := by
    simp [sightings, asked, Sighting.report, Function.comp_def]
  rw [hreports, hmanaged, hunmanaged, polledNames, List.map_append]
  congr 1
  · refine List.map_congr_left fun n hn => ?_
    obtain ⟨e, hget, hm⟩ := Registry.exists_of_has (List.mem_filter.1 hn).2
    obtain ⟨id, -, hid⟩ := (tracked n e hget).of_managed hm
    rw [look, hget, Option.bind_some, hid]
    rfl
  · refine List.map_congr_left fun n hn => ?_
    obtain ⟨e, hget, hm⟩ := Registry.exists_of_has (List.mem_filter.1 hn).2
    obtain ⟨id, -, hid⟩ := (tracked n e hget).of_unmanaged hm
    rw [look, hget, Option.bind_some, hid]
    rfl

theorem ids_asked (tracked : l.registry.Tracked) (names : List String) :
    (l.asked names).ids.map some = (names.filter (l.registry.has true)).map l.registry.stepId? := by
  have hids : (l.asked names).ids = ((l.registry.idsOf names true).map fun x => (x.1, x.2.text)).map (·.2) := rfl
  rw [hids, Registry.map_idsOf tracked names true TrackingId.text "", List.map_map, List.map_map]
  refine List.map_congr_left fun n hn => ?_
  obtain ⟨e, hget, hm⟩ := Registry.exists_of_has (List.mem_filter.1 hn).2
  obtain ⟨id, hstep, hid⟩ := (tracked n e hget).of_managed hm
  show some ((((l.registry.get? n).bind (·.trackingId?)).map TrackingId.text).getD "") =
    (l.registry.get? n).bind (·.stepId)
  rw [hget, Option.bind_some, Option.bind_some, hid, hstep]
  rfl

/-- A poll has come to its end with what the requested names tell, which is recorded, and has changed nothing else. -/
structure PollEnds (l : Launcher) (answer : Option (Except String CommandOutput)) (names : List String)
    (next : PollProgress × Launcher) : Prop where
  reports : next.1 = .done (l.pollReports answer names)
  requested : ∀ n ∈ names, next.2.registry.get? n =
    (l.registry.get? n).map fun e => { e with last := some (l.told answer n) }
  others : ∀ n ∉ names, next.2.registry.get? n = l.registry.get? n
  reserved : next.2.registry.reserved = l.registry.reserved
  rest : next.2 = { l with registry := next.2.registry }

theorem pollEnds_record (tracked : l.registry.Tracked)
    (answer : Option (Except String CommandOutput)) (names : List String) :
    l.PollEnds answer names
      (.done (l.record (l.sightings (l.asked names) answer)).1, (l.record (l.sightings (l.asked names) answer)).2) := by
  have hget : ∀ n, (l.record (l.sightings (l.asked names) answer)).2.registry.get? n =
      if n ∈ l.polledNames names then (l.registry.get? n).map (·.see (l.look answer n)) else l.registry.get? n := by
    intro n
    show (l.registry.observeAll ((l.sightings (l.asked names) answer).map (·.report))).2.get? n = _
    rw [sightings_asked tracked, Registry.get?_observeAll_map]
  refine ⟨?_, fun n hn => ?_, fun n hn => ?_, Registry.reserved_observeAll _ _, rfl⟩
  · show Progress.done (l.registry.observeAll ((l.sightings (l.asked names) answer).map (·.report))).1 = _
    rw [sightings_asked tracked, Registry.fst_observeAll_map]
    rfl
  · rw [hget]
    cases hn' : l.registry.get? n with
    | none => exact ite_self none
    | some e =>
      rw [if_pos (mem_polledNames.2 ⟨hn, Registry.has_or_has hn'⟩)]
      show some (e.see (l.look answer n)) = some _
      rw [told, Registry.last?, hn']
      rfl
  · rw [hget, if_neg fun h => hn (mem_polledNames.1 h).1]

theorem PollEnds.congr {answer answer' : Option (Except String CommandOutput)} {next : PollProgress × Launcher}
    (h : l.PollEnds answer names next) (same : ∀ n ∈ names, l.told answer n = l.told answer' n) :
    l.PollEnds answer' names next := by
  refine ⟨?_, fun n hn => ?_, h.others, h.reserved, h.rest⟩
  · rw [h.reports]
    exact congrArg Progress.done (List.map_congr_left fun n hn => by rw [same n (mem_polledNames.1 hn).1])
  · rw [h.requested n hn, same n hn]

theorem told_of_not_has {n : String} (h : l.registry.has true n = false)
    (tracked : l.registry.Tracked) (answer answer' : Option (Except String CommandOutput)) :
    l.told answer n = l.told answer' n := by
  unfold told look
  cases hget : l.registry.get? n with
  | none => rfl
  | some e =>
    rw [Registry.has_eq hget] at h
    obtain ⟨id, -, hid⟩ := (tracked n e hget).of_unmanaged (Bool.eq_false_iff.2 (of_decide_eq_false h))
    rw [Option.bind_some, hid]
    rfl

theorem mem_pollReports {answer : Option (Except String CommandOutput)} {n : String} {snap : Snapshot} :
    (n, snap) ∈ l.pollReports answer names ↔ n ∈ l.polledNames names ∧ snap = l.told answer n := by
  unfold pollReports
  rw [List.mem_map]
  constructor
  · rintro ⟨k, hk, heq⟩
    cases heq
    exact ⟨hk, rfl⟩
  · rintro ⟨hn, rfl⟩
    exact ⟨n, hn, rfl⟩

theorem isEmpty_queried (tracked : l.registry.Tracked) (names : List String) :
    (l.asked names).queried.isEmpty = true ↔ names.filter (l.registry.has true) = [] := by
  rw [List.isEmpty_iff, ← List.map_eq_nil_iff (f := l.registry.stepId?), ← ids_asked tracked, List.map_eq_nil_iff]
  exact List.map_eq_nil_iff.symm

theorem beginPoll_of_scheduler {s : Scheduler} (scheduled : l.backend.scheduler? = some s) (names : List String) :
    l.beginPoll names =
      if (l.asked names).queried.isEmpty = true then
        (.done (l.record (l.sightings (l.asked names) none)).1, (l.record (l.sightings (l.asked names) none)).2)
      else (.waiting (l.asked names), l) := by
  show (if ((l.asked names).queried.isEmpty || l.backend.scheduler?.isNone) = true then
      (Progress.done (l.finishPoll (l.asked names) (l.asked names).unknowns).1,
        (l.finishPoll (l.asked names) (l.asked names).unknowns).2)
    else (.waiting (l.asked names), l)) = _
  rw [scheduled, Option.isNone_some, Bool.or_false, unknowns_eq l, finishPoll_eq]

theorem resumePoll_answered (l : Launcher) (p : Poll) (answer : Except String CommandOutput) :
    l.resumePoll p (.answered answer) =
      (.done (l.record (l.sightings p (some answer))).1, (l.record (l.sightings p (some answer))).2) := by
  unfold resumePoll
  rw [← finishPoll_eq, ← answeredSnapshots_eq]

/-- **A poll answers each registered name that is requested, once for each request, and nothing else.** It reports first
of the managed names and then of the others, in the order of the request. If there is a managed one it asks the
scheduler, once, for the job ids of all of them; each snapshot comes from the name's own job id or own task, so that it
is the same whatever else is requested. Only the last snapshots of requested names change. -/
theorem poll_answers_each_name {s : Scheduler} (scheduled : l.backend = .scheduled s) (arises : l.registry.Arises)
    (names : List String) :
    let managed := names.filter (l.registry.has true)
    (managed = [] → ∀ answer, l.PollEnds answer names (l.beginPoll names)) ∧
      (managed ≠ [] → ∃ p, l.beginPoll names = (.waiting p, l) ∧
        (∃ ids, ids.map some = managed.map l.registry.stepId? ∧ l.pollWait p = .command (s.queryCommand ids)) ∧
        ∀ ws answer, let l' := l.watchAll ws
          l' = { l with supervisor := l'.supervisor, reporter := l'.reporter } ∧
            l'.PollEnds (some answer) names (l'.resumePoll p (.answered answer))) ∧
      (∀ n ∈ names, l.registry.contains n → n ∈ managed ∨ n ∈ names.filter (l.registry.has false)) ∧
      ∀ answer others n snap, n ∈ names → n ∈ others →
        ((n, snap) ∈ l.pollReports answer names ↔ (n, snap) ∈ l.pollReports answer others) := by
  intro managed
  have tracked := arises.tracked
  have hscheduler : l.backend.scheduler? = some s := congrArg Backend.scheduler? scheduled
  have hbegin := beginPoll_of_scheduler hscheduler names
  have hempty := isEmpty_queried tracked names
  refine ⟨fun hnone answer => ?_, fun hsome => ⟨l.asked names, ?_, ⟨_, ids_asked tracked names, ?_⟩,
    fun ws answer => ⟨watchAll_eq l ws, ?_⟩⟩, fun n hn hreg => ?_, fun answer others n snap hn hn' => ?_⟩
  · rw [hbegin, if_pos (hempty.2 hnone)]
    refine (pollEnds_record tracked none names).congr fun n hn => ?_
    exact told_of_not_has (Bool.eq_false_iff.2 (List.filter_eq_nil_iff.1 hnone n hn)) tracked none answer
  · rw [hbegin, if_neg fun h => hsome (hempty.1 h)]
  · unfold pollWait
    rw [hscheduler]
  · have hregistry := registry_watchAll l ws
    have hasked : (l.watchAll ws).asked names = l.asked names := by
      unfold asked
      rw [hregistry]
    rw [resumePoll_answered, ← hasked]
    exact pollEnds_record (by rw [hregistry]; exact tracked) (some answer) names
  · obtain ⟨e, hget⟩ := Option.isSome_iff_exists.1 hreg
    exact (Registry.has_or_has hget).imp (fun h => List.mem_filter.2 ⟨hn, h⟩) fun h => List.mem_filter.2 ⟨hn, h⟩
  · simp only [mem_pollReports, mem_polledNames, hn, hn', true_and]

/-- A managed name and a task, requested with an unknown name and a repetition. -/
theorem poll_answers_each_name_mixed : ∃ l : Launcher, l.backend = .scheduled (.pbs {}) ∧ l.registry.Arises ∧
    ∃ p, l.beginPoll ["b", "a", "x", "a"] = (.waiting p, l) ∧ p.ids = ["1", "1"] ∧ ∀ answer,
      (l.resumePoll p (.answered answer)).1 = .done [("a", l.jobSnapshot (some answer) "1"),
        ("a", l.jobSnapshot (some answer) "1"), ("b", l.unmanagedSnapshot (.task (.issued 0)))] := by
  let e : Entry := ⟨some "1", none, true, none⟩
  let f : Entry := ⟨none, some (.issued 0), false, none⟩
  let r : Registry := { entries := ((∅ : Dict Entry).insert "a" e).insert "b" f }
  let l : Launcher := { backend := .scheduled (.pbs {}), registry := r }
  have arises : l.registry.Arises :=
    .add (.add .empty (show Registry.add {} "a" (some "1") none true = .ok _ from rfl))
      (show Registry.add _ "b" none (some (.issued 0)) false = .ok r from rfl)
  obtain ⟨-, hwaits, -, -⟩ := poll_answers_each_name (l := l) rfl arises ["b", "a", "x", "a"]
  obtain ⟨p, hbegin, -, hends⟩ := hwaits (by decide)
  obtain rfl : l.asked ["b", "a", "x", "a"] = p := by
    have h : l.beginPoll ["b", "a", "x", "a"] = (.waiting (l.asked ["b", "a", "x", "a"]), l) := rfl
    rw [h] at hbegin
    cases hbegin
    rfl
  exact ⟨l, rfl, arises, _, rfl, rfl, fun answer => (hends [] answer).2.reports⟩

end Launcher

end JobLaunch
