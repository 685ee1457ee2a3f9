import JobLaunch.Proofs.BatchedPoll
import JobLaunch.Proofs.Traffic

/-!
# A registry in the hands of many users

* `SharedRegistry` : a registry with the reservations that its users hold; `SharedRegistry.use` : one use of it;
* `SharedRegistry.Change` : all that a use can do (`SharedRegistry.change`);
* `SharedRegistry.Serves` : how a registry answers its next use (`SharedRegistry.serves`);
* `SharedRegistry.careful` : nothing is added under a reserved name;
* `Registry.idsOf_perm` : a managed and an unmanaged look-up together find each registered name that is requested;
* `SharedRegistry.registry_invariant` : what holds of a registry after any uses.
-/

namespace JobLaunch

/-- A registry with the reservations in the hands of its users. Its clones are one registry. -/
structure SharedRegistry where
  registry : Registry := {}
  /-- The reserved names in the order of their grants; none for a reservation that is committed or dropped. -/
  granted : List (Option String) := []

namespace SharedRegistry

/-! ## Uses -/

/-- One use of a registry. A reservation is known by the number of its grant. -/
inductive Use where
  | add (name : String) (stepId : Option String) (taskId : Option TaskId) (managed : Bool)
  | reserve (name : String)
  | commit (grant : Nat) (stepId : Option String) (taskId : Option TaskId) (managed : Bool)
  | drop (grant : Nat)
  | remove (name : String)
  | observe (name : String) (fresh : Snapshot)

/-- The name that a reservation holds. -/
def holds? (d : SharedRegistry) (grant : Nat) : Option String := d.granted[grant]?.join

/-- One use, with its result. A reservation that is committed or dropped cannot be used again. -/
def use (d : SharedRegistry) : Use → Except LaunchError Unit × SharedRegistry
  | .add name stepId taskId managed =>
    match d.registry.add name stepId taskId managed with
    | .ok registry => (.ok (), { d with registry })
    | .error err => (.error err, d)
  | .reserve name =>
    match d.registry.reserve name with
    | .ok registry => (.ok (), { registry, granted := d.granted ++ [some name] })
    | .error err => (.error err, d)
  | .commit grant stepId taskId managed =>
    match d.holds? grant with
    | some name =>
      let (result, registry) := d.registry.commit name stepId taskId managed
      (result, { registry, granted := d.granted.set grant none })
    | none => (.ok (), d)
  | .drop grant =>
    match d.holds? grant with
    | some name => (.ok (), { registry := d.registry.release name, granted := d.granted.set grant none })
    | none => (.ok (), d)
  | .remove name => (.ok (), { d with registry := d.registry.remove name })
  | .observe name fresh => (.ok (), { d with registry := (d.registry.observe name fresh).2 })

def run (d : SharedRegistry) (us : List Use) : SharedRegistry := us.foldl (fun d u => (d.use u).2) d

variable {d : SharedRegistry}

inductive Change (d : SharedRegistry) : Use → SharedRegistry → Prop
  | keeps (u : Use) : Change d u d
  | adds {name : String} {stepId : Option String} {taskId : Option TaskId} {managed : Bool}
    (made : Entry.make name stepId taskId managed = .ok { stepId, taskId, managed }) :
    Change d (.add name stepId taskId managed)
      { d with registry := { d.registry with entries := d.registry.entries.insert name { stepId, taskId, managed } } }
  | reserves {name : String} {r : Registry} (free : d.registry.reserve name = .ok r) :
    Change d (.reserve name) { registry := r, granted := d.granted ++ [some name] }
  | commits {grant : Nat} {name : String} {stepId : Option String} {taskId : Option TaskId} {managed : Bool}
    (holds : d.holds? grant = some name)
    (made : Entry.make name stepId taskId managed = .ok { stepId, taskId, managed }) :
    Change d (.commit grant stepId taskId managed)
      { registry := { d.registry.release name with
          entries := d.registry.entries.insert name { stepId, taskId, managed } }
        granted := d.granted.set grant none }
  | releases {u : Use} {grant : Nat} {name : String} (holds : d.holds? grant = some name) :
    Change d u { registry := d.registry.release name, granted := d.granted.set grant none }
  | removes (name : String) : Change d (.remove name) { d with registry := d.registry.remove name }
  | observes (name : String) (fresh : Snapshot) :
    Change d (.observe name fresh) { d with registry := (d.registry.observe name fresh).2 }

section Results

variable {name : String} {grant : Nat} {stepId : Option String} {taskId : Option TaskId} {managed : Bool} {e : Entry}
  {err : LaunchError} {r : Registry}

theorem use_add_ok (made : Entry.make name stepId taskId managed = .ok e) :
    d.use (.add name stepId taskId managed) =
      (.ok (), { d with registry := { d.registry with entries := d.registry.entries.insert name e } }) := by
  simp only [use, Registry.add, made]
  rfl

theorem use_add_error (refused : Entry.make name stepId taskId managed = .error err) :
    d.use (.add name stepId taskId managed) = (.error err, d) := by
  simp only [use, Registry.add, refused]
  rfl

theorem use_reserve_ok (free : d.registry.reserve name = .ok r) :
    d.use (.reserve name) = (.ok (), { registry := r, granted := d.granted ++ [some name] }) := by
  simp only [use, free]

theorem use_reserve_error (refused : d.registry.reserve name = .error err) :
    d.use (.reserve name) = (.error err, d) := by
  simp only [use, refused]

theorem use_commit_ok (holds : d.holds? grant = some name)
    (made : Entry.make name stepId taskId managed = .ok e) :
    d.use (.commit grant stepId taskId managed) =
      (.ok (), { registry := { d.registry.release name with entries := d.registry.entries.insert name e }
                 granted := d.granted.set grant none }) := by
  simp only [use, holds, Registry.commit_of_make made]

theorem use_commit_error (holds : d.holds? grant = some name)
    (refused : Entry.make name stepId taskId managed = .error err) :
    d.use (.commit grant stepId taskId managed) =
      (.error err, { registry := d.registry.release name, granted := d.granted.set grant none }) := by
  simp only [use, holds, Registry.commit_of_make_error refused]

end Results

theorem change (d : SharedRegistry) (u : Use) : d.Change u (d.use u).2 := by
  cases u with
  | add name stepId taskId managed =>
    cases made : Entry.make name stepId taskId managed with
    | ok e =>
      rw [use_add_ok made]
      obtain rfl := Entry.make_ok made
      exact .adds made
    | error err =>
      rw [use_add_error made]
      exact .keeps _
  | reserve name =>
    cases free : d.registry.reserve name with
    | ok r =>
      rw [use_reserve_ok free]
      exact .reserves free
    | error err =>
      rw [use_reserve_error free]
      exact .keeps _
  | commit grant stepId taskId managed =>
    cases holds : d.holds? grant with
    | none =>
      simp only [use, holds]
      exact .keeps _
    | some name =>
      cases made : Entry.make name stepId taskId managed with
      | ok e =>
        rw [use_commit_ok holds made]
        obtain rfl := Entry.make_ok made
        exact .commits holds made
      | error err =>
        rw [use_commit_error holds made]
        exact .releases holds
  | drop grant =>
    cases holds : d.holds? grant with
    | none =>
      simp only [use, holds]
      exact .keeps _
    | some name =>
      simp only [use, holds]
      exact .releases holds
  | remove name => exact .removes name
  | observe name fresh => exact .observes name fresh

/-! ## Answers -/

/-- How a registry answers its next use. -/
structure Serves (d : SharedRegistry) : Prop where
  reserve_iff : ∀ name, (d.use (.reserve name)).1 = .ok () ↔
    d.registry.get? name = none ∧ d.registry.isReserved name = false
  reserve_refused : ∀ {name err}, (d.use (.reserve name)).1 = .error err → (d.use (.reserve name)).2 = d
  add_refused : ∀ {name stepId taskId managed err}, (d.use (.add name stepId taskId managed)).1 = .error err →
    (d.use (.add name stepId taskId managed)).2 = d
  commit_refused : ∀ {grant name stepId taskId managed err}, d.holds? grant = some name →
    (d.use (.commit grant stepId taskId managed)).1 = .error err →
    (d.use (.commit grant stepId taskId managed)).2 =
      { registry := d.registry.release name, granted := d.granted.set grant none }
  added : ∀ {name stepId taskId managed}, (d.use (.add name stepId taskId managed)).1 = .ok () →
    (d.use (.add name stepId taskId managed)).2.registry.get? name = some ⟨stepId, taskId, managed, none⟩
  committed : ∀ {grant name stepId taskId managed}, d.holds? grant = some name →
    (d.use (.commit grant stepId taskId managed)).1 = .ok () →
    (d.use (.commit grant stepId taskId managed)).2.registry.get? name = some ⟨stepId, taskId, managed, none⟩

theorem reserve_iff (d : SharedRegistry) (name : String) :
    (d.use (.reserve name)).1 = .ok () ↔ d.registry.get? name = none ∧ d.registry.isReserved name = false := by
  constructor
  · intro hok
    cases hres : d.registry.reserve name with
    | ok r =>
      obtain ⟨hget, hfree, -⟩ := Registry.reserve_eq_ok hres
      exact ⟨hget, hfree⟩
    | error err =>
      rw [use_reserve_error hres] at hok
      cases hok
  · rintro ⟨hget, hfree⟩
    cases hres : d.registry.reserve name with
    | ok r => rw [use_reserve_ok hres]
    | error err =>
      have htaken := (Registry.reserve_eq_error hres).1
      rw [Registry.contains_eq_isSome, hget, hfree] at htaken
      cases htaken

theorem serves (d : SharedRegistry) : d.Serves where
  reserve_iff := d.reserve_iff
  reserve_refused {name err} hfail := by
    cases hres : d.registry.reserve name with
    | ok r =>
      rw [use_reserve_ok hres] at hfail
      cases hfail
    | error err => rw [use_reserve_error hres]
  add_refused {name stepId taskId managed err} hfail := by
    cases made : Entry.make name stepId taskId managed with
    | ok e =>
      rw [use_add_ok made] at hfail
      cases hfail
    | error err => rw [use_add_error made]
  commit_refused {grant name stepId taskId managed err} holds hfail := by
    cases made : Entry.make name stepId taskId managed with
    | ok e =>
      rw [use_commit_ok holds made] at hfail
      cases hfail
    | error err => rw [use_commit_error holds made]
  added {name stepId taskId managed} hok := by
    cases made : Entry.make name stepId taskId managed with
    | ok e =>
      rw [use_add_ok made, Registry.get?_insert, if_pos rfl, Entry.make_ok made]
    | error err =>
      rw [use_add_error made] at hok
      cases hok
  committed {grant name stepId taskId managed} holds hok := by
    cases made : Entry.make name stepId taskId managed with
    | ok e =>
      rw [use_commit_ok holds made, ← Entry.make_ok made]
      exact (Registry.get?_insert (d.registry.release name) name name e).trans (if_pos rfl)
    | error err =>
      rw [use_commit_error holds made] at hok
      cases hok

/-! ## Invariants -/

theorem held_use (h : d.registry.Held d.holds?) (u : Use) : (d.use u).2.registry.Held (d.use u).2.holds? := by
  have hchange := d.change u
  generalize (d.use u).2 = d' at hchange
  cases hchange with
  | keeps => exact h
  | adds made => exact h.of_keeps (fun _ => rfl) rfl
  | reserves free =>
    have hunused : d.holds? d.granted.length = none := by
      rw [holds?, List.getElem?_eq_none (Nat.le_refl _), Option.join_none]
    exact h.of_takes free hunused (Traffic.slot_concat d.granted _)
  | commits holds made => exact h.of_leaves holds (Traffic.slot_set holds none) rfl
  | releases holds => exact h.of_leaves holds (Traffic.slot_set holds none) rfl
  | removes name => exact h.of_keeps (fun _ => rfl) rfl
  | observes name fresh => exact h.of_keeps (fun _ => rfl) (Registry.reserved_observe d.registry name fresh)

theorem tracked_use (h : d.registry.Tracked) (u : Use) : (d.use u).2.registry.Tracked := by
  have hchange := d.change u
  generalize (d.use u).2 = d' at hchange
  cases hchange with
  | keeps => exact h
  | adds made => exact h.insert (Entry.tracked_of_make made) _
  | reserves free =>
    obtain ⟨-, -, rfl⟩ := Registry.reserve_eq_ok free
    exact h
  | commits holds made => exact h.insert (Entry.tracked_of_make made) _
  | releases holds => exact h
  | removes name => exact h.remove name
  | observes name fresh => exact h.observe name fresh

/-- No name is both registered and reserved. -/
def Apart (d : SharedRegistry) : Prop := ∀ n, d.registry.isReserved n = true → d.registry.get? n = none

def Use.adds? : Use → Option String
  | .add name _ _ _ => some name
  | _ => none

/-- No use adds a step under a name that is reserved then. -/
def careful (d : SharedRegistry) : List Use → Bool
  | [] => true
  | u :: us => !u.adds?.any d.registry.isReserved && (d.use u).2.careful us

theorem apart_use (h : d.Apart) {u : Use} (careful : u.adds?.any d.registry.isReserved = false) :
    (d.use u).2.Apart := by
  have hchange := d.change u
  generalize (d.use u).2 = d' at hchange
  intro n hn
  cases hchange with
  | keeps => exact h n hn
  | @adds name stepId taskId managed made =>
    have hne : n ≠ name := by
      rintro rfl
      exact absurd (careful.symm.trans hn) Bool.false_ne_true
    rw [Registry.get?_insert, if_neg hne]
    exact h n hn
  | reserves free =>
    obtain ⟨hget, -, rfl⟩ := Registry.reserve_eq_ok free
    rcases List.mem_cons.1 ((Registry.isReserved_iff_mem _ n).1 hn) with rfl | hmem
    · exact hget
    · exact h n ((d.registry.isReserved_iff_mem n).2 hmem)
  | @commits _ name _ _ _ holds made =>
    obtain ⟨hres, hne⟩ := (d.registry.isReserved_release name n).1 hn
    refine (Registry.get?_insert (d.registry.release name) name n _).trans ?_
    rw [if_neg hne]
    exact h n hres
  | @releases _ _ name holds => exact h n ((d.registry.isReserved_release name n).1 hn).1
  | removes name =>
    rw [Registry.get?_remove, h n hn]
    exact ite_self none
  | observes name fresh =>
    have hres : d.registry.isReserved n = true := by
      rw [← hn]
      exact congrArg (·.contains n) (Registry.reserved_observe d.registry name fresh).symm
    rw [Registry.get?_observe, h n hres]
    exact ite_self none

theorem run_induction {P : SharedRegistry → Prop} (step : ∀ d u, P d → P (d.use u).2) (start : P d) (us : List Use) :
    P (d.run us) := by
  induction us generalizing d with
  | nil => exact start
  | cons u us ih => exact ih (step d u start)

theorem apart_run (h : d.Apart) {us : List Use} (hcareful : d.careful us = true) : (d.run us).Apart := by
  induction us generalizing d with
  | nil => exact h
  | cons u us ih =>
    rw [careful, Bool.and_eq_true, Bool.not_eq_true'] at hcareful
    exact ih (apart_use h hcareful.1) hcareful.2

theorem held_new : ({} : SharedRegistry).registry.Held ({} : SharedRegistry).holds? where
  reserved_iff name := by simp [Registry.isReserved, holds?]
  alone hi := by simp [holds?] at hi

end SharedRegistry

/-! ## Identifiers of registered names -/

/-- The identifier is the entry's own: the job id of a managed step, the task of any other. -/
def Entry.FollowedBy (e : Entry) : TrackingId → Prop
  | .step id => e.managed = true ∧ e.stepId = some id
  | .task id => e.managed = false ∧ e.taskId = some id

theorem Entry.Tracked.followedBy {e : Entry} (h : e.Tracked) : ∃ id, e.trackingId? = some id ∧ e.FollowedBy id := by
  cases hm : e.managed with
  | true =>
    obtain ⟨id, hstep, hid⟩ := h.of_managed hm
    exact ⟨.step id, hid, hm, hstep⟩
  | false =>
    obtain ⟨id, htask, hid⟩ := h.of_unmanaged hm
    exact ⟨.task id, hid, hm, htask⟩

namespace Registry

variable {r : Registry}

def ownId (r : Registry) (name : String) : TrackingId :=
  ((r.get? name).bind (·.trackingId?)).getD default

theorem followedBy_ownId (h : r.Tracked) {n : String} {e : Entry} (hget : r.get? n = some e) :
    e.FollowedBy (r.ownId n) := by
  obtain ⟨id, hid, hown⟩ := (h n e hget).followedBy
  have heq : r.ownId n = id := by
    rw [ownId, hget, Option.bind_some, hid]
    rfl
  rw [heq]
  exact hown

theorem idsOf_eq_map (h : r.Tracked) (names : List String) (managed : Bool) :
    r.idsOf names managed = (names.filter (r.has managed)).map fun n => (n, r.ownId n) := by
  have hmap := map_idsOf h names managed id default
  simp only [id_eq, Option.map_id_fun, List.map_id'] at hmap
  exact hmap

theorem has_false_eq (r : Registry) (n : String) : r.has false n = (r.contains n && !r.has true n) := by
  unfold has
  rw [contains_eq_isSome]
  cases hget : r.get? n with
  | none => rfl
  | some e => cases hm : e.managed <;> simp [hm]

theorem has_true_eq (r : Registry) (n : String) : r.has true n = (r.contains n && r.has true n) := by
  unfold has
  rw [contains_eq_isSome]
  cases r.get? n <;> rfl

/-- **A managed and an unmanaged look-up together find each registered name that is requested**, as often as it is
requested, with its own identifier. -/
theorem idsOf_perm (h : r.Tracked) (names : List String) :
    (r.idsOf names true ++ r.idsOf names false).Perm ((names.filter r.contains).map fun n => (n, r.ownId n)) := by
  have hmanaged : names.filter (r.has true) = (names.filter r.contains).filter (r.has true) := by
    rw [List.filter_filter]
    exact List.filter_congr fun n _ => (r.has_true_eq n).trans (Bool.and_comm _ _)
  have hunmanaged : names.filter (r.has false) = (names.filter r.contains).filter fun n => !r.has true n := by
    rw [List.filter_filter]
    exact List.filter_congr fun n _ => (r.has_false_eq n).trans (Bool.and_comm _ _)
  rw [idsOf_eq_map h, idsOf_eq_map h, ← List.map_append, hmanaged, hunmanaged]
  exact (List.filter_append_perm (r.has true) (names.filter r.contains)).map _

end Registry

namespace SharedRegistry

/-- **The registry invariant.** After any uses of a registry: the reserved names are those of the reservations that
are held, no two of which hold one name; every entry has the identifier by which its step is followed, so that the two
look-ups together find each registered name that is requested, as often as it is requested, with its own identifier;
every use is answered as `Serves` says; and if no step was added under a reserved name, no name is both registered and
reserved. -/
theorem registry_invariant (us : List Use) :
    let d := run {} us
    d.registry.Held d.holds? ∧ d.Serves ∧
      (∃ own : String → TrackingId, (∀ n e, d.registry.get? n = some e → e.FollowedBy (own n)) ∧
        ∀ names, (d.registry.idsOf names true ++ d.registry.idsOf names false).Perm
          ((names.filter d.registry.contains).map fun n => (n, own n))) ∧
      (careful {} us = true → ∀ n, ¬ (d.registry.contains n = true ∧ d.registry.isReserved n = true)) := by
  intro d
  have hheld : d.registry.Held d.holds? :=
    run_induction (P := fun d => d.registry.Held d.holds?) (fun _ u h => held_use h u) held_new us
  have htracked : d.registry.Tracked :=
    run_induction (P := fun d => d.registry.Tracked) (fun _ u h => tracked_use h u) Registry.Arises.empty.tracked us
  refine ⟨hheld, d.serves, ⟨d.registry.ownId, fun n e => Registry.followedBy_ownId htracked,
    Registry.idsOf_perm htracked⟩, fun careful n => ?_⟩
  rintro ⟨hreg, hres⟩
  have hapart : d.Apart := apart_run (fun _ _ => rfl) careful
  rw [Registry.contains_eq_isSome, hapart n hres] at hreg
  cases hreg

/-- A name that is reserved twice, committed once and never added. -/
theorem registry_invariant_careful :
    let us : List Use := [.add "b" none (some (.issued 0)) false, .reserve "a", .reserve "a",
      .commit 0 (some "1") none true, .remove "b", .reserve "b", .commit 1 none none true]
    careful {} us = true ∧ (run {} us).registry.contains "a" = true ∧ (run {} us).registry.isReserved "a" = false := by
  intro us
  obtain ⟨-, -, -, hapart⟩ := registry_invariant us
  have hcareful : careful {} us = true := by decide
  have hreg : (run {} us).registry.contains "a" = true := by decide
  exact ⟨hcareful, hreg, Bool.eq_false_iff.2 fun hres => hapart hcareful "a" ⟨hreg, hres⟩⟩

-- A step that is added under a reserved name makes the name both.
example : let d := run {} [.reserve "a", .add "a" (some "1") none true]
    d.registry.contains "a" = true ∧ d.registry.isReserved "a" = true := by decide

end SharedRegistry

end JobLaunch
