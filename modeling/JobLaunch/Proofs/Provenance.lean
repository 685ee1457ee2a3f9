import JobLaunch.Proofs.Finality
import Mathlib.Data.List.Induction

/-!
# For which job a stored snapshot was taken

A poll asks about job ids, waits, and records the answer by name. If the name has been registered anew meanwhile, the
answer is recorded for other work than it tells of.

* `Lineage` : an entry as it was registered, and the looks recorded since; `Lineage.basis` : those that are stored;
* `Fact.lineage` : the lineage of a name from a log; `Traffic.get?_run_eq_lineage` : it gives the registered entry;
* `Traffic.Mistakes` : an answer is recorded for other work;
* `Traffic.stored_own_iff` : whatever is stored was taken for its own entry, exactly as long as there is no mistake.
-/

namespace JobLaunch

/-! ## Lineages -/

/-- Does the look show that the step has ended? -/
def Sighting.isTerminal (s : Sighting) : Bool := s.fresh.isTerminal

def Sighting.carriesText (s : Sighting) : Bool := s.fresh.output.isSome || s.fresh.error.isSome

/-- May the look add a text to a snapshot that is stored already? -/
def Sighting.addsText (s : Sighting) : Bool := s.isTerminal && s.carriesText

/-- An entry as it was registered, and the looks recorded since. -/
structure Lineage where
  registered : Entry
  seen : List Sighting := []

namespace Lineage

/-- The entry by now. -/
def entry (t : Lineage) : Entry := { t.registered with last := Snapshot.verdict (t.seen.map (·.fresh)) }

/-- Has a look shown that the step has ended? -/
def isOver (t : Lineage) : Bool := t.seen.any Sighting.isTerminal

/-- The looks that the stored snapshot is made of: the first terminal one, or else the last one; and those that may add
a text. -/
def basis (t : Lineage) : List Sighting :=
  ((t.seen.find? Sighting.isTerminal).or t.seen.getLast?).toList ++ t.seen.filter Sighting.addsText

/-- All that is stored was taken for the work of the entry. -/
def Own (t : Lineage) : Prop := ∀ s ∈ t.basis, s.source = t.registered.trackingId?

/-- The lineage after one more look. -/
def note (t : Lineage) (s : Sighting) : Lineage := { t with seen := t.seen ++ [s] }

theorem entry_note (t : Lineage) (s : Sighting) : (t.note s).entry = t.entry.see s.fresh := by
  unfold entry note Entry.see
  rw [List.map_append, List.map_singleton, Snapshot.verdict_concat]

theorem isOver_note (t : Lineage) (s : Sighting) : (t.note s).isOver = (t.isOver || s.isTerminal) := by
  simp [isOver, note]

theorem any_isTerminal_verdict (seen : List Snapshot) :
    (Snapshot.verdict seen).any Snapshot.isTerminal = seen.any Snapshot.isTerminal := by
  cases hfind : seen.find? Snapshot.isTerminal with
  | none =>
    have hnone := List.find?_eq_none.1 hfind
    have hany : seen.any Snapshot.isTerminal = false := List.any_eq_false.2 hnone
    rw [Snapshot.verdict_of_running hfind, hany]
    cases hlast : seen.getLast? with
    | none => rfl
    | some last => exact Bool.eq_false_iff.2 (hnone last (List.mem_of_getLast? hlast))
  | some first =>
    have hterminal : first.isTerminal = true := List.find?_some hfind
    rw [Snapshot.verdict_of_terminal hfind, List.any_eq_true.2 ⟨first, List.mem_of_find?_eq_some hfind, hterminal⟩]
    exact hterminal

theorem any_isTerminal_last (t : Lineage) : t.entry.last.any Snapshot.isTerminal = t.isOver := by
  show (Snapshot.verdict (t.seen.map (·.fresh))).any Snapshot.isTerminal = _
  rw [any_isTerminal_verdict, List.any_map]
  rfl

theorem own_new (e : Entry) : Own { registered := e } := by
  intro s hs
  exact absurd hs List.not_mem_nil

theorem basis_note_of_running {t : Lineage} (running : t.isOver = false) (s : Sighting) :
    (t.note s).basis = s :: [s].filter Sighting.addsText := by
  have hnone := List.any_eq_false.1 running
  have hfind : t.seen.find? Sighting.isTerminal = none := List.find?_eq_none.2 hnone
  have hfilter : t.seen.filter Sighting.addsText = [] := by
    refine List.filter_eq_nil_iff.2 fun x hx => ?_
    unfold Sighting.addsText
    rw [Bool.eq_false_iff.2 (hnone x hx)]
    exact Bool.false_ne_true
  have hdecisive : ([s].find? Sighting.isTerminal).or (some s) = some s := by
    by_cases hs : s.isTerminal = true
    · rw [List.find?_cons_of_pos hs, Option.some_or]
    · rw [List.find?_cons_of_neg hs, List.find?_nil, Option.none_or]
  unfold basis note
  dsimp only
  rw [List.find?_append, hfind, Option.none_or, List.getLast?_concat, hdecisive, List.filter_append, hfilter]
  rfl

theorem basis_note_of_isOver {t : Lineage} (ended : t.isOver = true) (s : Sighting) :
    (t.note s).basis = t.basis ++ [s].filter Sighting.addsText := by
  obtain ⟨x, hx, hterminal⟩ := List.any_eq_true.1 ended
  obtain ⟨first, hfirst⟩ : ∃ first, t.seen.find? Sighting.isTerminal = some first := by
    rw [← Option.isSome_iff_exists, List.find?_isSome]
    exact ⟨x, hx, hterminal⟩
  unfold basis note
  dsimp only
  rw [List.find?_append, hfirst, Option.some_or, Option.some_or, Option.some_or, List.filter_append, List.append_assoc]

theorem verdict_basis_note {t : Lineage} (s : Sighting)
    (ih : Snapshot.verdict (t.basis.map (·.fresh)) = t.entry.last) :
    Snapshot.verdict ((t.note s).basis.map (·.fresh)) = (t.note s).entry.last := by
  have hlast : (t.note s).entry.last = some (Snapshot.supersede t.entry.last s.fresh) := by
    rw [entry_note]
    rfl
  have hsingle : Snapshot.verdict [s.fresh] = some s.fresh := Snapshot.verdict_concat [] s.fresh
  rw [hlast]
  cases hover : t.isOver with
  | false =>
    rw [← any_isTerminal_last] at hover
    rw [basis_note_of_running (any_isTerminal_last t ▸ hover), Snapshot.supersede_of_running hover]
    by_cases hs : s.addsText = true
    · rw [List.filter_cons_of_pos hs]
      show Snapshot.verdict ([s.fresh] ++ [s.fresh]) = _
      rw [Snapshot.verdict_concat, hsingle, Snapshot.supersede_self]
    · rw [List.filter_cons_of_neg hs]
      exact hsingle
  | true =>
    rw [basis_note_of_isOver hover, List.map_append]
    by_cases hs : s.addsText = true
    · rw [List.filter_cons_of_pos hs]
      show Snapshot.verdict (_ ++ [s.fresh]) = _
      rw [Snapshot.verdict_concat, ih]
    · rw [List.filter_cons_of_neg hs, List.filter_nil, List.map_nil, List.append_nil, ih]
      rw [← any_isTerminal_last] at hover
      obtain ⟨kept, hkept, hterminal⟩ := (Option.any_eq_true _ _).1 hover
      rw [hkept, Snapshot.supersede_of_terminal hterminal]
      split
      · next hfresh =>
        have hbare : s.carriesText = false := by
          rw [Sighting.addsText, show s.isTerminal = true from hfresh, Bool.true_and] at hs
          exact Bool.eq_false_iff.2 hs
        simp only [Sighting.carriesText, Bool.or_eq_false_iff, Option.isSome_eq_false_iff, Option.isNone_iff_eq_none]
          at hbare
        rw [hbare.1, hbare.2, Option.or_none, Option.or_none]
      · rfl

theorem verdict_basis (t : Lineage) : Snapshot.verdict (t.basis.map (·.fresh)) = t.entry.last := by
  obtain ⟨e, seen⟩ := t
  induction seen using List.reverseRecOn with
  | nil => rfl
  | append_singleton seen s ih => exact verdict_basis_note s ih

theorem own_note {t : Lineage} {s : Sighting} (own : t.Own) (source : s.source = t.registered.trackingId?) :
    (t.note s).Own := by
  intro x hx
  cases hover : t.isOver with
  | true =>
    rw [basis_note_of_isOver hover] at hx
    rcases List.mem_append.1 hx with hx | hx
    · exact own x hx
    · rw [List.mem_singleton.1 (List.mem_filter.1 hx).1]
      exact source
  | false =>
    rw [basis_note_of_running hover] at hx
    rcases List.mem_cons.1 hx with rfl | hx
    · exact source
    · rw [List.mem_singleton.1 (List.mem_filter.1 hx).1]
      exact source

theorem own_note_of_isOver {t : Lineage} {s : Sighting} (own : t.Own) (ended : t.isOver = true)
    (bare : s.carriesText = false) : (t.note s).Own := by
  intro x hx
  have hnone : [s].filter Sighting.addsText = [] := by simp [Sighting.addsText, bare]
  rw [basis_note_of_isOver ended, hnone, List.append_nil] at hx
  exact own x hx

theorem source_of_own_note {t : Lineage} {s : Sighting} (own : (t.note s).Own) (running : t.isOver = false) :
    s.source = t.registered.trackingId? := by
  refine own s ?_
  rw [basis_note_of_running running]
  exact List.mem_cons_self

end Lineage

/-! ## Lineages from a log -/

namespace Fact

def trace (n : String) (t? : Option Lineage) : Fact → Option Lineage
  | .registered name e => if name = n then some { registered := e } else t?
  | .observed s => if s.name = n then t?.map (·.note s) else t?
  | .removed name => if name = n then none else t?

/-- The lineage of a name from a log. -/
def lineage (n : String) (fs : List Fact) : Option Lineage := fs.foldl (trace n) none

theorem after_eq_trace {n : String} {t? : Option Lineage} {f : Fact}
    (new : ∀ name e, f = registered name e → e.last = none) :
    after n (t?.map Lineage.entry) f = (trace n t? f).map Lineage.entry := by
  cases f with
  | registered name e =>
    have hentry : Lineage.entry { registered := e } = e := by
      have hlast := new name e rfl
      cases e
      cases hlast
      rfl
    by_cases hname : name = n
    · simp only [after, trace, if_pos hname, Option.map_some, hentry]
    · simp only [after, trace, if_neg hname]
  | observed s =>
    by_cases hname : s.name = n
    · simp only [after, trace, if_pos hname, Option.map_map, Function.comp_def, Lineage.entry_note]
    · simp only [after, trace, if_neg hname]
  | removed name =>
    by_cases hname : name = n
    · simp only [after, trace, if_pos hname, Option.map_none]
    · simp only [after, trace, if_neg hname]

theorem replay_eq_lineage {n : String} {t? : Option Lineage} {fs : List Fact}
    (new : ∀ name e, registered name e ∈ fs → e.last = none) :
    replay n (t?.map Lineage.entry) fs = (fs.foldl (trace n) t?).map Lineage.entry := by
  induction fs generalizing t? with
  | nil => rfl
  | cons f fs ih =>
    have hstep : after n (t?.map Lineage.entry) f = (trace n t? f).map Lineage.entry :=
      after_eq_trace fun name e hf => new name e (hf ▸ List.mem_cons_self)
    show replay n (after n (t?.map Lineage.entry) f) fs = _
    rw [hstep]
    exact ih fun name e h => new name e (List.mem_cons_of_mem f h)

/-- At no moment during facts is anything stored under a name that was taken for other work. -/
def AlwaysOwn (n : String) (t? : Option Lineage) (fs : List Fact) : Prop :=
  ∀ gs, gs <+: fs → ∀ t, gs.foldl (trace n) t? = some t → t.Own

variable {n : String} {t? : Option Lineage}

theorem alwaysOwn_nil : AlwaysOwn n t? [] ↔ ∀ t, t? = some t → t.Own := by
  constructor
  · exact fun h => h [] List.prefix_rfl
  · intro h gs hgs
    rw [List.prefix_nil.1 hgs]
    exact h

theorem alwaysOwn_cons {f : Fact} {fs : List Fact} :
    AlwaysOwn n t? (f :: fs) ↔ (∀ t, t? = some t → t.Own) ∧ AlwaysOwn n (trace n t? f) fs := by
  constructor
  · intro h
    refine ⟨h [] List.nil_prefix, fun gs hgs t ht => ?_⟩
    exact h (f :: gs) (List.cons_prefix_cons.2 ⟨rfl, hgs⟩) t ht
  · rintro ⟨hnow, hthen⟩ gs hgs t ht
    rcases List.prefix_cons_iff.1 hgs with rfl | ⟨gs', rfl, hgs'⟩
    · exact hnow t ht
    · exact hthen gs' hgs' t ht

theorem alwaysOwn_append {xs ys : List Fact} :
    AlwaysOwn n t? (xs ++ ys) ↔ AlwaysOwn n t? xs ∧ AlwaysOwn n (xs.foldl (trace n) t?) ys := by
  induction xs generalizing t? with
  | nil => exact ⟨fun h => ⟨alwaysOwn_nil.2 (h [] List.nil_prefix), h⟩, And.right⟩
  | cons x xs ih =>
    rw [List.cons_append, alwaysOwn_cons, alwaysOwn_cons, ih, and_assoc]
    rfl

/-- Looks that were taken for the registered work, or that come too late with nothing to add, can be recorded. -/
theorem alwaysOwn_observed {xs : List Sighting} (own : ∀ t, t? = some t → t.Own)
    (h : ∀ x ∈ xs, x.name = n → ∀ t, t? = some t →
      x.source = t.registered.trackingId? ∨ t.isOver = true ∧ x.carriesText = false) :
    AlwaysOwn n t? (xs.map .observed) := by
  induction xs generalizing t? with
  | nil => exact alwaysOwn_nil.2 own
  | cons x xs ih =>
    refine alwaysOwn_cons.2 ⟨own, ?_⟩
    have hx := h x List.mem_cons_self
    have hxs : ∀ y ∈ xs, _ := fun y hy => h y (List.mem_cons_of_mem x hy)
    by_cases hname : x.name = n
    · have htrace : trace n t? (.observed x) = t?.map (·.note x) := if_pos hname
      rw [htrace]
      refine ih (fun t ht => ?_) fun y hy hyname t ht => ?_
      · obtain ⟨t₀, ht₀, rfl⟩ := Option.map_eq_some_iff.1 ht
        rcases hx hname t₀ ht₀ with source | ⟨ended, bare⟩
        · exact Lineage.own_note (own t₀ ht₀) source
        · exact Lineage.own_note_of_isOver (own t₀ ht₀) ended bare
      · obtain ⟨t₀, ht₀, rfl⟩ := Option.map_eq_some_iff.1 ht
        refine (hxs y hy hyname t₀ ht₀).imp id fun ⟨ended, bare⟩ => ⟨?_, bare⟩
        rw [Lineage.isOver_note, ended, Bool.true_or]
    · have htrace : trace n t? (.observed x) = t? := if_neg hname
      rw [htrace]
      exact ih own hxs

theorem not_alwaysOwn_observed {t : Lineage} {xs : List Sighting} (running : t.isOver = false)
    (other : ∀ x ∈ xs, x.name = n → x.source ≠ t.registered.trackingId?) {x : Sighting} (hx : x ∈ xs)
    (hname : x.name = n) : ¬ AlwaysOwn n (some t) (xs.map .observed) := by
  induction xs with
  | nil => cases hx
  | cons y xs ih =>
    intro h
    obtain ⟨-, hthen⟩ := alwaysOwn_cons.1 h
    by_cases hy : y.name = n
    · have htrace : trace n (some t) (.observed y) = some (t.note y) := if_pos hy
      rw [htrace] at hthen
      have hown : (t.note y).Own := hthen [] List.nil_prefix _ rfl
      exact other y List.mem_cons_self hy (Lineage.source_of_own_note hown running)
    · have htrace : trace n (some t) (.observed y) = some t := if_neg hy
      rw [htrace] at hthen
      rcases List.mem_cons.1 hx with rfl | hx
      · exact hy hname
      · exact ih (fun z hz => other z (List.mem_cons_of_mem y hz)) hx hthen

end Fact

/-! ## Where looks come from -/

def Sighting.Current (x : Sighting) (r : Registry) : Prop := ∀ e, r.get? x.name = some e → x.source = e.trackingId?

def Call.poll? : Call → Option Poll
  | .poll p => some p
  | .stop ⟨_, _, .polling p⟩ => some p
  | .run _ => none
  | .stop ⟨_, _, .cancelling _⟩ => none

theorem Call.WellFormed.consistent {call : Call} {p : Poll} (formed : call.WellFormed) (h : call.poll? = some p) :
    p.Consistent := by
  rcases call with r | p' | ⟨name, e, command | p'⟩
  · cases h
  · cases h
    exact formed
  · cases h
  · cases h
    exact formed.2

theorem PbsListing.snapshot_bare (output : CommandOutput) (id : String) :
    (snapshot output id).output = none ∧ (snapshot output id).error = none := by
  have hstate : ∀ state code, (snapshotOf state code).output = none ∧ (snapshotOf state code).error = none := by
    intro state code
    unfold snapshotOf
    dsimp only
    split <;> exact ⟨rfl, rfl⟩
  have hjob : ∀ job, (jobSnapshot job).output = none ∧ (jobSnapshot job).error = none := by
    intro job
    unfold jobSnapshot
    split
    · exact hstate _ _
    · exact ⟨rfl, rfl⟩
  unfold snapshot
  split
  · split <;> exact ⟨rfl, rfl⟩
  · split
    · exact ⟨rfl, rfl⟩
    · split
      · exact hjob _
      · exact ⟨rfl, rfl⟩

theorem GridListing.snapshot_bare (output : CommandOutput) (id : String) :
    (snapshot output id).output = none ∧ (snapshot output id).error = none := by
  unfold snapshot
  split
  · split <;> exact ⟨rfl, rfl⟩
  · exact ⟨rfl, rfl⟩

namespace Launcher

variable {μ : Type} {l : Launcher}

theorem jobSnapshot_bare (l : Launcher) (answer : Option (Except String CommandOutput)) (id : String) :
    (l.jobSnapshot answer id).output = none ∧ (l.jobSnapshot answer id).error = none := by
  unfold jobSnapshot
  split
  · next s output _ =>
    cases s with
    | pbs clients => exact PbsListing.snapshot_bare output id
    | grid clients => exact GridListing.snapshot_bare output id
  · exact ⟨rfl, rfl⟩

theorem mem_sightings {p : Poll} {answer : Option (Except String CommandOutput)} {x : Sighting}
    (hx : x ∈ l.sightings p answer) :
    (∃ q ∈ p.queried, x = ⟨q.1, some (.step q.2), l.jobSnapshot answer q.2⟩) ∨ x.Current l.registry := by
  rcases List.mem_append.1 hx with hx | hx
  · obtain ⟨q, hq, rfl⟩ := List.mem_map.1 hx
    exact Or.inl ⟨q, hq, rfl⟩
  · obtain ⟨q, hq, rfl⟩ := List.mem_map.1 hx
    obtain ⟨-, e, hget, -, hid⟩ := mem_idsOf hq
    right
    intro e' hget'
    rw [hget] at hget'
    obtain rfl := Option.some.inj hget'
    exact hid.symm

theorem current_of_mem_beginSightings {names : List String} {x : Sighting} (hx : x ∈ l.beginSightings names) :
    x.Current l.registry := by
  rcases mem_sightings (mem_beginSightings hx) with ⟨q, hq, rfl⟩ | hcurrent
  · obtain ⟨⟨name, id⟩, hid, rfl⟩ := List.mem_map.1 hq
    obtain ⟨-, e, hget, hmanaged, htracking⟩ := mem_idsOf hid
    intro e' hget'
    dsimp only at hget hget' htracking ⊢
    rw [hget] at hget'
    obtain rfl := Option.some.inj hget'
    have hstep : e.trackingId? = e.stepId.map .step := if_pos hmanaged
    rw [hstep] at htracking ⊢
    obtain ⟨job, hjob, rfl⟩ := Option.map_eq_some_iff.1 htracking
    rw [hjob]
    rfl
  · exact hcurrent

theorem current_of_mem_takeDownSightings {m : Machine μ} {name : String} {e : Entry} {w : μ} {x : Sighting}
    (known : e.managed = true ∨ l.registry.get? name = some e) (hx : x ∈ takeDownSightings m l name e w) :
    x.Current l.registry := by
  unfold takeDownSightings at hx
  dsimp only at hx
  split at hx
  · rw [← registry_dropTask m l e w]
    exact current_of_mem_beginSightings hx
  · next hmanaged =>
    rw [List.mem_singleton.1 hx]
    intro e' hget'
    dsimp only at hget' ⊢
    rw [known.resolve_left hmanaged] at hget'
    rw [Option.some.inj hget']

end Launcher

namespace Traffic

open Launcher

variable {μ : Type} {m : Machine μ} {S : Traffic μ} {n : String}

/-- The answer to a waiting poll tells of a job that the poll has asked for. -/
inductive Echo (S : Traffic μ) (x : Sighting) : Move μ → Prop
  | intro {i : Nat} {call : Call} {p : Poll} {q : String × String} {answer : Except String CommandOutput}
    (waits : S.call? i = some call) (asks : call.poll? = some p) (queried : q ∈ p.queried)
    (look : x = ⟨q.1, some (.step q.2), S.launcher.jobSnapshot (some answer) q.2⟩) :
    Echo S x (.resume i (.answered answer))

/-- The answer to a waiting poll is recorded for other work than the poll has asked for: since then, its name has been
registered anew, and the step is not known to have ended. -/
inductive Mistakes (S : Traffic μ) (n : String) : Move μ → Prop
  | intro {i : Nat} {call : Call} {p : Poll} {id : String} {e : Entry} {answer : Except String CommandOutput}
    (waits : S.call? i = some call) (asks : call.poll? = some p) (queried : (n, id) ∈ p.queried)
    (registered : S.launcher.registry.get? n = some e) (other : e.trackingId? ≠ some (.step id))
    (running : e.last.any Snapshot.isTerminal = false) : Mistakes S n (.resume i (.answered answer))

theorem mem_launchFacts {step : Step} {p : RunProgress} {x : Sighting} : Fact.observed x ∉ launchFacts step p := by
  rcases p with (e | id) | r <;> simp [launchFacts]

theorem mem_stopFacts {name : String} {p : StopProgress} {x : Sighting} : Fact.observed x ∉ stopFacts name p := by
  rcases p with (e | last) | s <;> simp [stopFacts]

theorem observed_mem_map {xs : List Sighting} {x : Sighting} (h : Fact.observed x ∈ xs.map .observed) : x ∈ xs := by
  obtain ⟨y, hy, heq⟩ := List.mem_map.1 h
  cases heq
  exact hy

theorem current_of_mem_takeDownFacts {l : Launcher} {name : String} {e : Entry} {w : μ} {x : Sighting}
    (known : e.managed = true ∨ l.registry.get? name = some e) (h : .observed x ∈ takeDownFacts m l name e w) :
    x.Current l.registry := by
  rcases List.mem_append.1 h with h | h
  · exact current_of_mem_takeDownSightings known (observed_mem_map h)
  · exact absurd h mem_stopFacts

theorem current_of_mem_beginFacts {l : Launcher} {request : Request} {w : μ} {x : Sighting}
    (h : .observed x ∈ beginFacts m l request w) : x.Current l.registry := by
  cases request with
  | run step => exact absurd h mem_launchFacts
  | poll names => exact current_of_mem_beginSightings (observed_mem_map h)
  | stop name =>
    unfold beginFacts at h
    dsimp only at h
    split at h
    · cases h
    · next e hget =>
      split at h
      · cases h
      · exact current_of_mem_takeDownFacts (Or.inr hget) h

theorem current_or_echo_resume (formed : S.Each Call.WellFormed) {i : Nat} {call : Call} (hi : S.call? i = some call)
    {reply : Reply} {x : Sighting} (h : .observed x ∈ resumeFacts m S.launcher call reply S.world) :
    x.Current S.launcher.registry ∨ Echo S x (.resume i reply) := by
  have hpoll : ∀ p, call.poll? = some p → x ∈ S.launcher.resumeSightings p reply →
      x.Current S.launcher.registry ∨ Echo S x (.resume i reply) := by
    intro p hp hx
    cases reply with
    | answered answer =>
      rcases mem_sightings hx with ⟨q, hq, hlook⟩ | hcurrent
      · exact Or.inr ⟨hi, hp, hq, hlook⟩
      · exact Or.inl hcurrent
    | paused => cases hx
    | ended exit => cases hx
    | failed source => cases hx
  rcases call with r | p | ⟨name, e, command | p⟩
  · exact absurd h mem_launchFacts
  · exact hpoll p rfl (observed_mem_map h)
  · cases reply with
    | answered answer =>
      left
      rw [← registry_noteCancel S.launcher name answer]
      exact current_of_mem_takeDownFacts (Or.inl (formed i _ hi)) h
    | paused => cases h
    | ended exit => cases h
    | failed source => cases h
  · rcases List.mem_append.1 h with h | h
    · exact hpoll p rfl (observed_mem_map h)
    · exact absurd h mem_stopFacts

/-- **Every recorded look was taken for what is registered, or it is an answer for which a poll has waited.** -/
theorem current_or_echo (formed : S.Each Call.WellFormed) {v : Move μ} {x : Sighting}
    (h : .observed x ∈ S.facts m v) : x.Current S.launcher.registry ∨ Echo S x v := by
  cases v with
  | begin request => exact Or.inl (current_of_mem_beginFacts h)
  | resume i reply =>
    cases hi : S.call? i with
    | none =>
      rw [facts_resume_none m hi] at h
      cases h
    | some call =>
      rw [facts_resume m hi] at h
      exact current_or_echo_resume formed hi h
  | forget name =>
    unfold facts at h
    dsimp only at h
    split at h <;> simp at h
  | giveUp i => cases h
  | watch v => cases h
  | beginShutdown => cases h
  | finishShutdown => cases h
  | elsewhere world => cases h

/-! ## Moves -/

theorem last_of_registered (formed : S.Each Call.WellFormed) {v : Move μ} {name : String} {e : Entry}
    (h : .registered name e ∈ S.facts m v) : e.last = none := by
  have heffect := effect m formed v
  generalize S.facts m v = fs, S.answer? m v = a at heffect h
  cases heffect with
  | quiet _ _ _ => cases h
  | registers _ name' e' new _ _ =>
    cases List.mem_singleton.1 h
    exact new
  | asks names => simp at h
  | hears i p answer waits => simp at h
  | removes _ name' xs _ _ _ => simp at h

theorem get?_move_eq_lineage (formed : S.Each Call.WellFormed) {t? : Option Lineage}
    (hget : S.launcher.registry.get? n = t?.map Lineage.entry) (v : Move μ) :
    (S.move m v).launcher.registry.get? n = ((S.facts m v).foldl (Fact.trace n) t?).map Lineage.entry := by
  rw [get?_move, hget]
  exact Fact.replay_eq_lineage fun name e h => last_of_registered formed h

theorem facts_of_poll? {i : Nat} {call : Call} {p : Poll} (hi : S.call? i = some call) (hp : call.poll? = some p)
    (answer : Except String CommandOutput) : ∃ fs, S.facts m (.resume i (.answered answer)) =
      (p.queried.map fun q => ⟨q.1, some (.step q.2), S.launcher.jobSnapshot (some answer) q.2⟩).map Fact.observed ++
        fs := by
  rw [facts_resume m hi]
  rcases call with r | p' | ⟨name, e, command | p'⟩
  · cases hp
  · cases hp
    exact ⟨_, List.map_append⟩
  · cases hp
  · cases hp
    exact ⟨_, (congrArg (· ++ _) List.map_append).trans (List.append_assoc _ _ _)⟩

variable {t? : Option Lineage}

theorem not_alwaysOwn_of_mistakes (m : Machine μ) (formed : S.Each Call.WellFormed)
    (hget : S.launcher.registry.get? n = t?.map Lineage.entry) {v : Move μ} (h : Mistakes S n v) :
    ¬ Fact.AlwaysOwn n t? (S.facts m v) := by
  obtain @⟨i, call, p, id, e, answer, waits, asks, queried, registered, other, running⟩ := h
  obtain ⟨t, rfl, rfl⟩ := Option.map_eq_some_iff.1 (hget.symm.trans registered)
  obtain ⟨fs, hfacts⟩ := facts_of_poll? (m := m) waits asks answer
  rw [Lineage.any_isTerminal_last] at running
  rw [hfacts, Fact.alwaysOwn_append]
  rintro ⟨hown, -⟩
  refine Fact.not_alwaysOwn_observed running (fun x hx hname => ?_) (List.mem_map_of_mem queried) rfl hown
  -- the poll has asked about the name under no other id
  obtain ⟨q, hq, rfl⟩ := List.mem_map.1 hx
  have hid : q.2 = id := (formed i call waits).consistent asks q hq (n, id) queried hname
  show some (TrackingId.step q.2) ≠ _
  rw [hid]
  exact other.symm

theorem source_of_not_mistakes (formed : S.Each Call.WellFormed) {t : Lineage}
    (hget : S.launcher.registry.get? n = some t.entry) {v : Move μ} (h : ¬ Mistakes S n v) {x : Sighting}
    (hx : .observed x ∈ S.facts m v) (hname : x.name = n) :
    x.source = t.registered.trackingId? ∨ t.isOver = true ∧ x.carriesText = false := by
  rcases current_or_echo formed hx with hcurrent | @⟨i, call, p, q, answer, waits, asks, queried, rfl⟩
  · exact Or.inl (hcurrent t.entry (by rw [hname, hget]))
  · by_cases hsource : some (TrackingId.step q.2) = t.registered.trackingId?
    · exact Or.inl hsource
    · right
      constructor
      · cases hover : t.isOver with
        | true => rfl
        | false =>
          subst hname
          rw [← Lineage.any_isTerminal_last] at hover
          exact absurd (.intro waits asks queried hget (Ne.symm hsource) hover) h
      · obtain ⟨hout, herr⟩ := jobSnapshot_bare S.launcher (some answer) q.2
        unfold Sighting.carriesText
        rw [hout, herr]
        rfl

theorem alwaysOwn_of_not_mistakes (m : Machine μ) (formed : S.Each Call.WellFormed)
    (hget : S.launcher.registry.get? n = t?.map Lineage.entry) (own : ∀ t, t? = some t → t.Own) {v : Move μ}
    (h : ¬ Mistakes S n v) : Fact.AlwaysOwn n t? (S.facts m v) := by
  have hsource : ∀ x, .observed x ∈ S.facts m v → x.name = n → ∀ t, t? = some t →
      x.source = t.registered.trackingId? ∨ t.isOver = true ∧ x.carriesText = false := by
    rintro x hx hname t rfl
    exact source_of_not_mistakes formed hget h hx hname
  have heffect := effect m formed v
  generalize S.facts m v = fs, S.answer? m v = a at heffect hsource
  cases heffect with
  | quiet _ _ _ => exact Fact.alwaysOwn_nil.2 own
  | registers _ name e _ _ _ =>
    refine Fact.alwaysOwn_cons.2 ⟨own, Fact.alwaysOwn_nil.2 fun t ht => ?_⟩
    unfold Fact.trace at ht
    dsimp only at ht
    split at ht
    · cases ht
      exact Lineage.own_new e
    · exact own t ht
  | asks names => exact Fact.alwaysOwn_observed own fun x hx => hsource x (List.mem_map_of_mem hx)
  | hears i p answer waits => exact Fact.alwaysOwn_observed own fun x hx => hsource x (List.mem_map_of_mem hx)
  | removes _ name xs _ _ _ =>
    -- what a stop records is stored until it takes the entry out
    have hxs : Fact.AlwaysOwn n t? (xs.map .observed) :=
      Fact.alwaysOwn_observed own fun x hx => hsource x (List.mem_append_left _ (List.mem_map_of_mem hx))
    have hthen : ∀ t, (xs.map Fact.observed).foldl (Fact.trace n) t? = some t → t.Own := hxs _ List.prefix_rfl
    refine Fact.alwaysOwn_append.2 ⟨hxs, Fact.alwaysOwn_cons.2 ⟨hthen, Fact.alwaysOwn_nil.2 fun t ht => ?_⟩⟩
    unfold Fact.trace at ht
    dsimp only at ht
    split at ht
    · cases ht
    · exact hthen t ht

/-! ## Runs -/

theorem get?_run_eq_lineage (formed : S.Each Call.WellFormed)
    (hget : S.launcher.registry.get? n = t?.map Lineage.entry) (vs : List (Move μ)) :
    (S.run m vs).launcher.registry.get? n = ((S.log m vs).foldl (Fact.trace n) t?).map Lineage.entry := by
  induction vs generalizing S t? with
  | nil => exact hget
  | cons v vs ih =>
    unfold log
    rw [List.foldl_append]
    exact ih (wellFormed_move m formed v) (get?_move_eq_lineage formed hget v)

theorem alwaysOwn_log_iff (formed : S.Each Call.WellFormed)
    (hget : S.launcher.registry.get? n = t?.map Lineage.entry) (own : ∀ t, t? = some t → t.Own)
    (vs : List (Move μ)) : Fact.AlwaysOwn n t? (S.log m vs) ↔
      ∀ us v ws, vs = us ++ v :: ws → ¬ Mistakes (S.run m us) n v := by
  induction vs generalizing S t? with
  | nil =>
    refine ⟨fun _ us v ws h => ?_, fun _ => Fact.alwaysOwn_nil.2 own⟩
    exact absurd h.symm (List.append_ne_nil_of_right_ne_nil us (List.cons_ne_nil v ws))
  | cons v vs ih =>
    have hformed := wellFormed_move m formed v
    have hnext := get?_move_eq_lineage (m := m) formed hget v
    unfold log
    rw [Fact.alwaysOwn_append]
    constructor
    · rintro ⟨hnow, hthen⟩ us u ws heq
      have hown : ∀ t, (S.facts m v).foldl (Fact.trace n) t? = some t → t.Own := hnow _ List.prefix_rfl
      cases us with
      | nil =>
        cases heq
        exact fun hmistakes => not_alwaysOwn_of_mistakes m formed hget hmistakes hnow
      | cons u' us =>
        cases heq
        exact (ih hformed hnext hown).1 hthen us u ws rfl
    · intro h
      have hnow := alwaysOwn_of_not_mistakes m formed hget own (h [] v vs rfl)
      refine ⟨hnow, (ih hformed hnext (hnow _ List.prefix_rfl)).2 fun us u ws heq => ?_⟩
      exact h (v :: us) u ws (congrArg (v :: ·) heq)

/-- **When a stored snapshot belongs to its entry.** On a new launcher, with any calls side by side, the entry of a name
is what its lineage makes of it; and whatever is stored there at any moment was taken for the job or the task of that
entry, exactly if the answer to a waiting poll is never recorded for other work than the poll has asked for. -/
theorem stored_own_iff (m : Machine μ) (backend : Backend) (config : Config) (bus : Option (EventBus StepEvent))
    (w : μ) (vs : List (Move μ)) (n : String) :
    let S := quiet (.new backend config bus) w
    (∀ us, us <+: vs → (S.run m us).launcher.registry.get? n = (Fact.lineage n (S.log m us)).map Lineage.entry) ∧
      ((∀ fs, fs <+: S.log m vs → ∀ t, Fact.lineage n fs = some t → t.Own) ↔
        ∀ us v ws, vs = us ++ v :: ws → ¬ Mistakes (S.run m us) n v) := by
  intro S
  have formed : S.Each Call.WellFormed := each_quiet _ _ w
  have hget : S.launcher.registry.get? n = (none : Option Lineage).map Lineage.entry := rfl
  have own : ∀ t, (none : Option Lineage) = some t → t.Own := fun t ht => absurd ht (Option.some_ne_none t).symm
  exact ⟨fun us _ => get?_run_eq_lineage formed hget us, alwaysOwn_log_iff formed hget own vs⟩

/-- A poll of job `1` waits; its name is forgotten and launched again as job `2`; and job `2` counts as completed, since
the scheduler does not list job `1`. -/
theorem stored_own_fails :
    let S := quiet (.new (.scheduled (.grid {})) {} none) ()
    let vs := [.begin (.run ⟨"a", "/", true, .gridBatch {} [], rfl⟩), .resume 0 (.ended ⟨0, [49, 10], []⟩), .begin (.poll ["a"]),
      .forget "a", .begin (.run ⟨"a", "/", true, .gridBatch {} [], rfl⟩), .resume 2 (.ended ⟨0, [50, 10], []⟩),
      .resume 1 (.answered (.ok (.ok "")))]
    (S.run .obliging vs).launcher.registry.get? "a" = some ⟨some "2", none, true, some .notFound⟩ ∧
      ∃ t, Fact.lineage "a" (S.log .obliging vs) = some t ∧ t.basis = [⟨"a", some (.step "1"), .notFound⟩] ∧
        ¬ t.Own := by
  refine ⟨rfl, ⟨⟨some "2", none, true, none⟩, [⟨"a", some (.step "1"), .notFound⟩]⟩, rfl, rfl, fun own => ?_⟩
  have hsource := own ⟨"a", some (.step "1"), .notFound⟩ (.head _)
  exact absurd hsource (by decide)

end Traffic

end JobLaunch
