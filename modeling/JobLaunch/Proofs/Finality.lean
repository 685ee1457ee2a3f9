import JobLaunch.Proofs.Effect

/-!
# Terminal reports are final

However the polls of a step overlap, its reports are a function of the new snapshots in the order of their recording.

* `Snapshot.verdict` : what is known after some looks; `Snapshot.verdict_concat` : after one more;
* `Entry.reported` : what is reported of an entry look by look;
* `Traffic.freshOn`, `Traffic.reportsOn` : the new snapshots of a name, and what polls report of it;
* `Traffic.reportsOn_eq`, `Traffic.get?_run_of_spared` : both through a run, until the name is taken out;
* `Traffic.reports_are_verdicts` : every report is a verdict, and so is the stored snapshot.
-/

namespace JobLaunch

/-! ## The closed form -/

namespace Snapshot

/-- Does it show that the step has ended? -/
def isTerminal (s : Snapshot) : Bool := s.status.isTerminal

/-- What is known of a step after some looks. While none of them is terminal it is the last one; then it is the first
terminal one, with the first output and the first error text that a terminal one carries. -/
def verdict (seen : List Snapshot) : Option Snapshot :=
  match seen.find? isTerminal with
  | none => seen.getLast?
  | some first => some { first with
      output := (seen.filter isTerminal).findSome? (·.output)
      error := (seen.filter isTerminal).findSome? (·.error) }

theorem verdict_of_running {seen : List Snapshot} (h : seen.find? isTerminal = none) :
    verdict seen = seen.getLast? := by
  unfold verdict
  rw [h]

theorem verdict_of_terminal {seen : List Snapshot} {first : Snapshot} (h : seen.find? isTerminal = some first) :
    verdict seen = some { first with
      output := (seen.filter isTerminal).findSome? (·.output)
      error := (seen.filter isTerminal).findSome? (·.error) } := by
  unfold verdict
  rw [h]

theorem supersede_of_running {last : Option Snapshot} (h : last.any isTerminal = false) (fresh : Snapshot) :
    supersede last fresh = fresh := by
  cases last with
  | none => rfl
  | some kept => exact supersede_of_not_terminal h fresh

theorem any_isTerminal_getLast? {seen : List Snapshot} (h : seen.find? isTerminal = none) :
    seen.getLast?.any isTerminal = false := by
  cases hlast : seen.getLast? with
  | none => rfl
  | some last => exact Bool.eq_false_iff.2 (List.find?_eq_none.1 h last (List.mem_of_getLast? hlast))

theorem supersede_of_terminal {kept : Snapshot} (h : kept.isTerminal = true) (fresh : Snapshot) :
    supersede (some kept) fresh =
      if fresh.isTerminal then
        { kept with output := kept.output.or fresh.output, error := kept.error.or fresh.error }
      else kept := if_pos h

theorem supersede_self (s : Snapshot) : supersede (some s) s = s := by
  by_cases h : s.isTerminal = true
  · rw [supersede_of_terminal h, if_pos h, Option.or_self, Option.or_self]
  · exact supersede_of_not_terminal (Bool.eq_false_iff.2 h) s

/-- **The verdict after one more look** is the new snapshot merged into the verdict before. -/
theorem verdict_concat (seen : List Snapshot) (fresh : Snapshot) :
    verdict (seen ++ [fresh]) = some (supersede (verdict seen) fresh) := by
  cases hfind : seen.find? isTerminal with
  | none =>
    rw [verdict_of_running hfind, supersede_of_running (any_isTerminal_getLast? hfind)]
    have hnone : seen.filter isTerminal = [] := List.filter_eq_nil_iff.2 (List.find?_eq_none.1 hfind)
    by_cases hf : fresh.isTerminal = true
    · have hfirst : (seen ++ [fresh]).find? isTerminal = some fresh := by
        rw [List.find?_append, hfind, Option.none_or, List.find?_cons_of_pos hf]
      rw [verdict_of_terminal hfirst, List.filter_append, hnone, List.nil_append, List.filter_cons_of_pos hf]
      cases fresh
      simp
    · have hrunning : (seen ++ [fresh]).find? isTerminal = none := by
        rw [List.find?_append, hfind, Option.none_or, List.find?_cons_of_neg hf, List.find?_nil]
      rw [verdict_of_running hrunning, List.getLast?_concat]
  | some first =>
    have hterminal : first.isTerminal = true := List.find?_some hfind
    have hfirst : (seen ++ [fresh]).find? isTerminal = some first := by
      rw [List.find?_append, hfind, Option.some_or]
    rw [verdict_of_terminal hfirst, verdict_of_terminal hfind, List.filter_append, supersede_of_terminal]
    · by_cases hf : fresh.isTerminal = true
      · rw [if_pos hf, List.filter_cons_of_pos hf, List.findSome?_append, List.findSome?_append]
        simp
      · rw [if_neg hf, List.filter_cons_of_neg hf, List.filter_nil, List.append_nil]
    · exact hterminal

end Snapshot

namespace Entry

def reported (e : Entry) : List Snapshot → List Snapshot
  | [] => []
  | fresh :: rest => Snapshot.supersede e.last fresh :: (e.see fresh).reported rest

theorem reported_append (e : Entry) (xs ys : List Snapshot) :
    e.reported (xs ++ ys) = e.reported xs ++ (xs.foldl see e).reported ys := by
  induction xs generalizing e with
  | nil => rfl
  | cons x xs ih => exact congrArg (_ :: ·) (ih (e.see x))

theorem length_reported (e : Entry) (fs : List Snapshot) : (e.reported fs).length = fs.length := by
  induction fs generalizing e with
  | nil => rfl
  | cons f fs ih => exact congrArg (· + 1) (ih (e.see f))

variable {e : Entry} {seen : List Snapshot}

theorem last_see (h : e.last = Snapshot.verdict seen) (fresh : Snapshot) :
    (e.see fresh).last = Snapshot.verdict (seen ++ [fresh]) := by
  rw [Snapshot.verdict_concat, ← h]
  rfl

theorem foldl_see (h : e.last = Snapshot.verdict seen) (fs : List Snapshot) :
    fs.foldl see e = { e with last := Snapshot.verdict (seen ++ fs) } := by
  induction fs generalizing e seen with
  | nil =>
    rw [List.append_nil, ← h]
    rfl
  | cons f fs ih =>
    rw [List.foldl_cons, ih (last_see h f), List.append_assoc]
    rfl

theorem getElem?_reported (h : e.last = Snapshot.verdict seen) {fs : List Snapshot} {k : Nat} (hk : k < fs.length) :
    (e.reported fs)[k]? = Snapshot.verdict (seen ++ fs.take (k + 1)) := by
  induction fs generalizing e seen k with
  | nil => cases hk
  | cons f fs ih =>
    cases k with
    | zero =>
      show some (Snapshot.supersede e.last f) = Snapshot.verdict (seen ++ [f])
      rw [Snapshot.verdict_concat, h]
    | succ k =>
      show ((e.see f).reported fs)[k]? = _
      rw [ih (last_see h f) (Nat.lt_of_succ_lt_succ hk), List.take_succ_cons, List.append_assoc]
      rfl

end Entry

/-! ## One name -/

namespace Fact

def freshOn? (n : String) : Fact → Option Snapshot
  | .observed s => if s.name = n then some s.fresh else none
  | .registered _ _ | .removed _ => none

/-- The name is neither registered nor taken out. -/
def Spares (n : String) : Fact → Prop
  | .observed _ => True
  | .registered name _ | .removed name => name ≠ n

theorem replay_of_spared {n : String} {fs : List Fact} (spared : ∀ f ∈ fs, f.Spares n) (e : Entry) :
    replay n (some e) fs = some ((fs.filterMap (freshOn? n)).foldl Entry.see e) := by
  induction fs generalizing e with
  | nil => rfl
  | cons f fs ih =>
    have hfs : ∀ g ∈ fs, g.Spares n := fun g hg => spared g (List.mem_cons_of_mem f hg)
    show replay n (after n (some e) f) fs = _
    cases f with
    | registered name entry =>
      have hname : name ≠ n := spared _ List.mem_cons_self
      simp only [after, if_neg hname]
      exact ih hfs e
    | removed name =>
      have hname : name ≠ n := spared _ List.mem_cons_self
      simp only [after, if_neg hname]
      exact ih hfs e
    | observed s =>
      by_cases hname : s.name = n
      · simp only [after, if_pos hname, Option.map_some, List.filterMap_cons, freshOn?, List.foldl_cons]
        exact ih hfs (e.see s.fresh)
      · simp only [after, if_neg hname, List.filterMap_cons, freshOn?]
        exact ih hfs e

end Fact

/-- What an answer reports of a name. -/
def Answer.reportsOn (n : String) : Answer → List Snapshot
  | .polled reports => (reports.filter (·.1 = n)).map (·.2)
  | .launched _ | .stopped _ => []

theorem Launcher.reportsOn_record {l : Launcher} {n : String} {e : Entry} (hget : l.registry.get? n = some e)
    (xs : List Sighting) : (Answer.polled (l.record xs).1).reportsOn n =
      e.reported ((xs.map Fact.observed).filterMap (Fact.freshOn? n)) := by
  show (((l.registry.observeAll (xs.map (·.report))).1.filter (·.1 = n)).map (·.2)) = _
  generalize l.registry = r at hget
  induction xs generalizing r e with
  | nil => rfl
  | cons x xs ih =>
    have hnext := Registry.get?_observe r x.name n x.fresh
    show ((((x.name, (r.observe x.name x.fresh).1) ::
      ((r.observe x.name x.fresh).2.observeAll (xs.map (·.report))).1).filter (·.1 = n)).map (·.2)) = _
    by_cases hname : x.name = n
    · rw [if_pos hname.symm, hget] at hnext
      rw [List.filter_cons_of_pos (by simpa using hname), List.map_cons, ih _ hnext, Registry.fst_observe, hname, hget]
      simp [Fact.freshOn?, hname, Entry.reported]
    · rw [if_neg (Ne.symm hname), hget] at hnext
      rw [List.filter_cons_of_neg (by simpa using hname), ih _ hnext]
      simp [Fact.freshOn?, hname]

namespace Traffic

variable {μ : Type} {m : Machine μ} {S : Traffic μ} {n : String} {e : Entry}

/-- The new snapshots of a name that moves record, in order. -/
def freshOn (m : Machine μ) (S : Traffic μ) (n : String) (vs : List (Move μ)) : List Snapshot :=
  (S.log m vs).filterMap (Fact.freshOn? n)

/-- What the polls that come to their ends with moves report of a name, in order. -/
def reportsOn (m : Machine μ) (S : Traffic μ) (n : String) (vs : List (Move μ)) : List Snapshot :=
  (S.answers m vs).flatMap (Answer.reportsOn n)

theorem Silent.reportsOn {a : Option Answer} (h : Silent a) (n : String) :
    a.toList.flatMap (Answer.reportsOn n) = [] := by
  rcases a with - | (result | reports | result)
  · rfl
  · rfl
  · exact absurd rfl (h reports)
  · rfl

theorem filterMap_freshOn?_of_ne {name : String} {xs : List Sighting} (own : ∀ x ∈ xs, x.name = name)
    (hne : name ≠ n) : (xs.map Fact.observed).filterMap (Fact.freshOn? n) = [] := by
  rw [List.filterMap_map, List.filterMap_eq_nil_iff]
  intro x hx
  exact if_neg (own x hx ▸ hne)

theorem reportsOn_move (formed : S.Each Call.WellFormed) (hget : S.launcher.registry.get? n = some e) (v : Move μ)
    (spared : ∀ f ∈ S.facts m v, f.Spares n) : (S.answer? m v).toList.flatMap (Answer.reportsOn n) =
      e.reported ((S.facts m v).filterMap (Fact.freshOn? n)) := by
  have heffect := effect m formed v
  generalize S.facts m v = fs, S.answer? m v = a at heffect spared
  cases heffect with
  | quiet _ _ silent => exact silent.reportsOn n
  | registers _ _ _ _ _ silent => exact silent.reportsOn n
  | asks names => exact (List.append_nil _).trans (Launcher.reportsOn_record hget _)
  | hears i p answer waits => exact (List.append_nil _).trans (Launcher.reportsOn_record hget _)
  | removes _ name xs own _ silent =>
    have hne : name ≠ n := spared (.removed name) (List.mem_append_right _ List.mem_cons_self)
    rw [silent.reportsOn, List.filterMap_append, filterMap_freshOn?_of_ne own hne]
    rfl

theorem get?_run_of_spared (hget : S.launcher.registry.get? n = some e) (vs : List (Move μ))
    (spared : ∀ f ∈ S.log m vs, f.Spares n) :
    (S.run m vs).launcher.registry.get? n = some ((S.freshOn m n vs).foldl Entry.see e) := by
  rw [get?_run, hget, Fact.replay_of_spared spared]
  rfl

theorem reportsOn_eq (formed : S.Each Call.WellFormed) (hget : S.launcher.registry.get? n = some e)
    (vs : List (Move μ)) (spared : ∀ f ∈ S.log m vs, f.Spares n) :
    S.reportsOn m n vs = e.reported (S.freshOn m n vs) := by
  -- a move changes the entry, so the entry is general; the calls under way stay well-formed
  induction vs generalizing S e with
  | nil => rfl
  | cons v vs ih =>
    have hfacts : ∀ f ∈ S.facts m v, f.Spares n := fun f hf => spared f (List.mem_append_left _ hf)
    have hlog : ∀ f ∈ (S.move m v).log m vs, f.Spares n := fun f hf => spared f (List.mem_append_right _ hf)
    have hnext : (S.move m v).launcher.registry.get? n =
        some (((S.facts m v).filterMap (Fact.freshOn? n)).foldl Entry.see e) := by
      rw [get?_move, hget, Fact.replay_of_spared hfacts]
    unfold reportsOn freshOn log answers
    rw [List.flatMap_append, List.filterMap_append, Entry.reported_append, reportsOn_move formed hget v hfacts]
    exact congrArg (_ ++ ·) (ih (wellFormed_move m formed v) hnext hlog)

/-- **From its registration until it is taken out, every report of a step is the verdict on the new snapshots up to
it, and its entry holds the verdict on all of them.** Polls may overlap and end in any order. -/
theorem reports_are_verdicts (reachable : S.Reachable m) (hget : S.launcher.registry.get? n = some e)
    (new : e.last = none) (vs : List (Move μ)) (spared : ∀ f ∈ S.log m vs, f.Spares n) :
    (S.reportsOn m n vs).length = (S.freshOn m n vs).length ∧
      (∀ k < (S.freshOn m n vs).length,
        (S.reportsOn m n vs)[k]? = Snapshot.verdict ((S.freshOn m n vs).take (k + 1))) ∧
      (S.run m vs).launcher.registry.get? n = some { e with last := Snapshot.verdict (S.freshOn m n vs) } := by
  have hseen : e.last = Snapshot.verdict [] := new
  rw [reportsOn_eq reachable.wellFormed hget vs spared, get?_run_of_spared hget vs spared, Entry.foldl_see hseen]
  refine ⟨Entry.length_reported e _, fun k hk => ?_, rfl⟩
  exact Entry.getElem?_reported hseen hk

/-- Two polls of one job overlap; the second is answered first, and the first is not answered. -/
theorem reports_are_verdicts_overlapping : ∃ (S : Traffic Unit) (vs : List (Move Unit)),
    S.Reachable .obliging ∧ S.freshOn .obliging "a" vs = [.notFound, .unknown] ∧
      (S.reportsOn .obliging "a" vs)[1]? = some .notFound := by
  refine ⟨(quiet (.new (.scheduled (.grid {})) {} none) ()).run .obliging
      [.begin (.run ⟨"a", "/", true, .gridBatch {} [], rfl⟩), .resume 0 (.ended ⟨0, [49, 10], []⟩)],
    [.begin (.poll ["a"]), .begin (.poll ["a"]), .resume 2 (.answered (.ok (.ok ""))),
      .resume 1 (.answered (.error "lost"))], ⟨_, _, _, rfl⟩, rfl, ?_⟩
  refine (reports_are_verdicts (e := ⟨some "1", none, true, none⟩) ⟨_, _, _, rfl⟩ rfl rfl _ ?_).2.1 1 (by decide)
  show ∀ f ∈ [Fact.observed ⟨"a", some (.step "1"), .notFound⟩, .observed ⟨"a", some (.step "1"), .unknown⟩],
    f.Spares "a"
  simp [Fact.Spares]

end Traffic

end JobLaunch
