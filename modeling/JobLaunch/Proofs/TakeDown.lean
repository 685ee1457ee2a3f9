import JobLaunch.Proofs.Generation

/-!
# Which entry a call takes out

A stop looks its step up, waits for a command and a poll, and then takes the name out, whatever is registered under it
by then.

* `Traffic.TakesDown` : a call looks a name up with one move, and reports with another one that it has taken it out;
* `Traffic.TakesDown.found`, `Traffic.TakesDown.removed`, `Traffic.takesDown_of_removed` : what such a call has found,
  and that it is the only way for a name to be taken out;
* `Traffic.TakenDownOnce`, `Traffic.Undisturbed`, `Traffic.taken_down_once_iff` : every entry is taken out once, by a
  call that has looked it up, exactly as long as nobody takes a name out between the look-up and the report of another
  call.
-/

namespace JobLaunch

/-! ## Stops -/

namespace Launcher

variable {μ : Type}

theorem removed_not_mem_launchFacts (step : Step) (p : RunProgress) (n : String) :
    Fact.removed n ∉ launchFacts step p := by
  rcases p with (err | id) | r <;> simp [launchFacts]

theorem removed_mem_stopFacts {name n : String} {p : StopProgress} :
    Fact.removed n ∈ stopFacts name p ↔ n = name ∧ ∃ last, p = .done (.ok last) := by
  rcases p with (err | last) | s <;> simp [stopFacts]

theorem removed_mem_takeDownFacts {m : Machine μ} {l : Launcher} {name : String} {e : Entry} {w : μ} {n : String} :
    Fact.removed n ∈ takeDownFacts m l name e w ↔ n = name ∧ ∃ last, (takeDown m l name e w).1 = .done (.ok last) := by
  simp [takeDownFacts, removed_mem_stopFacts]

theorem removed_mem_beginFacts {m : Machine μ} {l : Launcher} {name : String} {w : μ} {n : String} :
    Fact.removed n ∈ beginFacts m l (.stop name) w ↔
      n = name ∧ ∃ last, (beginStop m l name w).1 = .done (.ok last) := by
  unfold beginFacts beginStop
  dsimp only
  cases l.registry.get? name with
  | none => simp
  | some e =>
    dsimp only
    cases l.cancelCommand? e with
    | some command => simp
    | none => exact removed_mem_takeDownFacts

theorem removed_mem_resumeFacts {m : Machine μ} {l : Launcher} {s : Stop} {reply : Reply} {w : μ} {n : String} :
    Fact.removed n ∈ resumeFacts m l (.stop s) reply w ↔
      n = s.name ∧ ∃ last, (resumeStop m l s reply w).1 = .done (.ok last) := by
  obtain ⟨name, e, stage⟩ := s
  cases stage with
  | cancelling command =>
    cases reply with
    | answered answer => exact removed_mem_takeDownFacts
    | paused => simp [resumeFacts, resumeStop]
    | ended exit => simp [resumeFacts, resumeStop]
    | failed source => simp [resumeFacts, resumeStop]
  | polling p => simp [resumeFacts, removed_mem_stopFacts]

theorem result?_map_stop {p : StopProgress} {last : Snapshot} :
    (p.map Call.stop Answer.stopped).result? = some (.stopped (.ok last)) ↔ p = .done (.ok last) := by
  rcases p with r | s
  · simp [Progress.map, Progress.result?]
  · simp [Progress.map, Progress.result?]

end Launcher

namespace Traffic

open Launcher

variable {μ : Type} {m : Machine μ} {S : Traffic μ} {v : Move μ} {n : String}

theorem get?_move_of_removed (formed : S.Each Call.WellFormed) (h : .removed n ∈ S.facts m v) :
    (S.move m v).launcher.registry.get? n = none := by
  rw [get?_move]
  have heffect := effect m formed v
  generalize S.facts m v = fs, S.answer? m v = a at heffect h
  cases heffect with
  | quiet _ _ _ => cases h
  | registers _ name' e' new _ _ => simp at h
  | asks names => simp at h
  | hears i p answer waits => simp at h
  | removes _ name' xs _ _ _ =>
    obtain rfl : n = name' := by simpa using h
    rw [Fact.replay_append]
    exact if_pos rfl

section Run

variable {vs : List (Move μ)} {b e : Nat}

/-! ## Takedowns -/

/-- A call looks a name up with the first move, finds an entry, and reports with the second that it has taken it out:
somebody who forgets a step is given an entry, and a stop ends well, at once or after it has waited. -/
inductive TakesDown (m : Machine μ) (S : Traffic μ) (vs : List (Move μ)) (n : String) : Nat → Nat → Prop
  | forgets {b : Nat} {e : Entry} (begins : vs[b]? = some (.forget n))
    (reports : (forget m (S.before m vs b).launcher n (S.before m vs b).world).1 = some e) : TakesDown m S vs n b b
  | stopsAtOnce {b : Nat} {last : Snapshot} (begins : vs[b]? = some (.begin (.stop n)))
    (reports : (S.before m vs b).answer? m (.begin (.stop n)) = some (.stopped (.ok last))) : TakesDown m S vs n b b
  | stops {b e : Nat} {reply : Reply} {last : Snapshot} (begins : vs[b]? = some (.begin (.stop n))) (later : b < e)
    (ends : vs[e]? = some (.resume (S.before m vs b).calls.length reply))
    (reports : (S.before m vs e).answer? m (.resume (S.before m vs b).calls.length reply) =
      some (.stopped (.ok last))) : TakesDown m S vs n b e

theorem TakesDown.le (h : TakesDown m S vs n b e) : b ≤ e := by
  cases h with
  | forgets begins reports => exact Nat.le_refl _
  | stopsAtOnce begins reports => exact Nat.le_refl _
  | stops begins later ends reports => exact Nat.le_of_lt later

theorem forget_eq_some {l : Launcher} {w : μ} {entry : Entry} (h : (forget m l n w).1 = some entry) :
    l.registry.get? n = some entry := by
  unfold forget at h
  cases hget : l.registry.get? n with
  | none =>
    rw [hget] at h
    cases h
  | some e =>
    rw [hget] at h
    exact h

theorem answer?_beginStop {l : Launcher} {w : μ} {last : Snapshot} :
    (beginCall m l (.stop n) w).1.result? = some (.stopped (.ok last)) ↔ (beginStop m l n w).1 = .done (.ok last) :=
  result?_map_stop

theorem stop_of_reports (idle : S.calls = []) {reply : Reply} {last : Snapshot}
    (begins : vs[b]? = some (.begin (.stop n)))
    (reports : (S.before m vs e).answer? m (.resume (S.before m vs b).calls.length reply) =
      some (.stopped (.ok last))) :
    ∃ s, (S.before m vs e).call? (S.before m vs b).calls.length = some (.stop s) ∧ s.name = n ∧
      S.entryAt? m vs n b = some s.entry ∧
      (resumeStop m (S.before m vs e).launcher s reply (S.before m vs e).world).1 = .done (.ok last) := by
  cases hcall : (S.before m vs e).call? (S.before m vs b).calls.length with
  | none =>
    rw [answer?, turn_resume_none m hcall] at reports
    cases reports
  | some call =>
    rw [answer?, turn_resume m hcall] at reports
    obtain ⟨b', -, request, hbegin, hlength, hbegun⟩ := begun idle hcall
    obtain rfl := begin_unique hbegin begins hlength
    obtain rfl : request = .stop n := by
      rw [begins] at hbegin
      cases hbegin
      rfl
    cases call with
    | run r => exact absurd rfl (hbegun n)
    | poll p => exact absurd rfl (hbegun n)
    | stop s =>
      obtain ⟨hname, hentry⟩ := hbegun
      obtain rfl : n = s.name := by
        cases hname
        rfl
      exact ⟨s, rfl, rfl, hentry, result?_map_stop.1 reports⟩

theorem TakesDown.found (idle : S.calls = []) (h : TakesDown m S vs n b e) : (S.entryAt? m vs n b).isSome = true := by
  cases h with
  | forgets begins reports =>
    rw [entryAt?, forget_eq_some reports]
    rfl
  | stopsAtOnce begins reports =>
    replace reports := answer?_beginStop.1 reports
    unfold beginStop at reports
    rw [entryAt?]
    cases hget : (S.before m vs b).launcher.registry.get? n with
    | none =>
      rw [hget] at reports
      cases reports
    | some entry => rfl
  | stops begins later ends reports =>
    obtain ⟨s, -, -, hentry, -⟩ := stop_of_reports idle begins reports
    rw [hentry]
    rfl

theorem TakesDown.removed (idle : S.calls = []) (h : TakesDown m S vs n b e) : .removed n ∈ S.factsAt m vs e := by
  cases h with
  | forgets begins reports =>
    rw [factsAt_eq begins]
    have hcontains : (S.before m vs b).launcher.registry.contains n = true := by
      rw [Registry.contains_eq_isSome, forget_eq_some reports]
      rfl
    unfold facts
    dsimp only
    rw [if_pos hcontains]
    exact List.mem_cons_self
  | stopsAtOnce begins reports =>
    rw [factsAt_eq begins]
    exact removed_mem_beginFacts.2 ⟨rfl, _, answer?_beginStop.1 reports⟩
  | stops begins later ends reports =>
    obtain ⟨s, hcall, rfl, -, hdone⟩ := stop_of_reports idle begins reports
    rw [factsAt_eq ends, facts_resume m hcall]
    exact removed_mem_resumeFacts.2 ⟨rfl, _, hdone⟩

theorem takesDown_of_removed (idle : S.calls = []) (h : .removed n ∈ S.factsAt m vs e) :
    ∃ b, TakesDown m S vs n b e := by
  cases hv : vs[e]? with
  | none =>
    rw [factsAt, hv] at h
    cases h
  | some v =>
    rw [factsAt_eq hv] at h
    cases v with
    | begin request =>
      cases request with
      | run step => exact absurd h (removed_not_mem_launchFacts step _ n)
      | poll names =>
        replace h : Fact.removed n ∈ ((S.before m vs e).launcher.beginSightings names).map .observed := h
        simp at h
      | stop name =>
        obtain ⟨rfl, last, hdone⟩ := removed_mem_beginFacts.1 h
        exact ⟨e, .stopsAtOnce hv (answer?_beginStop.2 hdone)⟩
    | resume i reply =>
      cases hcall : (S.before m vs e).call? i with
      | none =>
        rw [facts_resume_none m hcall] at h
        cases h
      | some call =>
        rw [facts_resume m hcall] at h
        cases call with
        | run r => exact absurd h (removed_not_mem_launchFacts r.step _ n)
        | poll p =>
          replace h : Fact.removed n ∈ ((S.before m vs e).launcher.resumeSightings p reply).map .observed := h
          simp at h
        | stop s =>
          obtain ⟨rfl, last, hdone⟩ := removed_mem_resumeFacts.1 h
          obtain ⟨b, hb, request, hbegin, rfl, rfl, -⟩ := begun idle hcall
          have hreports : (S.before m vs e).answer? m (.resume (S.before m vs b).calls.length reply) =
              some (.stopped (.ok last)) := by
            rw [answer?, turn_resume m hcall]
            exact result?_map_stop.2 hdone
          exact ⟨b, .stops hbegin hb hv hreports⟩
    | forget name =>
      unfold facts at h
      dsimp only at h
      split at h
      · next hcontains =>
        obtain rfl : n = name := by simpa using h
        obtain ⟨entry, hget⟩ := Option.isSome_iff_exists.1 hcontains
        have hreports : (forget m (S.before m vs e).launcher n (S.before m vs e).world).1 = some entry := by
          unfold forget
          rw [show (S.before m vs e).launcher.registry.get? n = some entry from hget]
        exact ⟨e, .forgets hv hreports⟩
      · cases h
    | giveUp i => cases h
    | watch v => cases h
    | beginShutdown => cases h
    | finishShutdown => cases h
    | elsewhere world => cases h

theorem TakesDown.unique {b' : Nat} (h : TakesDown m S vs n b e) (h' : TakesDown m S vs n b' e) : b = b' := by
  cases h with
  | forgets begins reports =>
    cases h' with
    | forgets begins' reports' => rfl
    | stopsAtOnce begins' reports' => rfl
    | stops begins' later' ends' reports' => exact absurd (begins.symm.trans ends') nofun
  | stopsAtOnce begins reports =>
    cases h' with
    | forgets begins' reports' => rfl
    | stopsAtOnce begins' reports' => rfl
    | stops begins' later' ends' reports' => exact absurd (begins.symm.trans ends') nofun
  | stops begins later ends reports =>
    cases h' with
    | forgets begins' reports' => exact absurd (begins'.symm.trans ends) nofun
    | stopsAtOnce begins' reports' => exact absurd (begins'.symm.trans ends) nofun
    | stops begins' later' ends' reports' =>
      have hresume := Option.some.inj (ends.symm.trans ends')
      exact begin_unique begins begins' (Move.resume.inj hresume).1

/-- Every call that takes a name out takes out the entry that it has found, and no two of them have found the same. -/
structure TakenDownOnce (m : Machine μ) (S : Traffic μ) (vs : List (Move μ)) (n : String) : Prop where
  own : ∀ {b e}, TakesDown m S vs n b e →
    (S.entryAt? m vs n e).isSome = true ∧ S.generation m vs n e = S.generation m vs n b
  once : ∀ {b e b' e'}, TakesDown m S vs n b e → TakesDown m S vs n b' e' →
    S.generation m vs n b = S.generation m vs n b' → b = b' ∧ e = e'

/-- Between the look-up and the report of a call that takes a name out, nobody else takes it out. -/
def Undisturbed (m : Machine μ) (S : Traffic μ) (vs : List (Move μ)) (n : String) : Prop :=
  ∀ b e, TakesDown m S vs n b e → ∀ k, b ≤ k → k < e → .removed n ∉ S.factsAt m vs k

theorem undisturbed_of_takenDownOnce (idle : S.calls = []) (h : TakenDownOnce m S vs n) : Undisturbed m S vs n := by
  intro b e down k hb he removed
  obtain ⟨b', down'⟩ := takesDown_of_removed idle removed
  obtain ⟨-, hk⟩ := h.own down'
  obtain ⟨-, hend⟩ := h.own down
  have hsame : S.generation m vs n b = S.generation m vs n b' := by
    have hle := generation_le m S vs n hb
    have hle' := generation_le m S vs n (Nat.le_of_lt he)
    omega
  obtain ⟨-, rfl⟩ := h.once down down' hsame
  exact absurd he (Nat.lt_irrefl _)

theorem Undisturbed.not_lt (formed : S.Each Call.WellFormed) (idle : S.calls = []) (h : Undisturbed m S vs n)
    {b' e' : Nat} (down : TakesDown m S vs n b e) (down' : TakesDown m S vs n b' e')
    (same : S.generation m vs n b = S.generation m vs n b') : ¬ e < e' := by
  intro hlt
  have hremoved := down.removed idle
  rcases Nat.lt_or_ge e b' with hlater | hwaits
  · -- the entry that the second call has found was registered after the first call had reported
    have hfree : S.entryAt? m vs n (e + 1) = none := by
      cases hv : vs[e]? with
      | none =>
        rw [factsAt, hv] at hremoved
        cases hremoved
      | some v =>
        rw [factsAt_eq hv] at hremoved
        rw [entryAt?, before_succ hv]
        exact get?_move_of_removed (wellFormed_before formed vs e) hremoved
    have hnew := generation_lt hlater hfree (down'.found idle)
    have hle := generation_le m S vs n (Nat.le_succ_of_le down.le)
    omega
  · exact h b' e' down' e hwaits hlt hremoved

theorem takenDownOnce_iff (formed : S.Each Call.WellFormed) (exclusive : Exclusive S.launch? S.launcher.registry)
    (idle : S.calls = []) : TakenDownOnce m S vs n ↔ Undisturbed m S vs n := by
  refine ⟨undisturbed_of_takenDownOnce idle, fun h => ⟨fun {b e} down => ?_, fun {b e b' e'} down down' same => ?_⟩⟩
  · exact entryAt?_of_kept exclusive down.le (down.found idle) (h b e down)
  · obtain rfl : e = e' := Nat.le_antisymm (Nat.not_lt.1 (h.not_lt formed idle down' down same.symm))
      (Nat.not_lt.1 (h.not_lt formed idle down down' same))
    exact ⟨down.unique down', rfl⟩

end Run

/-- **When every entry is taken out once, by a call that has looked it up.** On a new launcher, with any calls side by
side, a registered entry stays as it was registered, but for its snapshot, until a stop ends well or somebody forgets
its name. That call has looked up that very entry, and is the only such call to report, exactly if no call that takes
the name out is disturbed by another one between its look-up and its report. -/
theorem taken_down_once_iff (m : Machine μ) (backend : Backend) (config : Config) (bus : Option (EventBus StepEvent))
    (w : μ) (vs : List (Move μ)) (n : String) :
    let S := quiet (.new backend config bus) w
    (∀ k, (S.entryAt? m vs n k).isSome = true →
      ((S.entryAt? m vs n (k + 1)).isSome = true ∧ S.generation m vs n (k + 1) = S.generation m vs n k) ∨
        ∃ b, TakesDown m S vs n b k) ∧
      (TakenDownOnce m S vs n ↔ Undisturbed m S vs n) := by
  intro S
  have formed : S.Each Call.WellFormed := each_quiet _ _ w
  have exclusive : Exclusive S.launch? S.launcher.registry := exclusive_quiet backend config bus w
  refine ⟨fun k hk => ?_, takenDownOnce_iff formed exclusive rfl⟩
  by_cases hremoved : .removed n ∈ S.factsAt m vs k
  · exact Or.inr (takesDown_of_removed rfl hremoved)
  · exact Or.inl ⟨isSome_entryAt?_succ hk hremoved, generation_succ_of_isSome exclusive hk⟩

/-- A new launcher on Grid Engine. -/
def fresh : Traffic Unit := quiet (.new (.scheduled (.grid {})) {} none) ()

/-- A launch of job `1`. -/
def launched : List (Move Unit) := [.begin (.run ⟨"a", "/", true, .gridBatch {} [], rfl⟩), .resume 0 (.ended ⟨0, [49, 10], []⟩)]

/-- A stop of job `1` waits, and its name is forgotten and launched again as job `2`. -/
def launchedAgain : List (Move Unit) :=
  launched ++ [.begin (.stop "a"), .forget "a", .begin (.run ⟨"a", "/", true, .gridBatch {} [], rfl⟩),
    .resume 2 (.ended ⟨0, [50, 10], []⟩), .resume 1 (.answered (.ok (.ok ""))), .resume 1 (.answered (.ok (.ok "")))]

/-- Two stops of job `1` side by side. -/
def stoppedTwice : List (Move Unit) :=
  launched ++ [.begin (.stop "a"), .begin (.stop "a"), .resume 1 (.answered (.ok (.ok ""))),
    .resume 1 (.answered (.ok (.ok ""))), .resume 2 (.answered (.ok (.ok "")))]

/-- The stop of job `1` takes out job `2`, of which nobody knows any more; and two stops of one job both end well. -/
theorem taken_down_once_fails :
    (TakesDown .obliging fresh launchedAgain "a" 2 7 ∧
      fresh.entryAt? .obliging launchedAgain "a" 2 = some ⟨some "1", none, true, none⟩ ∧
      fresh.entryAt? .obliging launchedAgain "a" 7 = some ⟨some "2", none, true, none⟩ ∧
      fresh.entryAt? .obliging launchedAgain "a" 8 = none ∧ ¬ TakenDownOnce .obliging fresh launchedAgain "a") ∧
    TakesDown .obliging fresh stoppedTwice "a" 2 5 ∧ TakesDown .obliging fresh stoppedTwice "a" 3 6 ∧
      ¬ TakenDownOnce .obliging fresh stoppedTwice "a" := by
  have hagain : TakesDown .obliging fresh launchedAgain "a" 2 7 := by
    have reports : (fresh.before .obliging launchedAgain 7).answer? .obliging (.resume 1 (.answered (.ok (.ok "")))) =
        some (.stopped (.ok { Snapshot.notFound with status := .cancelled })) := rfl
    exact .stops rfl (by decide) rfl reports
  have hfirst : TakesDown .obliging fresh stoppedTwice "a" 2 5 := by
    have reports : (fresh.before .obliging stoppedTwice 5).answer? .obliging (.resume 1 (.answered (.ok (.ok "")))) =
        some (.stopped (.ok { Snapshot.notFound with status := .cancelled })) := rfl
    exact .stops rfl (by decide) rfl reports
  have hsecond : TakesDown .obliging fresh stoppedTwice "a" 3 6 := by
    have reports : (fresh.before .obliging stoppedTwice 6).answer? .obliging (.resume 2 (.answered (.ok (.ok "")))) =
        some (.stopped (.ok { Snapshot.unknown with status := .cancelled })) := rfl
    exact .stops rfl (by decide) rfl reports
  refine ⟨⟨hagain, rfl, rfl, rfl, fun h => ?_⟩, hfirst, hsecond, fun h => ?_⟩
  · obtain ⟨-, hsame⟩ := h.own hagain
    exact absurd hsame (by decide)
  · obtain ⟨heq, -⟩ := h.once hfirst hsecond rfl
    exact absurd heq (by decide)

end Traffic

end JobLaunch
