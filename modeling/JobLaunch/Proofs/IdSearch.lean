import JobLaunch.Proofs.Launch
import JobLaunch.Proofs.Passage

/-!
# The search for a job id

A launch whose submission has printed no job id looks for it in listings, with a pause before each. Whatever happens
on the launcher meanwhile, it makes as many rounds as it needs, and no more than its configuration allows.

* `Round` : a pause and the listing after it; `Scheduler.seen?` : the id that the answer to a listing shows;
* `Launcher.ends_round` : one round of a search; `Launcher.ends_missed` : rounds that do not show the id;
* `Launcher.id_search_is_bounded` : the waits of every launch whose submission succeeds, and its answer.
-/

namespace JobLaunch

/-- The id under which the answer to a listing shows a job; a listing that cannot be made shows none. -/
def Scheduler.seen? (s : Scheduler) (name : String) : Except String CommandOutput → Option String
  | .ok output => s.idOf? output name
  | .error _ => none

/-- One round of a search. -/
structure Round (μ : Type) where
  /-- What happens during the pause. -/
  pausing : Meanwhile μ
  listing : Meanwhile μ
  /-- The answer to the listing. -/
  answer : Except String CommandOutput

/-- What a search is told in a round. -/
def Round.replies {μ : Type} (r : Round μ) : List (Meanwhile μ × Reply) :=
  [(r.pausing, .paused), (r.listing, .answered r.answer)]

namespace Launcher

def roundWaits (l : Launcher) (s : Scheduler) : List Wait :=
  [.pause l.config.idResolution.interval.toNat, .command s.listingCommand]

def searchWaits (l : Launcher) (s : Scheduler) (rounds : Nat) : List Wait :=
  (List.replicate rounds (l.roundWaits s)).flatten

theorem searchWaits_congr {l l' : Launcher} (h : l'.config = l.config) (s : Scheduler) (rounds : Nat) :
    l'.searchWaits s rounds = l.searchWaits s rounds := by
  unfold searchWaits roundWaits
  rw [h]

theorem searchWaits_succ (l : Launcher) (s : Scheduler) (rounds : Nat) :
    l.searchWaits s (rounds + 1) = l.roundWaits s ++ l.searchWaits s rounds := rfl

theorem searchWaits_one (l : Launcher) (s : Scheduler) : l.searchWaits s 1 = l.roundWaits s := List.append_nil _

theorem searchWaits_add (l : Launcher) (s : Scheduler) (j k : Nat) :
    l.searchWaits s (j + k) = l.searchWaits s j ++ l.searchWaits s k := by
  unfold searchWaits
  rw [← List.replicate_append_replicate, List.flatten_append]

variable {μ : Type} {m : Machine μ} {l : Launcher} {step : Step} {s : Scheduler} {w : μ}

def asCall (next : RunProgress × Launcher) (w : μ) : CallProgress × Launcher × μ :=
  (next.1.map .run .launched, next.2, w)

/-! ## Rounds -/

theorem search_of_lt {looked : Nat} (left : looked < l.config.idResolution.attempts.toNat) :
    l.search step s looked = (.waiting ⟨step, s, .pausing (looked + 1)⟩, l) := if_pos left

theorem listed_of_seen {answer : Except String CommandOutput} {id : String} (seen : s.seen? step.name answer = some id)
    (attempt : Nat) : l.listed step s attempt answer =
      ended ({ l with reporter := l.reporter.note (·.idResolution step.name attempt true) }.complete step
        (.scheduler id)) := by
  cases answer with
  | ok output =>
    replace seen : s.idOf? output step.name = some id := seen
    unfold listed
    dsimp only
    rw [seen]
  | error message => cases seen

theorem listed_of_unseen {answer : Except String CommandOutput} (unseen : s.seen? step.name answer = none)
    (attempt : Nat) : l.listed step s attempt answer = l.search step s attempt := by
  cases answer with
  | ok output =>
    replace unseen : s.idOf? output step.name = none := unseen
    unfold listed
    dsimp only
    rw [unseen]
  | error message => rfl

theorem ends_round {looked : Nat} (left : looked < l.config.idResolution.attempts.toNat) (r : Round μ)
    {replies : List (Meanwhile μ × Reply)} {waits : List Wait} {answer : Answer}
    (h : (proceed m (asCall ((r.listing.launcher (r.pausing.launcher l)).listed step s (looked + 1) r.answer)
      (r.listing.world (r.pausing.world w))) replies).Ends waits answer) :
    (proceed m (asCall (l.search step s looked) w) (r.replies ++ replies)).Ends (l.roundWaits s ++ waits) answer := by
  rw [search_of_lt left]
  exact ends_waiting (ends_waiting h)

theorem ends_found (batch : step.managed = true) {looked : Nat} (left : looked < l.config.idResolution.attempts.toNat)
    {r : Round μ} {id : String} (seen : s.seen? step.name r.answer = some id) (rest : List (Round μ)) :
    (proceed m (asCall (l.search step s looked) w) ((r :: rest).flatMap Round.replies)).Ends (l.searchWaits s 1)
      (.launched (.ok (.scheduler id))) := by
  rw [searchWaits_one, ← List.append_nil (l.roundWaits s), List.flatMap_cons]
  refine ends_round left r ?_
  rw [listed_of_seen seen, complete_of_fits _ (show step.Fits (.scheduler id) from batch)]
  exact ends_done _ _ _ _

theorem ends_exhausted {n : Nat} (attempts : l.config.idResolution.attempts.toNat = n)
    (replies : List (Meanwhile μ × Reply)) :
    (proceed m (asCall (l.search step s n) w) replies).Ends [] (.launched (.error (.idUnresolved step.name n))) := by
  unfold search
  rw [attempts, if_neg (Nat.lt_irrefl n)]
  exact ends_done _ _ _ _

/-- **Rounds that do not show the id** are made one after the other, and the search goes on behind them. -/
theorem ends_missed {missed : List (Round μ)} (unseen : ∀ r ∈ missed, s.seen? step.name r.answer = none)
    {looked : Nat} (left : looked + missed.length ≤ l.config.idResolution.attempts.toNat)
    {replies : List (Meanwhile μ × Reply)} {waits : List Wait} {answer : Answer}
    (h : ∀ l' : Launcher, ∀ w', l'.config = l.config →
      (proceed m (asCall (l'.search step s (looked + missed.length)) w') replies).Ends waits answer) :
    (proceed m (asCall (l.search step s looked) w) (missed.flatMap Round.replies ++ replies)).Ends
      (l.searchWaits s missed.length ++ waits) answer := by
  -- over the rounds; the launcher that the next one meets has the same configuration
  induction missed generalizing l w looked with
  | nil => exact h l w rfl
  | cons r missed ih =>
    rw [List.forall_mem_cons] at unseen
    rw [List.length_cons, ← Nat.add_assoc, Nat.add_right_comm] at left h
    have hconfig : (r.listing.launcher (r.pausing.launcher l)).config = l.config :=
      (r.listing.config_eq _).trans (r.pausing.config_eq l)
    rw [List.flatMap_cons, List.append_assoc, List.length_cons, searchWaits_succ, List.append_assoc]
    refine ends_round (by omega) r ?_
    rw [listed_of_unseen unseen.1, ← searchWaits_congr hconfig]
    exact ih unseen.2 (by rwa [hconfig]) fun l' w' hl' => h l' w' (hl'.trans hconfig)

/-! ## Launches -/

theorem submitting_of_beginRun {r : Run} {l₁ : Launcher} {w₁ : μ} (h : beginRun m l step w = (.waiting r, l₁, w₁)) :
    ∃ s p, l.backend.scheduler? = some s ∧ step.managed = true ∧ l₁.config = l.config ∧
      r = ⟨step, s, .submitting p⟩ := by
  cases held : l.registry.reserve step.name with
  | error e =>
    unfold beginRun beginRunOn at h
    rw [held] at h
    cases h
  | ok registry =>
    rw [beginRun_eq m w held] at h
    have hcases := attempted m l.backend l.supervisor.start step w
    generalize attempt m l.backend l.supervisor.start step w = a at h hcases
    cases hcases with
    | failed e w' plain => cases h
    | started p w' direct => cases h
    | submitted s p w' batch owner =>
      cases h
      exact ⟨s, p, owner, batch, rfl, rfl⟩

theorem resumeRun_of_printed {l : Launcher} {exit : Exit} (succeeded : exitCode? exit.status = some 0) {id : String}
    (printed : s.submittedId? (Utf8.text exit.stdout) = some id) (p : ProcessId) :
    l.resumeRun ⟨step, s, .submitting p⟩ (.ended exit) = ended (l.complete step (.scheduler id)) := by
  show l.submitted step s exit = _
  simp only [submitted, succeeded, if_true, printed]

theorem resumeRun_of_mute {l : Launcher} {exit : Exit} (succeeded : exitCode? exit.status = some 0)
    (mute : s.submittedId? (Utf8.text exit.stdout) = none) (p : ProcessId) :
    l.resumeRun ⟨step, s, .submitting p⟩ (.ended exit) = l.search step s 0 := by
  show l.submitted step s exit = _
  simp only [submitted, succeeded, if_true, mute]

theorem ends_search {r : Run} {p : ProcessId} (hr : r = ⟨step, s, .submitting p⟩) {b : Meanwhile μ} {exit : Exit}
    (succeeded : exitCode? exit.status = some 0) (mute : s.submittedId? (Utf8.text exit.stdout) = none)
    {missed rest : List (Round μ)} (unseen : ∀ r ∈ missed, s.seen? step.name r.answer = none)
    (left : missed.length ≤ l.config.idResolution.attempts.toNat) {waits : List Wait} {answer : Answer}
    (h : ∀ l' : Launcher, ∀ w', l'.config = l.config →
      (proceed m (asCall (l'.search step s missed.length) w') (rest.flatMap Round.replies)).Ends waits answer) :
    (proceed m (.waiting (.run r), l, w) ((b, .ended exit) :: (missed ++ rest).flatMap Round.replies)).Ends
      (.process p :: (l.searchWaits s missed.length ++ waits)) answer := by
  subst hr
  refine ends_waiting ?_
  show (proceed m (asCall ((b.launcher l).resumeRun ⟨step, s, .submitting p⟩ (.ended exit)) (b.world w)) _).Ends _ _
  rw [resumeRun_of_mute succeeded mute, List.flatMap_append, ← searchWaits_congr (b.config_eq l)]
  refine ends_missed unseen (by rwa [Nat.zero_add, b.config_eq]) fun l' w' hl' => ?_
  rw [Nat.zero_add]
  exact h l' w' (hl'.trans (b.config_eq l))

/-- **The search for a job id is bounded, with a fixed pause before each listing.** Once the submission of a batch step
has succeeded, a launch ends at once with the id that it has printed. If it has printed none, pauses and listings take
turns: the launch ends with the first id that a listing shows, after this listing, or fails after as many rounds as are
configured, whatever happens on the launcher and whatever the listings answer. -/
theorem id_search_is_bounded {r : Run} {l₁ : Launcher} {w₁ : μ} (started : beginRun m l step w = (.waiting r, l₁, w₁))
    {exit : Exit} (succeeded : exitCode? exit.status = some 0) (b : Meanwhile μ) :
    ∃ s p, l.backend.scheduler? = some s ∧ r = ⟨step, s, .submitting p⟩ ∧
      let n := l.config.idResolution.attempts.toNat
      let printed := s.submittedId? (Utf8.text exit.stdout)
      let passage (rounds : List (Round μ)) :=
        proceed m (beginCall m l (.run step) w) ((b, .ended exit) :: rounds.flatMap Round.replies)
      (∀ id rounds, printed = some id → (passage rounds).Ends [.process p] (.launched (.ok (.scheduler id)))) ∧
        (printed = none →
          (∀ missed hit rest id, (∀ r ∈ missed, s.seen? step.name r.answer = none) →
            s.seen? step.name hit.answer = some id → missed.length < n →
            (passage (missed ++ hit :: rest)).Ends (.process p :: l.searchWaits s (missed.length + 1))
              (.launched (.ok (.scheduler id)))) ∧
          ∀ missed rest, (∀ r ∈ missed, s.seen? step.name r.answer = none) → missed.length = n →
            (passage (missed ++ rest)).Ends (.process p :: l.searchWaits s n)
              (.launched (.error (.idUnresolved step.name n)))) := by
  obtain ⟨s, p, owner, batch, hconfig, hr⟩ := submitting_of_beginRun started
  have hcall : beginCall m l (.run step) w = (.waiting (.run r), l₁, w₁) := beginCall_run started
  refine ⟨s, p, owner, hr, ?_⟩
  dsimp only
  rw [hcall, ← hconfig]
  refine ⟨fun id rounds printed => ?_, fun mute => ⟨fun missed hit rest id unseen seen left => ?_,
    fun missed rest unseen all => ?_⟩⟩
  · subst hr
    refine ends_waiting ?_
    show (proceed m (asCall ((b.launcher l₁).resumeRun ⟨step, s, .submitting p⟩ (.ended exit)) _) _).Ends _ _
    rw [resumeRun_of_printed succeeded printed, complete_of_fits _ (show step.Fits (.scheduler id) from batch)]
    exact ends_done _ _ _ _
  · rw [← searchWaits_congr hconfig, searchWaits_add]
    refine ends_search hr succeeded mute unseen (Nat.le_of_lt left) fun l' w' hl' => ?_
    rw [← searchWaits_congr hl']
    exact ends_found batch (by rwa [hl']) seen rest
  · rw [← searchWaits_congr hconfig, ← all, ← List.append_nil (searchWaits _ _ _)]
    exact ends_search hr succeeded mute unseen (Nat.le_of_eq all) fun l' w' hl' =>
      ends_exhausted (by rw [hl', all]) _

/-- The first listing cannot be made, and the second one, which is the last, shows the job. -/
theorem id_search_is_bounded_last_round :
    let l : Launcher := .new (.scheduled (.grid {})) { idResolution := { attempts := 2, interval := 500 } } none
    let step : Step := ⟨"a", "/", true, .gridBatch {} [], rfl⟩
    let r : Run := ⟨step, .grid {}, .submitting 0⟩
    ∃ l₁, beginRun Machine.obliging l step () = (.waiting r, l₁, ()) ∧
      (proceed Machine.obliging (beginCall Machine.obliging l (.run step) ())
        ((.idle, .ended ⟨0, [], []⟩) :: Round.replies ⟨.idle, .watching [.endLoop 0] id, .error "no qstat"⟩ ++
          Round.replies ⟨.idle, .idle, .ok (.ok "7 0.5 a user r\n")⟩)).Ends
        [.process 0, .pause 500, .command ⟨"qstat", ["-r"]⟩, .pause 500, .command ⟨"qstat", ["-r"]⟩]
        (.launched (.ok (.scheduler "7"))) := by
  intro l step r
  have started : ∃ l₁, beginRun Machine.obliging l step () = (.waiting r, l₁, ()) := ⟨_, rfl⟩
  obtain ⟨l₁, started⟩ := started
  refine ⟨l₁, started, ?_⟩
  have succeeded : exitCode? (Exit.mk 0 [] []).status = some 0 := rfl
  obtain ⟨s, p, -, hr, -, hsearch⟩ := id_search_is_bounded started succeeded .idle
  obtain ⟨-, rfl, hstage⟩ := Run.mk.inj hr
  cases hstage
  have hunseen : ∀ r ∈ [(⟨.idle, .watching [.endLoop 0] id, .error "no qstat"⟩ : Round Unit)],
      Scheduler.seen? (.grid {}) step.name r.answer = none := by
    simp [Scheduler.seen?]
  exact (hsearch rfl).1 _ ⟨.idle, .idle, .ok (.ok "7 0.5 a user r\n")⟩ [] "7" hunseen (by decide) (by decide)

end Launcher

end JobLaunch
