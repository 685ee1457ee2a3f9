import JobLaunch.ShutdownSignal
import Mathlib.Data.List.Count
import Mathlib.Data.Option.Basic

/-!
# Signals reach their waiters

Tokens are made and copied, waiters are made and polled, and signals are raised, each in steps that others come between.

* `Signalling.step` : one step of a user; `Signalling.begun`, `Signalling.ended` : the cancellations so far;
* `Signalling.Sound` : what holds between the steps;
* `Signalling.rest` : the steps that a waiter has before it;
* `Signalling.apart` : the steps that concern one signal;
* `Signalling.signals_reach_their_waiters` : no signal is lost, none is invented, and none reaches others.
-/

namespace JobLaunch

namespace Waiter

theorem signal_wakeIf (w : Waiter) (g : Nat) : (w.wakeIf g).signal = w.signal := by
  unfold wakeIf
  split <;> rfl

theorem phase_wakeIf (w : Waiter) (g : Nat) : (w.wakeIf g).phase = w.phase := by
  unfold wakeIf
  split <;> rfl

theorem wakeIf_of_ne {w : Waiter} {g : Nat} (h : w.signal ≠ g) : w.wakeIf g = w := by
  simp [wakeIf, h]

theorem signal_enroll (w : Waiter) : w.enroll.signal = w.signal := by
  unfold enroll
  split <;> rfl

theorem signal_look (w : Waiter) (raised : Bool) : (w.look raised).signal = w.signal := by
  unfold look
  split <;> rfl

theorem signal_suspend (w : Waiter) : w.suspend.signal = w.signal := by
  unfold suspend
  split <;> rfl

end Waiter

/-- Shutdown signals with the cancellations so far. -/
structure Signalling where
  signals : ShutdownSignals := {}
  /-- The signals that cancellations have put up the flag of. -/
  begun : List Nat := []
  /-- The signals that cancellations have woken the waiters of, after that. -/
  ended : List Nat := []

namespace Signalling

/-- A step of a user. A cancellation is `raise` and then `wake`; a first poll is `enroll`, `look` and then `suspend`. -/
inductive Move where
  | create
  | clone (token : Nat)
  | wait (token : Nat)
  | raise (token : Nat)
  | wake (token : Nat)
  | enroll (waiter : Nat)
  | look (waiter : Nat)
  | suspend (waiter : Nat)

/-- The signal of a token that is in use. -/
def signal? (s : Signalling) (token : Nat) : Option Nat := s.signals.tokens[token]?

def wakes? (s : Signalling) : Move → Option Nat
  | .wake t => (s.signal? t).filter fun g => s.ended.count g < s.begun.count g
  | .create | .clone _ | .wait _ | .raise _ | .enroll _ | .look _ | .suspend _ => none

/-- What a step does; nothing, if nobody can take it. -/
def step (s : Signalling) (m : Move) : Signalling :=
  match m with
  | .create => { s with signals := s.signals.create.2 }
  | .clone t => if (s.signal? t).isSome then { s with signals := (s.signals.clone t).2 } else s
  | .wait t => if (s.signal? t).isSome then { s with signals := (s.signals.wait t).2 } else s
  | .raise t =>
    match s.signal? t with
    | some g => { s with signals := s.signals.raiseFlag g, begun := g :: s.begun }
    | none => s
  | .wake _ =>
    match s.wakes? m with
    | some g => { s with signals := s.signals.wake g, ended := g :: s.ended }
    | none => s
  | .enroll i => { s with signals := s.signals.enroll i }
  | .look i => { s with signals := s.signals.look i }
  | .suspend i => { s with signals := s.signals.suspend i }

/-- What steps do, in order. -/
def run (s : Signalling) (ms : List Move) : Signalling := ms.foldl step s

/-! ## What a step changes -/

def newToken? (s : Signalling) : Move → Option Nat
  | .create => some s.signals.flags.length
  | .clone t => s.signal? t
  | .wait _ | .raise _ | .wake _ | .enroll _ | .look _ | .suspend _ => none

/-- The waiter that a step makes. -/
def newWaiter? (s : Signalling) : Move → Option Waiter
  | .wait t => (s.signal? t).map ({ signal := · })
  | .create | .clone _ | .raise _ | .wake _ | .enroll _ | .look _ | .suspend _ => none

def raises? (s : Signalling) : Move → Option Nat
  | .raise t => s.signal? t
  | .create | .clone _ | .wait _ | .wake _ | .enroll _ | .look _ | .suspend _ => none

/-- What a step makes of a waiter. -/
def touch (s : Signalling) (m : Move) (i : Nat) (w : Waiter) : Waiter :=
  match m with
  | .wake _ => (s.wakes? m).elim w (w.wakeIf ·)
  | .enroll j => if j = i then w.enroll else w
  | .look j => if j = i then w.look (s.signals.isRaised w.signal) else w
  | .suspend j => if j = i then w.suspend else w
  | .create | .clone _ | .wait _ | .raise _ => w

theorem tokens_step (s : Signalling) (m : Move) :
    (s.step m).signals.tokens = s.signals.tokens ++ (s.newToken? m).toList := by
  cases m with
  | create => rfl
  | clone t =>
    rw [step, newToken?]
    unfold signal?
    cases ht : s.signals.tokens[t]? with
    | none => simp
    | some g => simp [ShutdownSignals.clone, ht]
  | wait t =>
    rw [step, newToken?]
    split <;> simp [ShutdownSignals.wait]
  | raise t =>
    rw [step, newToken?]
    split <;> simp [ShutdownSignals.raiseFlag]
  | wake t =>
    rw [step, newToken?]
    split <;> simp [ShutdownSignals.wake]
  | _ => exact (List.append_nil _).symm

theorem length_flags_step (s : Signalling) (m : Move) :
    (s.step m).signals.flags.length = s.signals.flags.length + if m matches .create then 1 else 0 := by
  cases m with
  | create => exact List.length_append
  | clone t | wait t | wake t =>
    rw [step]
    split <;> rfl
  | raise t =>
    rw [step]
    split
    · exact List.length_set
    · rfl
  | _ => rfl

theorem begun_step (s : Signalling) (m : Move) : (s.step m).begun = (s.raises? m).toList ++ s.begun := by
  cases m with
  | raise t =>
    rw [step, raises?]
    cases s.signal? t <;> rfl
  | clone t | wait t | wake t =>
    rw [step]
    split <;> rfl
  | _ => rfl

theorem ended_step (s : Signalling) (m : Move) : (s.step m).ended = (s.wakes? m).toList ++ s.ended := by
  cases m with
  | wake t =>
    rw [step]
    cases s.wakes? (.wake t) <;> rfl
  | clone t | wait t | raise t =>
    rw [step]
    split <;> rfl
  | _ => rfl

theorem waiters_step (s : Signalling) (m : Move) : (s.step m).signals.waiters =
    (s.signals.waiters ++ (s.newWaiter? m).toList).mapIdx (s.touch m) := by
  refine List.ext_getElem? fun i => ?_
  rw [List.getElem?_mapIdx]
  have untouched (l : List Waiter) : l[i]? = (l ++ [])[i]?.map fun w => w := by simp
  have modified (l : List Waiter) (j : Nat) (f : Waiter → Waiter) :
      (l.modify j f)[i]? = (l ++ [])[i]?.map fun w => if j = i then f w else w := by
    rw [List.getElem?_modify, List.append_nil]
    rfl
  cases m with
  | create => exact untouched _
  | clone t =>
    rw [step]
    split <;> exact untouched _
  | wait t =>
    rw [step, newWaiter?]
    cases ht : s.signal? t with
    | none => exact untouched _
    | some g =>
      have hg : s.signals.tokens[t]?.getD s.signals.flags.length = g := by
        rw [show s.signals.tokens[t]? = some g from ht, Option.getD_some]
      have hmade : (s.signals.wait t).2.waiters = s.signals.waiters ++ [{ signal := g }] := by
        rw [ShutdownSignals.wait, hg]
      rw [Option.isSome_some, if_pos rfl, hmade]
      exact Option.map_id'.symm
  | raise t =>
    rw [step]
    split <;> exact untouched _
  | wake t =>
    rw [step]
    unfold touch
    split
    · next g hg => simp [ShutdownSignals.wake, hg, newWaiter?]
    · next hg => simp [hg, newWaiter?]
  | enroll j => exact modified _ j _
  | look j => exact modified _ j fun w => w.look (s.signals.isRaised w.signal)
  | suspend j => exact modified _ j _

theorem isRaised_step {s : Signalling} {m : Move} (known : ∀ g ∈ s.signals.tokens, g < s.signals.flags.length) (g : Nat) :
    (s.step m).signals.isRaised g = true ↔ s.signals.isRaised g = true ∨ s.raises? m = some g := by
  have unchanged : s.signals.isRaised g = true ↔ s.signals.isRaised g = true ∨ none = some g := by simp
  cases m with
  | create =>
    rw [show (s.step .create).signals.isRaised g = (s.signals.flags ++ [false])[g]?.getD false from rfl,
      List.getElem?_append]
    split
    · exact unchanged
    · next late =>
      have hdown : s.signals.isRaised g = false := by
        rw [ShutdownSignals.isRaised, List.getElem?_eq_none (Nat.not_lt.1 late)]
        rfl
      rw [hdown]
      cases g - s.signals.flags.length <;> simp [raises?]
  | clone t | wait t | wake t =>
    rw [step]
    split <;> exact unchanged
  | raise t =>
    rw [step, raises?]
    cases ht : s.signal? t with
    | none => exact unchanged
    | some a =>
      have ha : a < s.signals.flags.length := known a (List.mem_of_getElem? ht)
      show (s.signals.flags.set a true)[g]?.getD false = true ↔ _
      rw [List.getElem?_set]
      split
      · next same => simp [same]
      · next other =>
        rw [Option.some_inj, or_iff_left other]
        rfl
  | _ => exact unchanged

theorem count_lt_of_wakes {s : Signalling} {m : Move} {g : Nat} (h : s.wakes? m = some g) :
    s.ended.count g < s.begun.count g := by
  cases m with
  | wake t => exact of_decide_eq_true (Option.filter_eq_some_iff.1 h).2
  | _ => cases h

theorem mem_begun_of_wakes {s : Signalling} {m : Move} {g : Nat} (h : s.wakes? m = some g) : g ∈ s.begun :=
  List.count_pos_iff.1 (Nat.zero_lt_of_lt (count_lt_of_wakes h))

/-! ## Between the steps -/

/-- A waiter has not heard of a signal that is not raised, and once the waiters are woken it does not sleep. -/
structure Tended (s : Signalling) (w : Waiter) : Prop where
  heard : w.phase = .finished ∨ w.woken = true → w.signal ∈ s.begun
  called : w.signal ∈ s.ended → w.phase = .looked ∨ w.phase = .suspended → w.woken = true

/-- What holds between the steps. -/
structure Sound (s : Signalling) : Prop where
  known : ∀ g ∈ s.signals.tokens, g < s.signals.flags.length
  raised : ∀ g, s.signals.isRaised g = true ↔ g ∈ s.begun
  paired : ∀ g, s.ended.count g ≤ s.begun.count g
  tended : ∀ w ∈ s.signals.waiters, s.Tended w

theorem sound_empty : Sound {} where
  known := fun _ h => nomatch h
  raised := fun _ => iff_of_false Bool.false_ne_true List.not_mem_nil
  paired := fun _ => Nat.le_refl _
  tended := fun _ h => nomatch h

theorem Sound.mem_begun {s : Signalling} (sound : s.Sound) {g : Nat} (h : g ∈ s.ended) : g ∈ s.begun :=
  List.count_pos_iff.1 (Nat.lt_of_lt_of_le (List.count_pos_iff.2 h) (sound.paired g))

namespace Tended

variable {s : Signalling} {w : Waiter}

theorem wakeIf (h : s.Tended w) {g : Nat} (begun : g ∈ s.begun) :
    Tended { s with ended := g :: s.ended } (w.wakeIf g) := by
  unfold Waiter.wakeIf
  split
  · next woken =>
    have hg : w.signal = g := of_decide_eq_true (Bool.and_eq_true_iff.1 woken).1
    exact ⟨fun _ => hg ▸ begun, fun _ _ => rfl⟩
  · next asleep =>
    refine ⟨h.heard, fun ended waits => ?_⟩
    rcases List.mem_cons.1 ended with hg | before
    · -- a waiter of the signal that is enrolled would have been woken
      refine absurd ?_ asleep
      rcases waits with hphase | hphase <;> simp [hg, hphase]
    · exact h.called before waits

theorem enroll (h : s.Tended w) : s.Tended w.enroll := by
  unfold Waiter.enroll
  split
  · next idle =>
    refine ⟨fun heard => h.heard (.inr ?_), fun _ waits => ?_⟩
    · simpa using heard
    · simp at waits
  · exact h

theorem look (h : s.Tended w) (sound : s.Sound) : s.Tended (w.look (s.signals.isRaised w.signal)) := by
  unfold Waiter.look
  split
  · cases hraised : s.signals.isRaised w.signal with
    | true => exact ⟨fun _ => (sound.raised _).1 hraised, fun _ waits => by simp at waits⟩
    | false =>
      -- the flag is down, so no cancellation has ended, nor begun
      refine ⟨fun heard => h.heard (.inr (by simpa using heard)), fun ended => ?_⟩
      have hup := (sound.raised _).2 (sound.mem_begun ended)
      rw [hraised] at hup
      cases hup
  · exact h

theorem suspend (h : s.Tended w) : s.Tended w.suspend := by
  unfold Waiter.suspend
  split
  · next waits =>
    refine ⟨fun heard => h.heard (.inr ?_), fun ended _ => h.called ended (by simpa using waits)⟩
    cases hwoken : w.woken with
    | true => rfl
    | false => simp [hwoken] at heard
  · exact h

theorem step (h : s.Tended w) (sound : s.Sound) (m : Move) (i : Nat) : (s.step m).Tended (s.touch m i w) := by
  have hbegun := begun_step s m
  have hended := ended_step s m
  suffices htouch : Tended { s with ended := (s.wakes? m).toList ++ s.ended } (s.touch m i w) by
    refine ⟨fun heard => ?_, fun ended => htouch.called (by rwa [hended] at ended)⟩
    rw [hbegun]
    exact List.mem_append_right _ (htouch.heard heard)
  cases m with
  | create | clone t | wait t | raise t => exact h
  | wake t =>
    unfold touch
    cases hwakes : s.wakes? (.wake t) with
    | none => exact h
    | some g => exact h.wakeIf (mem_begun_of_wakes hwakes)
  | enroll j =>
    unfold touch
    dsimp only
    split
    · exact h.enroll
    · exact h
  | look j =>
    unfold touch
    dsimp only
    split
    · exact h.look sound
    · exact h
  | suspend j =>
    unfold touch
    dsimp only
    split
    · exact h.suspend
    · exact h

end Tended

theorem Sound.step {s : Signalling} (h : s.Sound) (m : Move) : (s.step m).Sound where
  known := by
    intro g hg
    rw [tokens_step, List.mem_append] at hg
    rw [length_flags_step]
    rcases hg with old | new
    · exact Nat.lt_of_lt_of_le (h.known g old) (Nat.le_add_right _ _)
    · cases m with
      | create =>
        rw [List.mem_singleton.1 new]
        exact Nat.lt_succ_self _
      | clone t => exact h.known g (List.mem_of_getElem? (Option.mem_toList.1 new))
      | _ => cases new
  raised := by
    intro g
    rw [isRaised_step h.known, h.raised, begun_step, List.mem_append, Option.mem_toList]
    exact or_comm
  paired := by
    intro g
    have hpaired := h.paired g
    rw [ended_step, begun_step, List.count_append, List.count_append]
    cases hwakes : s.wakes? m with
    | none => exact Nat.le_trans (by simpa using hpaired) (Nat.le_add_left _ _)
    | some a =>
      rw [Option.toList_some, List.count_singleton]
      split
      · next same =>
        have hlt := count_lt_of_wakes hwakes
        rw [beq_iff_eq.1 same] at hlt
        omega
      · omega
  tended := by
    intro w hw
    obtain ⟨i, hi⟩ := List.getElem?_of_mem hw
    rw [waiters_step, List.getElem?_mapIdx] at hi
    obtain ⟨w, hold, rfl⟩ := Option.map_eq_some_iff.1 hi
    refine Tended.step ?_ h m i
    rcases List.mem_append.1 (List.mem_of_getElem? hold) with old | new
    · exact h.tended w old
    · obtain ⟨g, rfl⟩ : ∃ g : Nat, w = { signal := g } := by
        cases m with
        | wait t =>
          obtain ⟨g, -, rfl⟩ := Option.map_eq_some_iff.1 (Option.mem_toList.1 new)
          exact ⟨g, rfl⟩
        | _ => cases new
      exact ⟨fun heard => by simp at heard, fun _ waits => by simp at waits⟩

theorem sound_run (ms : List Move) : (run {} ms).Sound := by
  have hrun (s : Signalling) (h : s.Sound) : (s.run ms).Sound := by
    induction ms generalizing s with
    | nil => exact h
    | cons m ms ih => exact ih _ (h.step m)
  exact hrun _ sound_empty

theorem signals_cancel {s : Signalling} (sound : s.Sound) (t : Nat) :
    ((s.step (.raise t)).step (.wake t)).signals = s.signals.cancel t := by
  rw [step, ShutdownSignals.cancel]
  cases ht : s.signal? t with
  | none =>
    have hwakes : s.wakes? (.wake t) = none := by rw [wakes?, ht, Option.filter_none]
    rw [show s.signals.tokens[t]? = none from ht]
    dsimp only
    rw [step, hwakes]
  | some g =>
    have hwakes : wakes? { s with signals := s.signals.raiseFlag g, begun := g :: s.begun } (.wake t) = some g := by
      refine Option.filter_eq_some_iff.2 ⟨ht, decide_eq_true ?_⟩
      rw [List.count_cons_self]
      exact Nat.lt_succ_of_le (sound.paired g)
    rw [show s.signals.tokens[t]? = some g from ht]
    dsimp only
    rw [step, hwakes]

/-! ## Waiters of a raised signal -/

/-- The steps of its poll that a waiter has before it; those of the next poll, if it is suspended. -/
def rest (i : Nat) (w : Waiter) : List Move :=
  match w.phase with
  | .idle => [.enroll i, .look i, .suspend i]
  | .enrolled => [.look i, .suspend i]
  | .looked | .suspended => [.suspend i]
  | .finished => []

theorem rest_congr (i : Nat) {w w' : Waiter} (h : w.phase = w'.phase) : rest i w = rest i w' := by
  rw [rest, rest, h]

theorem eq_of_rest_cons {i : Nat} {w : Waiter} {m : Move} {l : List Move} (h : rest i w = m :: l) :
    (w.phase = .idle ∧ m = .enroll i ∧ l = [.look i, .suspend i]) ∨
      (w.phase = .enrolled ∧ m = .look i ∧ l = [.suspend i]) ∨
      ((w.phase = .looked ∨ w.phase = .suspended) ∧ m = .suspend i ∧ l = []) := by
  unfold rest at h
  split at h <;> cases h <;> simp [*]

theorem phase_touch {s : Signalling} {m : Move} {i : Nat} {w : Waiter} (foreign : ∀ l, rest i w ≠ m :: l) :
    (s.touch m i w).phase = w.phase := by
  cases m with
  | create | clone t | wait t | raise t => rfl
  | wake t =>
    rw [touch]
    cases s.wakes? (.wake t) with
    | none => rfl
    | some g => exact w.phase_wakeIf g
  | enroll j =>
    unfold touch
    dsimp only
    split
    · next own =>
      subst own
      have hphase : w.phase ≠ .idle := fun idle => foreign [.look j, .suspend j] (by rw [rest, idle])
      rw [Waiter.enroll, if_neg hphase]
    · rfl
  | look j =>
    unfold touch
    dsimp only
    split
    · next own =>
      subst own
      have hphase : w.phase ≠ .enrolled := fun enrolled => foreign [.suspend j] (by rw [rest, enrolled])
      rw [Waiter.look, if_neg hphase]
    · rfl
  | suspend j =>
    unfold touch
    dsimp only
    split
    · next own =>
      subst own
      have hphase : w.phase ≠ .looked ∧ w.phase ≠ .suspended :=
        ⟨fun looked => foreign [] (by rw [rest, looked]), fun suspended => foreign [] (by rw [rest, suspended])⟩
      rw [Waiter.suspend, if_neg (by simpa using hphase)]
    · rfl

/-- **Once the waiters of its signal are woken, each step of its own takes a waiter on to the end.** -/
theorem rest_touch_of_cons {s : Signalling} (sound : s.Sound) {i : Nat} {w : Waiter} (tended : s.Tended w)
    (ended : w.signal ∈ s.ended) {m : Move} {l : List Move} (next : rest i w = m :: l) :
    (rest i (s.touch m i w)).Sublist l := by
  rcases eq_of_rest_cons next with ⟨idle, rfl, rfl⟩ | ⟨enrolled, rfl, rfl⟩ | ⟨waits, rfl, rfl⟩
  · have htouch : s.touch (.enroll i) i w = { w with phase := .enrolled } := by
      rw [touch, if_pos rfl, Waiter.enroll, if_pos idle]
    rw [htouch]
    exact List.Sublist.refl _
  · have hraised := (sound.raised _).2 (sound.mem_begun ended)
    have htouch : s.touch (.look i) i w = { w with phase := .finished } := by
      rw [touch, if_pos rfl, Waiter.look, if_pos enrolled, hraised, if_pos rfl]
    rw [htouch]
    exact List.nil_sublist _
  · have hwoken := tended.called ended waits
    have htouch : s.touch (.suspend i) i w = { w with phase := .finished } := by
      rw [touch, if_pos rfl, Waiter.suspend, if_pos (by simpa using waits), hwoken, if_pos rfl]
    rw [htouch]
    exact List.Sublist.refl _

theorem rest_touch {s : Signalling} (sound : s.Sound) {i : Nat} {w : Waiter} (tended : s.Tended w)
    (ended : w.signal ∈ s.ended) (m : Move) : (rest i (s.touch m i w)).Sublist (rest i w) := by
  by_cases own : ∃ l, rest i w = m :: l
  · obtain ⟨l, hl⟩ := own
    rw [hl]
    exact (rest_touch_of_cons sound tended ended hl).cons m
  · have hphase : (s.touch m i w).phase = w.phase := phase_touch fun l hl => own ⟨l, hl⟩
    exact rest_congr i hphase ▸ List.Sublist.refl (rest i w)

theorem signal_touch (s : Signalling) (m : Move) (i : Nat) (w : Waiter) : (s.touch m i w).signal = w.signal := by
  cases m with
  | create | clone t | wait t | raise t => rfl
  | wake t =>
    rw [touch]
    cases s.wakes? (.wake t) with
    | none => rfl
    | some g => exact w.signal_wakeIf g
  | enroll j =>
    rw [touch, apply_ite Waiter.signal, w.signal_enroll, ite_self]
  | look j => rw [touch, apply_ite Waiter.signal, w.signal_look, ite_self]
  | suspend j => rw [touch, apply_ite Waiter.signal, w.signal_suspend, ite_self]

theorem getElem?_waiters_step {s : Signalling} {i : Nat} {w : Waiter} (h : s.signals.waiters[i]? = some w) (m : Move) :
    (s.step m).signals.waiters[i]? = some (s.touch m i w) := by
  have hi : i < s.signals.waiters.length := (List.getElem?_eq_some_iff.1 h).1
  rw [waiters_step, List.getElem?_mapIdx, List.getElem?_append_left hi, h, Option.map_some]

/-- Whatever comes in between, a waiter of a signal whose waiters are woken finishes with the poll that it is in. -/
theorem isFinished_run {s : Signalling} (sound : s.Sound) {i : Nat} {w : Waiter} (h : s.signals.waiters[i]? = some w)
    (ended : w.signal ∈ s.ended) {ms : List Move} (polled : (rest i w).Sublist ms) :
    (s.run ms).signals.isFinished i = true := by
  induction ms generalizing s w with
  | nil =>
    have hphase : w.phase = .finished := by
      have hrest := List.sublist_nil.1 polled
      unfold rest at hrest
      split at hrest <;> first | assumption | cases hrest
    rw [ShutdownSignals.isFinished, run, List.foldl_nil, h]
    exact decide_eq_true hphase
  | cons m ms ih =>
    have tended := sound.tended w (List.mem_of_getElem? h)
    refine ih (sound.step m) (getElem?_waiters_step h m) ?_ ?_
    · rw [signal_touch, ended_step]
      exact List.mem_append_right _ ended
    · rcases List.sublist_cons_iff.1 polled with later | ⟨l, next, later⟩
      · exact (rest_touch sound tended ended m).trans later
      · exact (rest_touch_of_cons sound tended ended next).trans later

theorem poll_of_ended {s : Signalling} (sound : s.Sound) {i : Nat} {w : Waiter} (h : s.signals.waiters[i]? = some w)
    (ended : w.signal ∈ s.ended) : (s.signals.poll i).1 = true := by
  have hpolled : (rest i w).Sublist [.enroll i, .look i, .suspend i] := by
    unfold rest
    split <;> simp
  exact isFinished_run sound h ended hpolled

/-! ## Other signals -/

/-- Does a step concern a signal? One on a token or a waiter of another signal does not. -/
def concerns (s : Signalling) (g : Nat) : Move → Bool
  | .create | .clone _ | .wait _ => true
  | .raise t | .wake t => s.signal? t = some g
  | .enroll i | .look i | .suspend i => s.signals.waiters[i]?.map (·.signal) = some g

/-- The steps that concern a signal. -/
def apart (g : Nat) : Signalling → List Move → List Move
  | _, [] => []
  | s, m :: ms => if s.concerns g m then m :: apart g (s.step m) ms else apart g (s.step m) ms

/-- Two waiters look the same to those who know one signal. -/
structure SameWaiter (g : Nat) (w w' : Waiter) : Prop where
  signal : w.signal = w'.signal
  same : w.signal = g → w = w'

/-- Two states look the same to those who know one signal. -/
structure Alike (g : Nat) (s s' : Signalling) : Prop where
  tokens : s.signals.tokens = s'.signals.tokens
  flags : s.signals.flags.length = s'.signals.flags.length
  begun : s.begun.count g = s'.begun.count g
  ended : s.ended.count g = s'.ended.count g
  count : s.signals.waiters.length = s'.signals.waiters.length
  waiters : ∀ i : Nat, Option.Rel (SameWaiter g) s.signals.waiters[i]? s'.signals.waiters[i]?

theorem rel_refl (g : Nat) (w? : Option Waiter) : Option.Rel (SameWaiter g) w? w? := by
  cases w? with
  | none => exact .none
  | some w => exact .some ⟨rfl, fun _ => rfl⟩

theorem rel_map {g : Nat} {w? w?' : Option Waiter} (h : Option.Rel (SameWaiter g) w? w?') {f f' : Waiter → Waiter}
    (keeps : ∀ w w', w? = some w → SameWaiter g w w' → SameWaiter g (f w) (f' w')) :
    Option.Rel (SameWaiter g) (w?.map f) (w?'.map f') := by
  cases h with
  | none => exact .none
  | some hw => exact .some (keeps _ _ rfl hw)

/-- What does not concern a signal makes nothing, and neither raises it nor wakes its waiters. -/
structure Foreign (g : Nat) (s : Signalling) (m : Move) : Prop where
  old : (m matches .create) = false
  token : s.newToken? m = none
  waiter : s.newWaiter? m = none
  quiet : s.raises? m ≠ some g
  asleep : s.wakes? m ≠ some g
  untouched : ∀ (i : Nat) w, s.signals.waiters[i]? = some w → w.signal = g → s.touch m i w = w

theorem foreign_of_concerns {g : Nat} {s : Signalling} {m : Move} (h : s.concerns g m = false) : Foreign g s m := by
  cases m with
  | create | clone t | wait t => cases h
  | raise t => exact ⟨rfl, rfl, rfl, of_decide_eq_false h, nofun, fun _ _ _ _ => rfl⟩
  | wake t =>
    have hwakes : s.wakes? (.wake t) ≠ some g := fun hg => of_decide_eq_false h (Option.filter_eq_some_iff.1 hg).1
    refine ⟨rfl, rfl, rfl, nofun, hwakes, fun i w _ known => ?_⟩
    rw [touch]
    cases hwake : s.wakes? (.wake t) with
    | none => rfl
    | some a => exact Waiter.wakeIf_of_ne fun same => hwakes (by rw [hwake, ← same, known])
  | enroll j | look j | suspend j =>
    refine ⟨rfl, rfl, rfl, nofun, nofun, fun i w hw known => ?_⟩
    have hother : j ≠ i := by
      rintro rfl
      exact of_decide_eq_false h (by rw [hw, Option.map_some, known])
    exact if_neg hother

namespace Alike

variable {g : Nat} {s s' : Signalling}

theorem signal? (h : Alike g s s') (t : Nat) : s.signal? t = s'.signal? t := by
  unfold Signalling.signal?
  rw [h.tokens]

theorem isRaised (h : Alike g s s') (sound : s.Sound) (sound' : s'.Sound) :
    s.signals.isRaised g = s'.signals.isRaised g := by
  rw [Bool.eq_iff_iff, sound.raised, sound'.raised, ← List.count_pos_iff, h.begun, List.count_pos_iff]

theorem wakes? (h : Alike g s s') {m : Move} (concerns : s.concerns g m = true) : s.wakes? m = s'.wakes? m := by
  cases m with
  | wake t =>
    have ht : s.signal? t = some g := of_decide_eq_true concerns
    rw [Signalling.wakes?, Signalling.wakes?, ← h.signal?, ht, Option.filter_some, Option.filter_some, h.begun, h.ended]
  | _ => rfl

theorem touch (h : Alike g s s') (sound : s.Sound) (sound' : s'.Sound) {m : Move} (concerns : s.concerns g m = true)
    {i : Nat} {w w' : Waiter} (hw : SameWaiter g w w') : SameWaiter g (s.touch m i w) (s'.touch m i w') := by
  refine ⟨by rw [signal_touch, signal_touch, hw.signal], fun known => ?_⟩
  rw [signal_touch] at known
  obtain rfl := hw.same known
  cases m with
  | look j => rw [Signalling.touch, Signalling.touch, known, h.isRaised sound sound']
  | wake t => rw [Signalling.touch, Signalling.touch, h.wakes? concerns]
  | _ => rfl

theorem step (h : Alike g s s') (sound : s.Sound) (sound' : s'.Sound) {m : Move} (concerns : s.concerns g m = true) :
    Alike g (s.step m) (s'.step m) := by
  have htoken : s.newToken? m = s'.newToken? m := by
    cases m with
    | create => exact congrArg some h.flags
    | clone t => exact h.signal? t
    | _ => rfl
  have hwaiter : s.newWaiter? m = s'.newWaiter? m := by
    cases m with
    | wait t => rw [newWaiter?, newWaiter?, h.signal?]
    | _ => rfl
  have hraises : s.raises? m = s'.raises? m := by
    cases m with
    | raise t => exact h.signal? t
    | _ => rfl
  constructor
  · rw [tokens_step, tokens_step, h.tokens, htoken]
  · rw [length_flags_step, length_flags_step, h.flags]
  · rw [begun_step, begun_step, List.count_append, List.count_append, h.begun, hraises]
  · rw [ended_step, ended_step, List.count_append, List.count_append, h.ended, h.wakes? concerns]
  · rw [waiters_step, waiters_step, List.length_mapIdx, List.length_mapIdx, List.length_append, List.length_append,
      h.count, hwaiter]
  · intro i
    have hold : Option.Rel (SameWaiter g) (s.signals.waiters ++ (s.newWaiter? m).toList)[i]?
        (s'.signals.waiters ++ (s'.newWaiter? m).toList)[i]? := by
      rw [List.getElem?_append, List.getElem?_append, h.count, hwaiter]
      split
      · exact h.waiters i
      · exact rel_refl g _
    rw [waiters_step, waiters_step, List.getElem?_mapIdx, List.getElem?_mapIdx]
    exact rel_map hold fun w w' _ => h.touch sound sound' concerns

theorem skip (h : Alike g s s') {m : Move} (foreign : Foreign g s m) : Alike g (s.step m) s' := by
  constructor
  · rw [tokens_step, foreign.token, Option.toList_none, List.append_nil, h.tokens]
  · rw [length_flags_step, foreign.old]
    exact h.flags
  · rw [begun_step, List.count_append, List.count_eq_zero.2 (mt Option.mem_toList.1 foreign.quiet), Nat.zero_add, h.begun]
  · rw [ended_step, List.count_append, List.count_eq_zero.2 (mt Option.mem_toList.1 foreign.asleep), Nat.zero_add,
      h.ended]
  · rw [waiters_step, foreign.waiter, List.length_mapIdx, Option.toList_none, List.append_nil, h.count]
  · intro i
    rw [waiters_step, foreign.waiter, Option.toList_none, List.append_nil, List.getElem?_mapIdx]
    rw [← @Option.map_id' _ s'.signals.waiters[i]?]
    refine rel_map (h.waiters i) fun w w' hw hsame => ⟨(signal_touch s m i w).trans hsame.signal, fun known => ?_⟩
    rw [signal_touch] at known
    rw [foreign.untouched i w hw known, hsame.same known]

theorem getElem?_eq_some_iff (h : Alike g s s') (i : Nat) {w : Waiter} (known : w.signal = g) :
    s'.signals.waiters[i]? = some w ↔ s.signals.waiters[i]? = some w := by
  have hold := h.waiters i
  generalize s.signals.waiters[i]? = w? at hold ⊢
  generalize s'.signals.waiters[i]? = w?' at hold ⊢
  cases hold with
  | none => exact Iff.rfl
  | @some a b hsame =>
    rw [Option.some_inj, Option.some_inj]
    constructor
    · rintro rfl
      exact hsame.same (hsame.signal.trans known)
    · rintro rfl
      exact (hsame.same known).symm

end Alike

theorem alike_apart {g : Nat} {s s' : Signalling} (h : Alike g s s') (sound : s.Sound) (sound' : s'.Sound)
    (ms : List Move) : Alike g (s.run ms) (s'.run (apart g s ms)) := by
  induction ms generalizing s s' with
  | nil => exact h
  | cons m ms ih =>
    rw [apart]
    split
    · next concerns => exact ih (h.step sound sound' concerns) (sound.step m) (sound'.step m)
    · next foreign => exact ih (h.skip (foreign_of_concerns (Bool.eq_false_iff.2 foreign))) (sound.step m) sound'

/-! ## The result -/

/-- **No shutdown signal is lost or invented.** Whatever steps came before: once a cancellation of its signal has ended,
a waiter finishes with its next poll, or with the one that it is in, whatever comes in between, and it is awake for it;
no waiter has finished, and no token is cancelled, unless a cancellation of the signal has begun; and all that is known
of a signal is as it would be if the steps that concern other signals had not been taken. -/
theorem signals_reach_their_waiters (ms : List Move) :
    (∀ (i : Nat) w, (run {} ms).signals.waiters[i]? = some w → w.signal ∈ (run {} ms).ended →
      ((run {} ms).signals.poll i).1 = true ∧ (w.phase = .suspended → w.woken = true) ∧
      ∀ later, (rest i w).Sublist later → ((run {} ms).run later).signals.isFinished i = true) ∧
    (∀ w ∈ (run {} ms).signals.waiters, w.phase = .finished → w.signal ∈ (run {} ms).begun) ∧
    (∀ t g, (run {} ms).signal? t = some g →
      ((run {} ms).signals.isCancelled t = true ↔ g ∈ (run {} ms).begun)) ∧
    ∀ g, (run {} (apart g {} ms)).signals.tokens = (run {} ms).signals.tokens ∧
      (run {} (apart g {} ms)).signals.isRaised g = (run {} ms).signals.isRaised g ∧
      ∀ (i : Nat) (w : Waiter), w.signal = g → ((run {} (apart g {} ms)).signals.waiters[i]? = some w ↔
        (run {} ms).signals.waiters[i]? = some w) := by
  have sound := sound_run ms
  refine ⟨fun i w h ended => ?_, fun w hw finished => (sound.tended w hw).heard (.inl finished), fun t g ht => ?_,
    fun g => ?_⟩
  · refine ⟨poll_of_ended sound h ended, fun suspended => ?_, fun later => isFinished_run sound h ended⟩
    exact (sound.tended w (List.mem_of_getElem? h)).called ended (.inr suspended)
  · rw [← sound.raised, ShutdownSignals.isCancelled, show (run {} ms).signals.tokens[t]? = some g from ht]
    rfl
  · have halike := alike_apart ⟨rfl, rfl, rfl, rfl, rfl, fun i => rel_refl g _⟩ sound_empty sound_empty ms
    exact ⟨halike.tokens.symm, (halike.isRaised sound (sound_run _)).symm, fun i w => halike.getElem?_eq_some_iff i⟩

/-- One waiter has found the flag down before it went up and sleeps only afterwards; the other has enrolled in between,
and looks only after the waiters were woken. -/
theorem signals_reach_their_waiters_racing :
    let ms : List Move := [.create, .clone 0, .wait 0, .wait 1, .enroll 0, .look 0, .raise 1, .enroll 1, .suspend 0, .wake 1]
    (run {} ms).signals.waiters = [⟨0, .suspended, true⟩, ⟨0, .enrolled, true⟩] ∧ (run {} ms).ended = [0] ∧
      ((run {} ms).signals.poll 0).1 = true ∧
      ((run {} ms).run [.look 1, .create, .raise 2, .suspend 1, .wake 2]).signals.isFinished 1 = true := by
  intro ms
  obtain ⟨reach, -⟩ := signals_reach_their_waiters ms
  refine ⟨rfl, rfl, (reach 0 ⟨0, .suspended, true⟩ rfl (by decide)).1, ?_⟩
  exact (reach 1 ⟨0, .enrolled, true⟩ rfl (by decide)).2.2 _ (.cons_cons _ (.cons _ (.cons _ (.cons_cons _ (.cons _ .slnil)))))

end Signalling

end JobLaunch
