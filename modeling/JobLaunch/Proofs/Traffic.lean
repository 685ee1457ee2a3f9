import JobLaunch.Launcher.Call
import JobLaunch.Proofs.Launch
import JobLaunch.Proofs.Monitoring

/-!
# Calls side by side

Several calls may be under way on one launcher. Each of them runs without a break from one wait to the next; between
two such moves any other call, the monitoring loop, or a caller that forgets a step may have its move.

* `Traffic` : a launcher with the calls that are under way on it; `Traffic.call?` : a waiting call;
* `Move` : one move; `Traffic.move`, `Traffic.answer?`, `Traffic.run`, `Traffic.answers`;
* `Sighting` : a snapshot with the identifier that was looked up; `Launcher.sightings` : what a poll records;
* `Fact` : what happens to the entry of a name; `Traffic.facts`, `Traffic.log`.
-/

namespace JobLaunch

/-! ## Facts about entries -/

/-- One look at a step, which is recorded under a name. -/
structure Sighting where
  name : String
  source : Option TrackingId
  fresh : Snapshot
  deriving DecidableEq, Inhabited

/-- The name with its new snapshot. -/
def Sighting.report (s : Sighting) : Report := (s.name, s.fresh)

/-- Something that happens to the entry of a name. -/
inductive Fact where
  | registered (name : String) (entry : Entry)
  | observed (sighting : Sighting)
  | removed (name : String)
  deriving DecidableEq, Inhabited

/-- What an answered query tells of one id. -/
def Scheduler.snapshot : Scheduler → CommandOutput → String → Snapshot
  | pbs _ => PbsListing.snapshot
  | grid _ => GridListing.snapshot

theorem Scheduler.snapshots_eq_map (s : Scheduler) (output : CommandOutput) (ids : List String) :
    s.snapshots output ids = ids.map (s.snapshot output) := by
  cases s <;> rfl

namespace Launcher

def launchFacts (step : Step) : RunProgress → List Fact
  | .done (.ok id) => [.registered step.name (step.entry id)]
  | _ => []

def jobSnapshot (l : Launcher) (answer : Option (Except String CommandOutput)) (id : String) : Snapshot :=
  match l.backend.scheduler?, answer with
  | some s, some (.ok output) => s.snapshot output id
  | _, _ => Snapshot.unknown

/-- What a poll records at its end: first for the managed names, under whose job ids the scheduler was asked, then
for the unmanaged ones, whose tasks are looked up at once. -/
def sightings (l : Launcher) (p : Poll) (answer : Option (Except String CommandOutput)) : List Sighting :=
  (p.queried.map fun q => ⟨q.1, some (.step q.2), l.jobSnapshot answer q.2⟩) ++
    (l.registry.idsOf p.names false).map fun e => ⟨e.1, some e.2, l.unmanagedSnapshot e.2⟩

/-- The poll that a request for names starts. -/
def asked (l : Launcher) (names : List String) : Poll :=
  ⟨names, (l.registry.idsOf names true).map fun e => (e.1, e.2.text)⟩

/-- What the start of a poll records, if it need not wait. -/
def beginSightings (l : Launcher) (names : List String) : List Sighting :=
  match (l.beginPoll names).1 with
  | .done _ => l.sightings (l.asked names) none
  | .waiting _ => []

/-- What a poll records when it goes on. -/
def resumeSightings (l : Launcher) (p : Poll) : Reply → List Sighting
  | .answered answer => l.sightings p (some answer)
  | _ => []

/-- What a stop takes out if it has come to its end. -/
def stopFacts (name : String) : StopProgress → List Fact
  | .done (.ok _) => [.removed name]
  | _ => []

variable {μ : Type}

/-- What a stop records once its job is cancelled. -/
def takeDownSightings (m : Machine μ) (l : Launcher) (name : String) (e : Entry) (w : μ) : List Sighting :=
  let (seen, l', _) := dropTask m l e w
  if e.managed then l'.beginSightings [name]
  else [⟨name, e.trackingId?, (seen.map (·.ofStep)).getD Snapshot.unknown⟩]

def takeDownFacts (m : Machine μ) (l : Launcher) (name : String) (e : Entry) (w : μ) : List Fact :=
  (takeDownSightings m l name e w).map .observed ++ stopFacts name (takeDown m l name e w).1

/-- What the start of a call does to entries. -/
def beginFacts (m : Machine μ) (l : Launcher) (request : Request) (w : μ) : List Fact :=
  match request with
  | .run step => launchFacts step (beginRun m l step w).1
  | .poll names => (l.beginSightings names).map .observed
  | .stop name =>
    match l.registry.get? name with
    | none => []
    | some e =>
      match l.cancelCommand? e with
      | some _ => []
      | none => takeDownFacts m l name e w

/-- What a call does to entries when it goes on. -/
def resumeFacts (m : Machine μ) (l : Launcher) (call : Call) (reply : Reply) (w : μ) : List Fact :=
  match call with
  | .run r => launchFacts r.step (l.resumeRun r reply).1
  | .poll p => (l.resumeSightings p reply).map .observed
  | .stop s =>
    match s.stage, reply with
    | .cancelling _, .answered answer => takeDownFacts m (l.noteCancel s.name answer) s.name s.entry w
    | .cancelling _, _ => []
    | .polling p, reply =>
      (l.resumeSightings p reply).map .observed ++ stopFacts s.name (resumeStop m l s reply w).1

end Launcher

/-! ## Moves -/

/-- A launcher with the calls that are under way on it. -/
structure Traffic (μ : Type) where
  launcher : Launcher
  /-- The calls in the order of their starts; none for one that has come to its end. -/
  calls : List (Option Call) := []
  world : μ

/-- One move of a launcher with calls under way. -/
inductive Move (μ : Type) where
  /-- A caller starts a call, which goes up to its first wait. -/
  | begin (request : Request)
  /-- The wait of a call is over, and it goes up to its next wait. -/
  | resume (call : Nat) (reply : Reply)
  /-- A caller gives up a call that waits. -/
  | giveUp (call : Nat)
  | forget (name : String)
  | watch (watch : Watch)
  | beginShutdown
  | finishShutdown
  /-- The machine changes by itself. -/
  | elsewhere (world : μ)

namespace Progress

variable {σ α : Type}

def call? : Progress σ α → Option σ
  | done _ => none
  | waiting call => some call

/-- The result of a call that has come to its end. -/
def result? : Progress σ α → Option α
  | done result => some result
  | waiting _ => none

theorem call?_eq_some {p : Progress σ α} {call : σ} : p.call? = some call ↔ p = .waiting call := by
  cases p <;> simp [call?]

end Progress

namespace Launcher

variable {μ : Type}

/-- A call is given up while it waits: a launch releases the name of its step, and its submission is killed. -/
def dropCall (m : Machine μ) (l : Launcher) (call : Call) (w : μ) : Launcher × μ :=
  match call with
  | .run r =>
    ({ l with registry := l.registry.release r.step.name },
      match r.stage with
      | .submitting p => m.kill p w
      | _ => w)
  | .poll _ | .stop _ => (l, w)

end Launcher

namespace Traffic

variable {μ : Type}

/-- A launcher on which no call is under way. -/
def quiet (launcher : Launcher) (world : μ) : Traffic μ := { launcher, world }

/-- The waiting call with a number. -/
def call? (S : Traffic μ) (i : Nat) : Option Call := S.calls[i]?.join

/-- A move, with the result of the call that comes to its end. -/
def turn (m : Machine μ) (S : Traffic μ) : Move μ → Option Answer × Traffic μ
  | .begin request =>
    let (p, launcher, world) := Launcher.beginCall m S.launcher request S.world
    (p.result?, { launcher, calls := S.calls ++ [p.call?], world })
  | .resume i reply =>
    match S.call? i with
    | none => (none, S)
    | some call =>
      let (p, launcher, world) := Launcher.resumeCall m S.launcher call reply S.world
      (p.result?, { launcher, calls := S.calls.set i p.call?, world })
  | .giveUp i =>
    match S.call? i with
    | none => (none, S)
    | some call =>
      let (launcher, world) := Launcher.dropCall m S.launcher call S.world
      (none, { launcher, calls := S.calls.set i none, world })
  | .forget name =>
    let (_, launcher, world) := Launcher.forget m S.launcher name S.world
    (none, { S with launcher, world })
  | .watch v => (none, { S with launcher := S.launcher.watch v })
  | .beginShutdown => (none, { S with launcher := S.launcher.beginShutdown.2 })
  | .finishShutdown =>
    let (launcher, world) := Launcher.finishShutdown m S.launcher S.world
    (none, { S with launcher, world })
  | .elsewhere world => (none, { S with world })

theorem turn_resume (m : Machine μ) {S : Traffic μ} {i : Nat} {call : Call} (h : S.call? i = some call)
    (reply : Reply) : S.turn m (.resume i reply) =
      let next := Launcher.resumeCall m S.launcher call reply S.world
      (next.1.result?, { launcher := next.2.1, calls := S.calls.set i next.1.call?, world := next.2.2 }) := by
  unfold turn
  dsimp only
  rw [h]

theorem turn_resume_none (m : Machine μ) {S : Traffic μ} {i : Nat} (h : S.call? i = none) (reply : Reply) :
    S.turn m (.resume i reply) = (none, S) := by
  unfold turn
  dsimp only
  rw [h]

theorem turn_giveUp (m : Machine μ) {S : Traffic μ} {i : Nat} {call : Call} (h : S.call? i = some call) :
    S.turn m (.giveUp i) =
      let next := Launcher.dropCall m S.launcher call S.world
      (none, { launcher := next.1, calls := S.calls.set i none, world := next.2 }) := by
  unfold turn
  dsimp only
  rw [h]

theorem turn_giveUp_none (m : Machine μ) {S : Traffic μ} {i : Nat} (h : S.call? i = none) :
    S.turn m (.giveUp i) = (none, S) := by
  unfold turn
  dsimp only
  rw [h]

def move (m : Machine μ) (S : Traffic μ) (v : Move μ) : Traffic μ := (S.turn m v).2

/-- The result of the call that comes to its end with a move. -/
def answer? (m : Machine μ) (S : Traffic μ) (v : Move μ) : Option Answer := (S.turn m v).1

def facts (m : Machine μ) (S : Traffic μ) : Move μ → List Fact
  | .begin request => Launcher.beginFacts m S.launcher request S.world
  | .resume i reply =>
    match S.call? i with
    | none => []
    | some call => Launcher.resumeFacts m S.launcher call reply S.world
  | .forget name => if S.launcher.registry.contains name then [.removed name] else []
  | .giveUp _ | .watch _ | .beginShutdown | .finishShutdown | .elsewhere _ => []

theorem facts_resume (m : Machine μ) {S : Traffic μ} {i : Nat} {call : Call} (h : S.call? i = some call)
    (reply : Reply) : S.facts m (.resume i reply) = Launcher.resumeFacts m S.launcher call reply S.world := by
  unfold facts
  dsimp only
  rw [h]

theorem facts_resume_none (m : Machine μ) {S : Traffic μ} {i : Nat} (h : S.call? i = none) (reply : Reply) :
    S.facts m (.resume i reply) = [] := by
  unfold facts
  dsimp only
  rw [h]

def run (m : Machine μ) (S : Traffic μ) (vs : List (Move μ)) : Traffic μ := vs.foldl (move m) S

/-- What moves do to entries, in order. -/
def log (m : Machine μ) : Traffic μ → List (Move μ) → List Fact
  | _, [] => []
  | S, v :: vs => S.facts m v ++ log m (S.move m v) vs

/-- The results of the calls that come to their ends with moves. -/
def answers (m : Machine μ) : Traffic μ → List (Move μ) → List Answer
  | _, [] => []
  | S, v :: vs => (S.answer? m v).toList ++ answers m (S.move m v) vs

/-! ## Waiting calls -/

section Slots

variable {α : Type}

theorem slot_concat (xs : List (Option α)) (x : Option α) (j : Nat) :
    (xs ++ [x])[j]?.join = if j = xs.length then x else xs[j]?.join := by
  split
  · next h => rw [h, List.getElem?_concat_length, Option.join_some]
  · next h =>
    rcases Nat.lt_or_ge j xs.length with hlt | hge
    · rw [List.getElem?_append_left hlt]
    · rw [List.getElem?_eq_none (by simp; omega), List.getElem?_eq_none hge]

theorem slot_set {xs : List (Option α)} {i : Nat} {a : α} (h : xs[i]?.join = some a) (x : Option α) (j : Nat) :
    (xs.set i x)[j]?.join = if j = i then x else xs[j]?.join := by
  have hi : i < xs.length := by
    rcases Nat.lt_or_ge i xs.length with hlt | hge
    · exact hlt
    · rw [List.getElem?_eq_none hge] at h
      cases h
  split
  · next hj => rw [hj, List.getElem?_set_self hi, Option.join_some]
  · next hj => rw [List.getElem?_set_ne (Ne.symm hj)]

end Slots

theorem call?_begin (m : Machine μ) (S : Traffic μ) (request : Request) (j : Nat) :
    (S.move m (.begin request)).call? j =
      if j = S.calls.length then (Launcher.beginCall m S.launcher request S.world).1.call? else S.call? j :=
  slot_concat S.calls _ j

theorem call?_resume (m : Machine μ) {S : Traffic μ} {i : Nat} {call : Call} (h : S.call? i = some call)
    (reply : Reply) (j : Nat) : (S.move m (.resume i reply)).call? j =
      if j = i then (Launcher.resumeCall m S.launcher call reply S.world).1.call? else S.call? j := by
  have hmove : (S.move m (.resume i reply)).calls =
      S.calls.set i (Launcher.resumeCall m S.launcher call reply S.world).1.call? := by
    rw [move, turn_resume m h]
  unfold call?
  rw [hmove]
  exact slot_set h _ j

theorem call?_giveUp (m : Machine μ) {S : Traffic μ} {i : Nat} {call : Call} (h : S.call? i = some call) (j : Nat) :
    (S.move m (.giveUp i)).call? j = if j = i then none else S.call? j := by
  have hmove : (S.move m (.giveUp i)).calls = S.calls.set i none := by
    rw [move, turn_giveUp m h]
  unfold call?
  rw [hmove]
  exact slot_set h _ j

def Each (P : Call → Prop) (S : Traffic μ) : Prop := ∀ i call, S.call? i = some call → P call

@[simp] theorem call?_quiet (l : Launcher) (w : μ) (i : Nat) : (quiet l w).call? i = none := by
  simp [call?, quiet]

theorem each_quiet (P : Call → Prop) (l : Launcher) (w : μ) : Each P (quiet l w) := by
  intro i call h
  rw [call?_quiet] at h
  cases h

theorem each_move {m : Machine μ} {P : Call → Prop}
    (begins : ∀ l request w call, (Launcher.beginCall m l request w).1 = .waiting call → P call)
    (goesOn : ∀ l call reply w call', P call → (Launcher.resumeCall m l call reply w).1 = .waiting call' → P call')
    {S : Traffic μ} (h : S.Each P) (v : Move μ) : (S.move m v).Each P := by
  intro j call hj
  cases v with
  | begin request =>
    rw [call?_begin] at hj
    split at hj
    · exact begins _ request _ call (Progress.call?_eq_some.1 hj)
    · exact h j call hj
  | resume i reply =>
    cases hi : S.call? i with
    | none =>
      rw [move, turn_resume_none m hi] at hj
      exact h j call hj
    | some call₀ =>
      rw [call?_resume m hi] at hj
      split at hj
      · exact goesOn _ call₀ reply _ call (h i call₀ hi) (Progress.call?_eq_some.1 hj)
      · exact h j call hj
  | giveUp i =>
    cases hi : S.call? i with
    | none =>
      rw [move, turn_giveUp_none m hi] at hj
      exact h j call hj
    | some call₀ =>
      rw [call?_giveUp m hi] at hj
      split at hj
      · cases hj
      · exact h j call hj
  | forget name => exact h j call hj
  | watch v => exact h j call hj
  | beginShutdown => exact h j call hj
  | finishShutdown => exact h j call hj
  | elsewhere world => exact h j call hj

theorem run_append (m : Machine μ) (S : Traffic μ) (us vs : List (Move μ)) :
    S.run m (us ++ vs) = (S.run m us).run m vs := List.foldl_append

theorem answers_append (m : Machine μ) (S : Traffic μ) (us vs : List (Move μ)) :
    answers m S (us ++ vs) = answers m S us ++ answers m (S.run m us) vs := by
  induction us generalizing S with
  | nil => rfl
  | cons u us ih =>
    show _ ++ answers m (S.move m u) (us ++ vs) = (_ ++ _) ++ _
    rw [ih, List.append_assoc]
    rfl

theorem run_induction {m : Machine μ} {P : Traffic μ → Prop} (step : ∀ S v, P S → P (S.move m v)) {S : Traffic μ}
    (start : P S) (vs : List (Move μ)) : P (S.run m vs) := by
  induction vs generalizing S with
  | nil => exact start
  | cons v vs ih => exact ih (step S v start)

end Traffic

end JobLaunch
