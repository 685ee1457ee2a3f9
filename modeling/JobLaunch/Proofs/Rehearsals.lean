import Mathlib.Data.List.Forall2
import JobLaunch.Proofs.Agreement
import JobLaunch.Rehearsal.Session

/-!
# A rehearsal makes the launcher's own moves

A session tries a launcher out on a host that is only simulated. It decides when the clock goes on, when the tasks are
looked after and which wait is met first; all that it does to the launcher are moves of its traffic. So what is proved of
every run of moves holds of every rehearsal, whatever the programs on the host are.

* `Move.passes` : the moves for which nobody calls; `Traffic.Passes` : such moves, with the answers that they bring;
* `Session.Monitored` : what becomes of a session while time passes; `Session.awaitTask_monitored` : what is seen then;
* `Session.Comes`, `Session.AllCome`, `Session.AllEnd` : how one call comes further, how several do, and their ends;
* `Session.request_run`, `Session.runBoth_run` : calls of a session are runs;
* `Session.request_induction` : what every move keeps, a session keeps.
-/

namespace JobLaunch

/-- Does the move come about while callers wait? -/
def Move.passes {μ : Type} : Move μ → Bool
  | .resume .. | .watch _ | .elsewhere _ => true
  | .begin _ | .giveUp _ | .forget _ | .beginShutdown | .finishShutdown => false

namespace Traffic

variable {μ : Type} {m : Machine μ} {S T U : Traffic μ} {as bs : List Answer}

/-- While callers wait, moves lead from one state to another, and calls come to their ends with these answers. -/
def Passes (m : Machine μ) (S : Traffic μ) (as : List Answer) (T : Traffic μ) : Prop :=
  ∃ vs : List (Move μ), (∀ v ∈ vs, v.passes = true) ∧ S.run m vs = T ∧ answers m S vs = as

theorem Passes.refl (m : Machine μ) (S : Traffic μ) : Passes m S [] S := ⟨[], nofun, rfl, rfl⟩

theorem Passes.trans (h : Passes m S as T) (h' : Passes m T bs U) : Passes m S (as ++ bs) U := by
  obtain ⟨us, hus, rfl, rfl⟩ := h
  obtain ⟨vs, hvs, rfl, rfl⟩ := h'
  refine ⟨us ++ vs, fun v hv => ?_, run_append m S us vs, answers_append m S us vs⟩
  rcases List.mem_append.1 hv with hv | hv
  · exact hus v hv
  · exact hvs v hv

theorem Passes.of_move {v : Move μ} (h : v.passes = true) (S : Traffic μ) :
    Passes m S (S.answer? m v).toList (S.move m v) := by
  refine ⟨[v], fun u hu => ?_, rfl, List.append_nil _⟩
  rw [List.mem_singleton.1 hu]
  exact h

theorem Passes.length_eq (h : Passes m S as T) : T.calls.length = S.calls.length := by
  obtain ⟨vs, hvs, rfl, -⟩ := h
  induction vs generalizing S with
  | nil => rfl
  | cons v vs ih =>
    refine (ih (S := S.move m v) fun u hu => hvs u (List.mem_cons_of_mem v hu)).trans ?_
    have hv := hvs v List.mem_cons_self
    cases v with
    | resume i reply =>
      cases hi : S.call? i with
      | none => rw [move, turn_resume_none m hi]
      | some call => rw [move, turn_resume m hi, List.length_set]
    | watch w => rfl
    | elsewhere w => rfl
    | «begin» request => cases hv
    | giveUp i => cases hv
    | forget name => cases hv
    | beginShutdown => cases hv
    | finishShutdown => cases hv

theorem Passes.watchAll (S : Traffic μ) (ws : List Watch) :
    Passes m S [] { S with launcher := S.launcher.watchAll ws } := by
  induction ws generalizing S with
  | nil => exact .refl m S
  | cons w ws ih => exact (Passes.of_move (v := .watch w) rfl S).trans (ih { S with launcher := S.launcher.watch w })

theorem Passes.resume (l : Launcher) (before after : List (Option Call)) (call : Call) (reply : Reply) (w : μ) :
    Passes m ⟨l, before ++ some call :: after, w⟩ (Launcher.resumeCall m l call reply w).1.result?.toList
      ⟨(Launcher.resumeCall m l call reply w).2.1,
        before ++ (Launcher.resumeCall m l call reply w).1.call? :: after,
        (Launcher.resumeCall m l call reply w).2.2⟩ := by
  have hcall : Traffic.call? ⟨l, before ++ some call :: after, w⟩ before.length = some call := by simp [call?]
  have hset (c : Option Call) : (before ++ some call :: after).set before.length c = before ++ c :: after := by simp
  have hmove := Passes.of_move (m := m) (v := .resume before.length reply) rfl ⟨l, before ++ some call :: after, w⟩
  rw [answer?, move, turn_resume m hcall reply] at hmove
  dsimp only at hmove
  rwa [hset] at hmove

end Traffic

namespace Rehearsal.Session

variable {s s' s'' : Session}

/-! ## Time -/

/-- The launcher of a session with calls that are under way. -/
def traffic (s : Session) (calls : List (Option JobLaunch.Call)) : Traffic Host := ⟨s.launcher, calls, s.host⟩

/-- From one session to the other time has passed, in which the tasks may have been monitored. -/
def Monitored (s s' : Session) : Prop := ∀ calls, Traffic.Passes Host.machine (s.traffic calls) [] (s'.traffic calls)

theorem Monitored.trans (h : Monitored s s') (h' : Monitored s' s'') : Monitored s s'' :=
  fun calls => (h calls).trans (h' calls)

theorem Monitored.refl (s : Session) : Monitored s s := fun _ => .refl _ _

theorem monitored_of_watchAll (ws : List Watch) (h : s'.launcher = s.launcher.watchAll ws) : Monitored s s' := by
  intro calls
  have hwatch : Traffic.Passes Host.machine (s.traffic calls) [] ⟨s.launcher.watchAll ws, calls, s.host⟩ :=
    .watchAll (s.traffic calls) ws
  have helsewhere := Traffic.Passes.of_move (m := Host.machine) (v := .elsewhere s'.host) rfl
    ⟨s.launcher.watchAll ws, calls, s.host⟩
  rw [← h] at hwatch helsewhere
  exact hwatch.trans helsewhere

theorem monitored_of_launcher_eq (h : s'.launcher = s.launcher) : Monitored s s' :=
  monitored_of_watchAll [] h

theorem exists_watchAll_drain (s : Session) : ∃ ws, s.drain.launcher = s.launcher.watchAll ws := by
  unfold drain
  dsimp only
  generalize s.launcher.supervisor.tasks = tasks
  generalize s.launcher = l
  induction tasks generalizing l with
  | nil => exact ⟨[], rfl⟩
  | cons t tasks ih =>
    rw [List.foldl_cons]
    cases s.host.closed? t.2.process with
    | none => exact ih l
    | some exit =>
      obtain ⟨ws, hws⟩ := ih (l.watch (.drain t.1 exit.stdout exit.stderr))
      exact ⟨.drain t.1 exit.stdout exit.stderr :: ws, hws⟩

theorem monitored_drain (s : Session) : Monitored s s.drain := by
  obtain ⟨ws, hws⟩ := exists_watchAll_drain s
  exact monitored_of_watchAll ws hws

theorem monitored_advance (s : Session) (time : Nat) : Monitored s (s.advance time) := by
  have hhost : Monitored s { s with host := s.host.goOn time } := monitored_of_launcher_eq rfl
  exact hhost.trans (monitored_drain _)

theorem monitored_look (s : Session) (time : Nat) : Monitored s (s.look time) := by
  have hscan (v : Session) (answers : List (TaskId × Liveness)) (nextScan : Option Nat) :
      Monitored v { v with launcher := v.launcher.watch (.scan answers), nextScan } :=
    monitored_of_watchAll [.scan answers] rfl
  exact (monitored_advance s time).trans ((hscan _ _ _).trans (monitored_drain _))

theorem monitored_passTo (s : Session) (time : Nat) : Monitored s (s.passTo time) := by
  unfold passTo
  split
  · split
    · exact monitored_look s _
    · exact monitored_advance s time
  · exact monitored_advance s time

/-- What is awaited is seen in the end or not at all, and meanwhile time passes. -/
theorem passWithin_monitored {α : Type} {f : Session → Option α × Session} (looks : ∀ s, (f s).2 = s) (limit fuel : Nat)
    (s : Session) : Monitored s (passWithin f limit fuel s).2 ∧
      ∀ a, (passWithin f limit fuel s).1 = some a → (f (passWithin f limit fuel s).2).1 = some a := by
  induction fuel generalizing s with
  | zero =>
    have hstays : (passWithin f limit 0 s).2 = s := looks s
    rw [hstays]
    exact ⟨.refl s, fun a ha => ha⟩
  | succ fuel ih =>
    have hlook := looks s
    rw [passWithin]
    cases hf : f s with
    | mk found s₁ =>
      rw [hf] at hlook
      subst hlook
      cases found with
      | some a => exact ⟨.refl _, fun b hb => by rw [hf]; exact hb⟩
      | none =>
        dsimp only
        split
        · split
          · exact ⟨.refl _, nofun⟩
          · next time _ _ =>
            obtain ⟨hmonitored, hfound⟩ := ih (s₁.passTo time)
            exact ⟨(monitored_passTo s₁ time).trans hmonitored, hfound⟩
        · exact ⟨.refl _, nofun⟩

/-- What is seen by someone who waits for a task: the task as it was to be, or that it is not tracked. -/
def seen? (id : TaskId) (p : TaskSnapshot → Bool) (s : Session) : Option (Option TaskSnapshot) :=
  (s.launcher.supervisor.update? id).elim (some none) fun t => if p t then some (some t) else none

theorem awaitTask_eq (s : Session) (id : TaskId) (p : TaskSnapshot → Bool) :
    s.awaitTask id p = passUntil (fun s => (seen? id p s, s)) s := by
  refine congrArg (passUntil · s) (funext fun s => ?_)
  unfold seen?
  cases s.launcher.supervisor.update? id <;> rfl

theorem eq_of_seen? {id : TaskId} {p : TaskSnapshot → Bool} {seen : Option TaskSnapshot} (h : seen? id p s = some seen) :
    s.launcher.supervisor.update? id = seen ∧ seen.all p = true := by
  unfold seen? at h
  cases hupdate : s.launcher.supervisor.update? id with
  | none =>
    rw [hupdate] at h
    cases h
    exact ⟨rfl, rfl⟩
  | some t =>
    rw [hupdate, Option.elim_some] at h
    split at h
    · next hp =>
      cases h
      exact ⟨rfl, hp⟩
    · cases h

/-- Whoever waits for a task sees it as it is tracked in the end, and as it was to be; or sees that it is not tracked. -/
theorem awaitTask_monitored (s : Session) (id : TaskId) (p : TaskSnapshot → Bool) :
    Monitored s (s.awaitTask id p).2 ∧
      ∀ seen, (s.awaitTask id p).1 = some seen →
        (s.awaitTask id p).2.launcher.supervisor.update? id = seen ∧ seen.all p = true := by
  rw [awaitTask_eq]
  obtain ⟨hmonitored, hfound⟩ :=
    passWithin_monitored (f := fun s => (seen? id p s, s)) (fun _ => rfl) (s.host.now + longestWait) mostEvents s
  exact ⟨hmonitored, fun seen hseen => eq_of_seen? (hfound seen hseen)⟩

theorem launcher_noteLoop (s : Session) : s.noteLoop.launcher = s.launcher := by
  unfold noteLoop
  split <;> rfl

theorem launcher_beginWait (s : Session) (w : Wait) : (s.beginWait w).2.launcher = s.launcher := by
  cases w with
  | pause ms =>
    unfold beginWait
    dsimp only
    split
    · rfl
    · split <;> rfl
  | command c =>
    unfold beginWait
    dsimp only
    split
    · rfl
    · unfold startCommand
      generalize Host.spawn _ s.host = started
      obtain ⟨_ | _, _⟩ := started <;> rfl
  | process p => rfl

/-! ## Calls -/

/-- A call of a session as it is under way on the launcher. One for which too much has happened is lost sight of. -/
inductive Tracks : Option Ongoing → Option JobLaunch.Call → Prop
  | done (a : Answer) : Tracks (some (.done a)) none
  | waiting (c : JobLaunch.Call) (pending : Pending) : Tracks (some (.waiting c pending)) (some c)
  | lost (c : Option JobLaunch.Call) : Tracks none c

/-- From one session to the other a call has come from one point to another, and the others have stayed where they were.
-/
def Comes (before after : List (Option JobLaunch.Call)) (s : Session) (c : Option JobLaunch.Call) (a : Option Answer)
    (o : Option Ongoing) (s' : Session) : Prop :=
  ∃ as c', Traffic.Passes Host.machine (s.traffic (before ++ c :: after)) as (s'.traffic (before ++ c' :: after)) ∧
    Tracks o c' ∧ a.toList ++ as = (answer? o).toList

theorem settleWithin_comes (before after : List (Option JobLaunch.Call)) (fuel : Nat) (p : Launcher.CallProgress)
    (s : Session) :
    Comes before after s p.call? p.result? (settleWithin fuel (p, s)).1 (settleWithin fuel (p, s)).2 := by
  induction fuel generalizing p s with
  | zero =>
    cases p with
    | done a => exact ⟨[], none, .refl _ _, .done a, rfl⟩
    | waiting c => exact ⟨[], some c, .refl _ _, .lost _, rfl⟩
  | succ fuel ih =>
    cases p with
    | done a => exact ⟨[], none, .refl _ _, .done a, rfl⟩
    | waiting c =>
      have hlauncher := launcher_beginWait s (s.launcher.callWait c)
      rw [settleWithin]
      generalize s.beginWait (s.launcher.callWait c) = begun at hlauncher
      obtain ⟨reply | pending, s₁⟩ := begun
      · have hbegun : Monitored s s₁ := monitored_of_launcher_eq hlauncher
        have hresumed := Traffic.Passes.resume (m := Host.machine) s₁.launcher before after c reply s₁.host
        dsimp only
        generalize Launcher.resumeCall Host.machine s₁.launcher c reply s₁.host = next at hresumed
        obtain ⟨p, launcher, host⟩ := next
        obtain ⟨as, c', hpasses, htracks, hanswers⟩ := ih p { s₁ with launcher, host }
        exact ⟨_, c', (hbegun _).trans (hresumed.trans hpasses), htracks, hanswers⟩
      · exact ⟨[], some c, monitored_of_launcher_eq hlauncher _, .waiting c pending, rfl⟩

theorem begin_comes (request : Request) (s : Session) (calls : List (Option JobLaunch.Call)) :
    ∃ as c, Traffic.Passes Host.machine ((s.traffic calls).move Host.machine (.begin request)) as
        ((s.begin request).2.traffic (calls ++ [c])) ∧
      Tracks (s.begin request).1 c ∧
      ((s.traffic calls).answer? Host.machine (.begin request)).toList ++ as =
        (answer? (s.begin request).1).toList := by
  show ∃ as c, Traffic.Passes Host.machine
    ⟨(Launcher.beginCall Host.machine s.launcher request s.host).2.1,
      calls ++ [(Launcher.beginCall Host.machine s.launcher request s.host).1.call?],
      (Launcher.beginCall Host.machine s.launcher request s.host).2.2⟩ as _ ∧ _ ∧
    (Launcher.beginCall Host.machine s.launcher request s.host).1.result?.toList ++ as = _
  unfold begin
  generalize Launcher.beginCall Host.machine s.launcher request s.host = next
  obtain ⟨p, launcher, host⟩ := next
  dsimp only
  have hnote : Monitored { s with launcher, host } { s with launcher, host }.noteLoop :=
    monitored_of_launcher_eq (launcher_noteLoop _)
  obtain ⟨as, c, hpasses, htracks, hanswers⟩ :=
    settleWithin_comes calls [] (mostWaits { s with launcher, host }.noteLoop) p
      { s with launcher, host }.noteLoop
  exact ⟨as, c, (hnote _).trans hpasses, htracks, hanswers⟩

theorem goOn_comes {o : Option Ongoing} {c : Option JobLaunch.Call} (h : Tracks o c)
    (before after : List (Option JobLaunch.Call)) (s : Session) :
    Comes before after s c (answer? o) (goOn o s).1 (goOn o s).2 := by
  cases h with
  | done a => exact ⟨[], none, .refl _ _, .done a, rfl⟩
  | lost c => exact ⟨[], c, .refl _ _, .lost c, rfl⟩
  | waiting c pending =>
    rw [goOn]
    cases s.met? pending with
    | none => exact ⟨[], some c, .refl _ _, .waiting c pending, rfl⟩
    | some reply =>
      have hresumed := Traffic.Passes.resume (m := Host.machine) s.launcher before after c reply s.host
      dsimp only
      generalize Launcher.resumeCall Host.machine s.launcher c reply s.host = next at hresumed
      obtain ⟨p, launcher, host⟩ := next
      obtain ⟨as, c', hpasses, htracks, hanswers⟩ :=
        settleWithin_comes before after (mostWaits { s with launcher, host }) p
          { s with launcher, host }
      exact ⟨_, c', hresumed.trans hpasses, htracks, hanswers⟩

/-! ## Calls side by side -/

/-- From one session to the other some calls have come further, and those of them that have come to their ends have given
their answers. -/
def AllCome (s : Session) (cs : List (Option JobLaunch.Call)) (answered : List Answer) (os : List (Option Ongoing))
    (s' : Session) : Prop :=
  ∃ as cs', Traffic.Passes Host.machine (s.traffic cs) as (s'.traffic cs') ∧ List.Forall₂ Tracks os cs' ∧
    (answered ++ as).Perm (os.filterMap answer?)

theorem filterMap_answer?_cons (o : Option Ongoing) (os : List (Option Ongoing)) :
    (o :: os).filterMap answer? = (answer? o).toList ++ os.filterMap answer? := by
  rw [List.filterMap_cons]
  cases answer? o <;> rfl

theorem goOnAll_comes {os : List (Option Ongoing)} {cs : List (Option JobLaunch.Call)} (h : List.Forall₂ Tracks os cs)
    (s : Session) : AllCome s cs (os.filterMap answer?) (goOnAll os s).1 (goOnAll os s).2 := by
  -- the calls that have had their turn stand in front of the others
  suffices hfrom : ∀ (had : List (Option Ongoing)) (before : List (Option JobLaunch.Call)) (s : Session),
      List.Forall₂ Tracks had before →
        let next := os.foldl (fun (r : List (Option Ongoing) × Session) o =>
          (r.1 ++ [(goOn o r.2).1], (goOn o r.2).2)) (had, s)
        AllCome s (before ++ cs) ((had ++ os).filterMap answer?) next.1 next.2 from hfrom [] [] s .nil
  induction h with
  | nil =>
    intro had before s hhad
    refine ⟨[], before, ?_, hhad, ?_⟩
    · rw [List.append_nil]
      exact .refl _ _
    · rw [List.append_nil, List.append_nil]
      exact .refl _
  | cons htracks hrest ih =>
    intro had before s hhad
    obtain ⟨as, c', hpasses, htracks', hanswers⟩ := goOn_comes htracks before _ s
    obtain ⟨bs, cs', hpasses', hall, hperm⟩ :=
      ih (had ++ [_]) (before ++ [c']) _ (List.rel_append hhad (.cons htracks' .nil))
    rw [List.append_assoc, List.singleton_append] at hpasses'
    refine ⟨as ++ bs, cs', hpasses.trans hpasses', hall, .trans ?_ hperm⟩
    rw [List.append_assoc, List.singleton_append, List.filterMap_append, List.filterMap_append, filterMap_answer?_cons,
      filterMap_answer?_cons, ← hanswers]
    simp only [List.append_assoc]
    exact (((List.perm_append_comm_assoc _ as bs).append_left _).append_left _)

/-- From one session to the other calls have come to their ends with answers, but for those that are given no answer. -/
def AllEnd (s : Session) (cs : List (Option JobLaunch.Call)) (answered : List Answer) (answers : List (Option Answer))
    (s' : Session) : Prop :=
  ∃ as cs', Traffic.Passes Host.machine (s.traffic cs) as (s'.traffic cs') ∧
    List.Forall₂ (fun a c => a.isSome = true → c = none) answers cs' ∧ (answered ++ as).Perm (answers.filterMap id)

variable {os : List (Option Ongoing)} {cs : List (Option JobLaunch.Call)}

theorem allEnd_now (h : List.Forall₂ Tracks os cs) (s : Session) :
    AllEnd s cs (os.filterMap answer?) (os.map answer?) s := by
  refine ⟨[], cs, .refl _ _, ?_, ?_⟩
  · rw [List.forall₂_map_left_iff]
    refine h.imp fun o c hoc hsome => ?_
    cases hoc with
    | done a => rfl
    | waiting c pending => cases hsome
    | lost c => cases hsome
  · rw [List.append_nil, List.filterMap_map]
    exact .refl _

theorem finishWithin_allEnd (fuel : Nat) (h : List.Forall₂ Tracks os cs) (s : Session) :
    AllEnd s cs (os.filterMap answer?) (finishWithin fuel os s).1 (finishWithin fuel os s).2 := by
  induction fuel generalizing os cs s with
  | zero => exact allEnd_now h s
  | succ fuel ih =>
    rw [finishWithin]
    split
    · exact allEnd_now h s
    · dsimp only
      split
      · exact allEnd_now h s
      · next time _ =>
        obtain ⟨as, cs', hpasses, hall, hperm⟩ := goOnAll_comes h (s.passTo (max time s.host.now))
        generalize goOnAll os (s.passTo (max time s.host.now)) = next at hpasses hall hperm
        obtain ⟨os', s'⟩ := next
        obtain ⟨bs, cs'', hpasses', hended, hperm'⟩ := ih hall s'
        refine ⟨as ++ bs, cs'', ((monitored_passTo s _) cs).trans (hpasses.trans hpasses'), hended, ?_⟩
        rw [← List.append_assoc]
        exact (hperm.append_right bs).trans hperm'

/-- **A call of a session is a run.** The caller calls, and then nobody does: the launcher's own moves bring the call to
its end, if the session gives an answer, and the answer is the one that they bring. -/
theorem request_run (s : Session) (request : Request) :
    ∃ vs c, (∀ v ∈ vs, v.passes = true) ∧
      (s.traffic []).run Host.machine (.begin request :: vs) = (s.request request).2.traffic [c] ∧
      Traffic.answers Host.machine (s.traffic []) (.begin request :: vs) =
        (s.request request).1.toList ∧
      ((s.request request).1.isSome = true → c = none) := by
  obtain ⟨as, c, hbegin, htracks, hanswers⟩ := begin_comes request s []
  unfold Session.request
  generalize s.begin request = begun at hbegin htracks hanswers
  obtain ⟨o, s₁⟩ := begun
  obtain ⟨bs, cs, hfinish, hended, hperm⟩ := finishWithin_allEnd mostEvents (.cons htracks .nil) s₁
  dsimp only
  generalize finishWithin mostEvents [o] s₁ = finished at hfinish hended hperm
  obtain ⟨answers, s₂⟩ := finished
  obtain ⟨c', rfl⟩ : ∃ c', cs = [c'] := List.length_eq_one_iff.1 hfinish.length_eq
  cases hended with
  | @cons a _ _ _ hend hnil =>
    cases hnil
    obtain ⟨vs, hvs, hrun, hgiven⟩ := hbegin.trans hfinish
    have heq : (answer? o).toList ++ bs = a.toList := by
      rw [filterMap_answer?_cons, List.append_assoc, List.filterMap_nil, List.nil_append] at hperm
      cases a with
      | none => exact List.Perm.eq_nil hperm
      | some a => exact List.perm_singleton.1 hperm
    refine ⟨vs, c', hvs, hrun, ?_, hend⟩
    rw [Traffic.answers, hgiven, ← List.append_assoc, hanswers, heq]
    rfl

/-- **What every move keeps, every call of a session keeps.** -/
theorem request_induction {P : Traffic Host → Prop} (step : ∀ S v, P S → P (S.move Host.machine v)) (s : Session)
    (start : P (s.traffic [])) (request : Request) : ∃ c, P ((s.request request).2.traffic [c]) := by
  obtain ⟨vs, c, -, hrun, -, -⟩ := request_run s request
  exact ⟨c, hrun ▸ Traffic.run_induction step start (.begin request :: vs)⟩

/-- Whatever programs run on the host, status and return code go on to agree. -/
theorem request_agrees {s : Session} (h : s.launcher.Agrees) (request : Request) :
    (s.request request).2.launcher.Agrees := by
  have step : ∀ (S : Traffic Host) v, S.launcher.Agrees → (S.move Host.machine v).launcher.Agrees :=
    fun S v hS => Traffic.agrees_move hS v
  obtain ⟨c, hc⟩ := request_induction step s h request
  exact hc

/-- **Two launches that are under way together** are a run with two calls, of which the second comes while the first is
under way or just after it. -/
theorem runBoth_run (s : Session) (first second : Step) :
    ∃ us vs cs, (∀ v ∈ us ++ vs, v.passes = true) ∧
      (s.traffic []).run Host.machine (.begin (.run first) :: us ++ .begin (.run second) :: vs) =
        (s.runBoth first second).2.2.traffic cs ∧
      (Traffic.answers Host.machine (s.traffic [])
        (.begin (.run first) :: us ++ .begin (.run second) :: vs)).Perm
        ((s.runBoth first second).1.toList ++ (s.runBoth first second).2.1.toList) := by
  obtain ⟨as, c, ⟨us, hus, hrun, hgiven⟩, htracks, hanswers⟩ := begin_comes (.run first) s []
  unfold Session.runBoth
  generalize s.begin (.run first) = begun at hrun htracks hanswers
  obtain ⟨o, s₁⟩ := begun
  obtain ⟨as', c', hbegin', htracks', hanswers'⟩ := begin_comes (.run second) s₁ [c]
  dsimp only
  generalize s₁.begin (.run second) = begun at hbegin' htracks' hanswers'
  obtain ⟨o', s₂⟩ := begun
  obtain ⟨bs, cs, hfinish, hended, hperm⟩ := finishWithin_allEnd mostEvents (.cons htracks (.cons htracks' .nil)) s₂
  dsimp only
  generalize finishWithin mostEvents [o, o'] s₂ = finished at hfinish hended hperm
  obtain ⟨answers, s₃⟩ := finished
  obtain ⟨vs, hvs, hrun', hgiven'⟩ := hbegin'.trans hfinish
  obtain ⟨a, a', rfl⟩ : ∃ a a', answers = [a, a'] :=
    List.length_eq_two.1 (hended.length_eq.trans hfinish.length_eq)
  have hfirst : (s.traffic []).run Host.machine (.begin (.run first) :: us) = s₁.traffic [c] := hrun
  refine ⟨us, vs, cs, fun v hv => ?_, ?_, ?_⟩
  · rcases List.mem_append.1 hv with hv | hv
    · exact hus v hv
    · exact hvs v hv
  · rw [Traffic.run_append, hfirst]
    exact hrun'
  · rw [Traffic.answers_append, hfirst, Traffic.answers, Traffic.answers, hgiven, hgiven', ← List.append_assoc _ as' bs,
      hanswers, hanswers']
    have hgoal : (List.filterMap answer? [o, o'] ++ bs).Perm (a.toList ++ a'.toList) := by
      have hpair : List.filterMap id [a, a'] = a.toList ++ a'.toList := by cases a <;> cases a' <;> rfl
      exact hpair ▸ hperm
    rwa [filterMap_answer?_cons, filterMap_answer?_cons, List.filterMap_nil, List.append_nil, List.append_assoc] at hgoal

end Rehearsal.Session

end JobLaunch
