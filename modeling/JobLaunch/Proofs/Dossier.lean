import JobLaunch.Proofs.Bookkeeping

/-!
# What a call tells

What a call tells can be read off what it was asked, what it has waited for, and what it answers.

* `Dossier` : what is kept of a call; `Dossier.Describes` : the dossier of a waiting call;
* `Finished` : a call that has come to its end; `Finished.notices` : what it tells;
* `Launcher.Goes` : a call tells what its dossier says at its end, and nothing before;
* `Launcher.goes_beginCall`, `Launcher.goes_resumeCall` : so do all calls.
-/

namespace JobLaunch

/-! ## Dossiers -/

def Wait.fits : Wait → Reply → Bool
  | .pause _, .paused | .command _, .answered _ | .process _, .ended _ | .process _, .failed _ => true
  | .pause _, _ | .command _, _ | .process _, _ => false

def Wait.isListing (backend : Backend) (wait : Wait) : Bool :=
  backend.scheduler?.any fun s => wait = .command s.listingCommand

namespace Wait

@[simp] theorem isListing_process (backend : Backend) (p : ProcessId) : (process p).isListing backend = false := by
  cases h : backend.scheduler? <;> simp [isListing, h]

@[simp] theorem isListing_pause (backend : Backend) (milliseconds : Nat) :
    (pause milliseconds).isListing backend = false := by
  cases h : backend.scheduler? <;> simp [isListing, h]

theorem isListing_command {backend : Backend} {scheduler : Scheduler} (h : backend.scheduler? = some scheduler) :
    (command scheduler.listingCommand).isListing backend = true := by
  simp [isListing, h]

end Wait

/-- A submission has succeeded without printing a job id. -/
def Reply.isMute (backend : Backend) : Reply → Bool
  | .ended exit => exitCode? exit.status = some 0 &&
      (backend.scheduler?.bind (·.submittedId? (Utf8.text exit.stdout))).isNone
  | .paused | .answered _ | .failed _ => false

/-- What is kept of a call. -/
structure Dossier where
  request : Request
  /-- What was registered under the name of a stop when the call began. -/
  found : Option Entry := none
  /-- The waits of the call that are over, each with what the call was told. -/
  course : List (Wait × Reply) := []
  deriving Inhabited

namespace Dossier

/-- The dossier of a call that begins. -/
def new (l : Launcher) : Request → Dossier
  | .run step => { request := .run step }
  | .poll names => { request := .poll names }
  | .stop name => { request := .stop name, found := l.registry.get? name }

/-- The dossier after a wait; a reply to another kind of wait is not noted. -/
def after (d : Dossier) (wait : Wait) (reply : Reply) : Dossier :=
  if wait.fits reply then { d with course := d.course ++ [(wait, reply)] } else d

/-- How many listings the call has made. -/
def listings (backend : Backend) (d : Dossier) : Nat := d.course.countP (·.1.isListing backend)

/-- Has its submission succeeded without printing a job id? -/
def isMute (backend : Backend) (d : Dossier) : Bool := d.course.any (·.2.isMute backend)

/-- The dossier of a waiting call. A launch that waits for its submission has nothing behind it; one that searches has
made one listing less than the one that is due, and has not made all. -/
def Describes (l : Launcher) (d : Dossier) : Call → Prop
  | .run r => d.request = .run r.step ∧ r.step.managed = true ∧ l.backend.scheduler? = some r.scheduler ∧
      match r.stage with
      | .submitting _ => d.course = []
      | .pausing attempt | .listing attempt => d.isMute l.backend = true ∧ attempt = d.listings l.backend + 1 ∧
        attempt ≤ l.config.idResolution.attempts.toNat
  | .poll _ => ∃ names, d.request = .poll names
  | .stop s => d.request = .stop s.name ∧ d.found = some s.entry

/-- An answer to what was asked: a launch tells an identifier of the kind that its step has, and a stop only succeeds if
it has found something. -/
inductive Answered (d : Dossier) : Answer → Prop
  | launched {step : Step} {id : StepIdentifier} (asked : d.request = .run step) (fits : step.Fits id) :
    Answered d (.launched (.ok id))
  | refused {step : Step} (asked : d.request = .run step) (e : LaunchError) : Answered d (.launched (.error e))
  | polled {names : List String} (asked : d.request = .poll names) (reports : List Report) : Answered d (.polled reports)
  | stopped {name : String} {e : Entry} (asked : d.request = .stop name) (found : d.found = some e) (last : Snapshot) :
    Answered d (.stopped (.ok last))
  | unstopped {name : String} (asked : d.request = .stop name) (e : LaunchError) : Answered d (.stopped (.error e))

variable {l l' : Launcher} {d : Dossier}

theorem after_of_fits {wait : Wait} {reply : Reply} (h : wait.fits reply = true) :
    d.after wait reply = { d with course := d.course ++ [(wait, reply)] } := if_pos h

theorem after_of_not_fits {wait : Wait} {reply : Reply} (h : wait.fits reply = false) : d.after wait reply = d :=
  if_neg (Bool.eq_false_iff.1 h)

@[simp] theorem request_after (d : Dossier) (wait : Wait) (reply : Reply) :
    (d.after wait reply).request = d.request := by
  unfold after
  split <;> rfl

@[simp] theorem found_after (d : Dossier) (wait : Wait) (reply : Reply) : (d.after wait reply).found = d.found := by
  unfold after
  split <;> rfl

theorem listings_append (backend : Backend) (d : Dossier) (wait : Wait) (reply : Reply) :
    listings backend { d with course := d.course ++ [(wait, reply)] } =
      d.listings backend + if wait.isListing backend then 1 else 0 := by
  rw [listings, List.countP_append, List.countP_singleton]
  rfl

theorem Describes.congr (backend : l'.backend = l.backend) (config : l'.config = l.config) {call : Call}
    (h : d.Describes l call) : d.Describes l' call := by
  cases call with
  | run r =>
    unfold Describes at h ⊢
    rw [backend, config]
    exact h
  | poll p => exact h
  | stop s => exact h

end Dossier

/-! ## Ends of calls -/

/-- A call that has come to its end. -/
structure Finished where
  dossier : Dossier
  answer : Answer

namespace Finished

def launch? (x : Finished) : Option (Step × StepIdentifier) :=
  match x.dossier.request, x.answer with
  | .run step, .launched (.ok id) => some (step, id)
  | _, _ => none

/-- The name that it has stopped, with what was registered. -/
def stop? (x : Finished) : Option (String × Entry) :=
  match x.dossier.request, x.dossier.found, x.answer with
  | .stop name, some e, .stopped (.ok _) => some (name, e)
  | _, _, _ => none

def isSubmissionFailed (x : Finished) : Bool :=
  match x.answer with
  | .launched (.error e) => e.isSubmissionFailed
  | _ => false

/-- The search for a job id that it has made: how many listings, and whether the launch has succeeded. -/
def search? (backend : Backend) (x : Finished) : Option (Nat × Bool) :=
  match x.answer with
  | .launched result => if x.dossier.isMute backend then some (x.dossier.listings backend, result.isOk) else none
  | _ => none

def notices (backend : Backend) (x : Finished) : List Notice :=
  (x.search? backend).toList.map (fun s => .searched s.1 s.2) ++ x.launch?.toList.map (fun s => .launched s.1 s.2) ++
    x.stop?.toList.map (fun s => .cancelled s.1 s.2.managed) ++
      if x.isSubmissionFailed then [.submissionFailed] else []

variable {backend : Backend} {d : Dossier}

/-- What a launch tells of its search. -/
def searchNotices (backend : Backend) (d : Dossier) (resolved : Bool) : List Notice :=
  if d.isMute backend then [.searched (d.listings backend) resolved] else []

theorem notices_launched {step : Step} (h : d.request = .run step) (id : StepIdentifier) :
    notices backend ⟨d, .launched (.ok id)⟩ = searchNotices backend d true ++ [.launched step id] := by
  cases hmute : d.isMute backend <;> simp [notices, searchNotices, search?, launch?, stop?, isSubmissionFailed, h, hmute,
    Except.isOk, Except.toBool]

theorem notices_refused {e : LaunchError} (h : e.isSubmissionFailed = false) :
    notices backend ⟨d, .launched (.error e)⟩ = searchNotices backend d false := by
  cases hmute : d.isMute backend <;> simp [notices, searchNotices, search?, launch?, stop?, isSubmissionFailed, h,
    hmute, Except.isOk, Except.toBool]

theorem notices_submissionFailed (plain : d.isMute backend = false) {e : LaunchError}
    (h : e.isSubmissionFailed = true) : notices backend ⟨d, .launched (.error e)⟩ = [.submissionFailed] := by
  simp [notices, search?, launch?, stop?, isSubmissionFailed, h, plain]

theorem notices_stopped {name : String} {e : Entry} (asked : d.request = .stop name) (found : d.found = some e)
    (last : Snapshot) : notices backend ⟨d, .stopped (.ok last)⟩ = [.cancelled name e.managed] := by
  simp [notices, search?, launch?, stop?, isSubmissionFailed, asked, found]

theorem notices_polled (d : Dossier) (reports : List Report) : notices backend ⟨d, .polled reports⟩ = [] := by
  obtain ⟨request, found, course⟩ := d
  cases request <;> cases found <;> rfl

theorem notices_unstopped (d : Dossier) (e : LaunchError) : notices backend ⟨d, .stopped (.error e)⟩ = [] := by
  obtain ⟨request, found, course⟩ := d
  cases request <;> cases found <;> rfl

end Finished

/-! ## How calls go -/

namespace Launcher

/-- How a call with a dossier goes: it waits and has told nothing, or it has come to its end and told what its dossier
says. -/
inductive Goes (l l' : Launcher) (d : Dossier) : CallProgress → Prop
  | waits (call : Call) (told : l.Tells [] l') (described : d.Describes l' call) : Goes l l' d (.waiting call)
  | ends (answer : Answer) (told : l.Tells (Finished.notices l.backend ⟨d, answer⟩) l') (own : d.Answered answer) :
    Goes l l' d (.done answer)

variable {l : Launcher} {d : Dossier} {step : Step} {scheduler : Scheduler}

theorem goes_abandon (launches : d.request = .run step) {l' : Launcher} {e : LaunchError}
    (told : l.Tells (Finished.notices l.backend ⟨d, .launched (.error e)⟩) l') :
    l.Goes (l'.abandon step e).2 d ((ended (l'.abandon step e)).1.map .run .launched) := by
  refine .ends (.launched (.error e)) ?_ (.refused launches e)
  rw [← List.append_nil (Finished.notices ..)]
  exact told.trans (.of_registry l' _)

theorem goes_complete (launches : d.request = .run step) (managed : step.managed = true) {l' : Launcher}
    (told : l.Tells (Finished.searchNotices l.backend d true) l') (job : String) :
    l.Goes (l'.complete step (.scheduler job)).2 d
      ((ended (l'.complete step (.scheduler job))).1.map .run .launched) := by
  obtain ⟨hok, hlaunched⟩ := tells_complete l' managed job
  show l.Goes _ d (.done (.launched (l'.complete step (.scheduler job)).1))
  rw [hok]
  refine .ends _ ?_ (.launched launches managed)
  rw [Finished.notices_launched launches]
  exact told.trans hlaunched

theorem goes_unwaited (launches : d.request = .run step) {p : ProcessId} {source : OsError}
    (course : d.course = [(.process p, .failed source)]) (command : String) :
    l.Goes (l.abandon step (.spawn command source)).2 d
      ((ended (l.abandon step (.spawn command source))).1.map .run .launched) := by
  have plain : d.isMute l.backend = false := by
    rw [Dossier.isMute, course]
    rfl
  refine goes_abandon launches ?_
  rw [Finished.notices_refused rfl, Finished.searchNotices, plain]
  exact .refl l

section Launches

variable (launches : d.request = .run step) (managed : step.managed = true)
  (owner : l.backend.scheduler? = some scheduler)
include launches managed owner

theorem goes_search (mute : d.isMute l.backend = true) {looked : Nat} (counted : d.listings l.backend = looked)
    (within : looked ≤ l.config.idResolution.attempts.toNat) :
    l.Goes (l.search step scheduler looked).2 d ((l.search step scheduler looked).1.map .run .launched) := by
  unfold search
  dsimp only
  split
  · next hmore =>
    exact .waits _ (.refl l) ⟨launches, managed, owner, mute, by rw [counted], Nat.succ_le_of_lt hmore⟩
  · next hall =>
    -- as many listings have been made as are made at most
    have hlooked : l.config.idResolution.attempts.toNat = d.listings l.backend := by omega
    refine goes_abandon launches ?_
    rw [Finished.notices_refused rfl, Finished.searchNotices, if_pos mute, ← hlooked]
    exact .of_same rfl rfl rfl (Reporter.tells_idResolution ..) fun _ => rfl

theorem goes_listed (mute : d.isMute l.backend = true) {attempt : Nat} (counted : d.listings l.backend = attempt)
    (within : attempt ≤ l.config.idResolution.attempts.toNat) (answer : Except String CommandOutput) :
    l.Goes (l.listed step scheduler attempt answer).2 d
      ((l.listed step scheduler attempt answer).1.map .run .launched) := by
  unfold listed
  split
  · split
    · next job _ =>
      refine goes_complete launches managed ?_ job
      rw [Finished.searchNotices, if_pos mute, counted]
      exact .of_same rfl rfl rfl (Reporter.tells_idResolution ..) fun _ => rfl
    · exact goes_search launches managed owner mute counted within
  · exact goes_search launches managed owner mute counted within

theorem goes_submitted {p : ProcessId} {exit : Exit} (course : d.course = [(.process p, .ended exit)]) :
    l.Goes (l.submitted step scheduler exit).2 d
      ((l.submitted step scheduler exit).1.map .run .launched) := by
  have hmute : d.isMute l.backend = Reply.isMute l.backend (.ended exit) := by
    rw [Dossier.isMute, course]
    exact Bool.or_false _
  have hlistings : d.listings l.backend = 0 := by
    simp [Dossier.listings, course]
  rw [Reply.isMute, owner, Option.bind_some] at hmute
  unfold submitted
  dsimp only
  split
  · next hcode =>
    rw [decide_eq_true hcode, Bool.true_and] at hmute
    split
    · next job hjob =>
      rw [hjob] at hmute
      refine goes_complete launches managed ?_ job
      rw [Finished.searchNotices, hmute, Option.isNone_some, if_neg Bool.false_ne_true]
      exact .refl l
    · next hnone =>
      rw [hnone] at hmute
      exact goes_search launches managed owner hmute hlistings (Nat.zero_le _)
  · next hcode =>
    rw [decide_eq_false hcode, Bool.false_and] at hmute
    refine goes_abandon launches ?_
    rw [Finished.notices_submissionFailed hmute rfl]
    exact .of_same rfl rfl rfl (Reporter.tells_submissionFailed ..) fun _ => rfl

end Launches

theorem goes_resumeRun {r : Run} (described : d.Describes l (.run r)) (reply : Reply) :
    l.Goes (l.resumeRun r reply).2 (d.after (l.runWait r) reply) ((l.resumeRun r reply).1.map .run .launched) := by
  obtain ⟨step, scheduler, stage⟩ := r
  obtain ⟨launches, managed, owner, hstage⟩ := described
  -- a reply to another kind of wait changes nothing, and is not noted
  have hstays : (l.runWait ⟨step, scheduler, stage⟩).fits reply = false →
      l.resumeRun ⟨step, scheduler, stage⟩ reply = (.waiting ⟨step, scheduler, stage⟩, l) →
      l.Goes (l.resumeRun ⟨step, scheduler, stage⟩ reply).2 (d.after (l.runWait ⟨step, scheduler, stage⟩) reply)
        ((l.resumeRun ⟨step, scheduler, stage⟩ reply).1.map .run .launched) := by
    intro hfits hresume
    rw [hresume, Dossier.after_of_not_fits hfits]
    exact .waits _ (.refl l) ⟨launches, managed, owner, hstage⟩
  cases stage with
  | submitting p =>
    cases reply with
    | ended exit =>
      rw [Dossier.after_of_fits rfl]
      refine goes_submitted (d := { d with course := d.course ++ [_] }) (p := p) launches managed owner ?_
      rw [show d.course = [] from hstage]
      rfl
    | failed source =>
      rw [Dossier.after_of_fits rfl]
      refine goes_unwaited (d := { d with course := d.course ++ [_] }) (p := p) launches ?_ _
      rw [show d.course = [] from hstage]
      rfl
    | paused => exact hstays rfl rfl
    | answered answer => exact hstays rfl rfl
  | pausing attempt =>
    obtain ⟨mute, counted, within⟩ := hstage
    cases reply with
    | paused =>
      rw [Dossier.after_of_fits rfl]
      refine .waits _ (.refl l) ⟨launches, managed, owner, ?_, ?_, within⟩
      · rw [Dossier.isMute, List.any_append]
        exact Bool.or_eq_true_iff.2 (.inl mute)
      · have hsame := d.listings_append l.backend (.pause l.config.idResolution.interval.toNat) .paused
        rw [Wait.isListing_pause, if_neg Bool.false_ne_true, Nat.add_zero] at hsame
        exact counted.trans (congrArg (· + 1) hsame.symm)
    | answered answer => exact hstays rfl rfl
    | ended exit => exact hstays rfl rfl
    | failed source => exact hstays rfl rfl
  | listing attempt =>
    obtain ⟨mute, counted, within⟩ := hstage
    cases reply with
    | answered answer =>
      rw [Dossier.after_of_fits rfl]
      refine goes_listed (d := { d with course := d.course ++ [_] }) launches managed owner ?_ ?_ within answer
      · rw [Dossier.isMute, List.any_append]
        exact Bool.or_eq_true_iff.2 (.inl mute)
      · have hmore := d.listings_append l.backend (.command scheduler.listingCommand) (.answered answer)
        rw [Wait.isListing_command owner, if_pos rfl] at hmore
        exact hmore.trans counted.symm
    | paused => exact hstays rfl rfl
    | ended exit => exact hstays rfl rfl
    | failed source => exact hstays rfl rfl

variable {μ : Type}

theorem goes_beginRun (m : Machine μ) (launches : d.request = .run step) (course : d.course = []) (w : μ) :
    l.Goes (beginRun m l step w).2.1 d ((beginRun m l step w).1.map .run .launched) := by
  have hmute : d.isMute l.backend = false := by
    rw [Dossier.isMute, course]
    rfl
  have hrefused : ∀ {e : LaunchError}, e.isSubmissionFailed = false →
      Finished.notices l.backend ⟨d, .launched (.error e)⟩ = [] := by
    intro e he
    rw [Finished.notices_refused he, Finished.searchNotices, hmute, if_neg Bool.false_ne_true]
  cases held : l.registry.reserve step.name with
  | error e =>
    obtain ⟨htaken, -⟩ := Registry.reserve_eq_error held
    rw [beginRun_of_taken m w htaken]
    refine .ends _ ?_ (.refused launches _)
    rw [hrefused rfl]
    exact .refl l
  | ok registry =>
    rw [beginRun_eq m w held]
    have hall := attempted m l.backend l.supervisor.start step w
    have hrefuses := @attempt_refuses _ m l.backend l.supervisor.start step w
    generalize attempt m l.backend l.supervisor.start step w = a at hall hrefuses
    have hprepare := tells_prepare l registry
    cases hall with
    | failed e w' plain =>
      refine goes_abandon launches ?_
      rw [hrefused (hrefuses rfl)]
      exact hprepare
    | submitted scheduler p w' batch owner => exact .waits _ hprepare ⟨launches, batch, owner, course⟩
    | started p w' direct =>
      dsimp only [conclude]
      rw [complete_of_fits _ (show step.Fits (.task _) from direct)]
      refine .ends (.launched (.ok _)) ?_ (.launched launches direct)
      rw [Finished.notices_launched launches, Finished.searchNotices, hmute, if_neg Bool.false_ne_true]
      exact hprepare.trans (tells_track { l with registry, supervisor := l.supervisor.start } _ step _)

theorem goes_stop {l' : Launcher} {name : String} {e : Entry} {p : StopProgress} (asked : d.request = .stop name)
    (found : d.found = some e) (told : l.Tells (stopNotices name e p) l')
    (same : ∀ s, p = .waiting s → s.name = name ∧ s.entry = e) : l.Goes l' d (p.map .stop .stopped) := by
  rcases p with (err | last) | s
  · refine .ends _ ?_ (.unstopped asked err)
    rw [Finished.notices_unstopped]
    exact told
  · refine .ends _ ?_ (.stopped asked found last)
    rw [Finished.notices_stopped asked found]
    exact told
  · obtain ⟨hname, hentry⟩ := same s rfl
    exact .waits _ told ⟨by rw [hname, asked], by rw [hentry, found]⟩

theorem goes_beginStop (m : Machine μ) (l : Launcher) (name : String) (w : μ) :
    l.Goes (beginStop m l name w).2.1 (.new l (.stop name)) ((beginStop m l name w).1.map .stop .stopped) := by
  cases hget : l.registry.get? name with
  | none =>
    rw [beginStop_of_unknown m w hget]
    refine .ends _ ?_ (.unstopped rfl _)
    rw [Finished.notices_unstopped]
    exact .refl l
  | some e =>
    rw [beginStop_of_registered m w hget]
    cases l.cancelCommand? e with
    | some command => exact .waits _ (.refl l) ⟨rfl, hget⟩
    | none => exact goes_stop rfl hget (tells_takeDown m l name e w) fun s hs => takeDown_waiting hs

theorem goes_poll {l' : Launcher} {p : PollProgress} {names : List String} (asked : d.request = .poll names)
    (told : l.Tells [] l') : l.Goes l' d (p.map .poll .polled) := by
  cases p with
  | done reports =>
    refine .ends _ ?_ (.polled asked reports)
    rw [Finished.notices_polled]
    exact told
  | waiting q => exact .waits _ told ⟨names, asked⟩

/-- **How every call begins.** -/
theorem goes_beginCall (m : Machine μ) (l : Launcher) (request : Request) (w : μ) :
    l.Goes (beginCall m l request w).2.1 (.new l request) (beginCall m l request w).1 := by
  cases request with
  | run step => exact goes_beginRun m rfl rfl w
  | poll names => exact goes_poll rfl (tells_beginPoll l names)
  | stop name => exact goes_beginStop m l name w

/-- **How every call goes on.** -/
theorem goes_resumeCall (m : Machine μ) {call : Call} (described : d.Describes l call) (reply : Reply) (w : μ) :
    l.Goes (resumeCall m l call reply w).2.1 (d.after (l.callWait call) reply) (resumeCall m l call reply w).1 := by
  cases call with
  | run r => exact goes_resumeRun described reply
  | poll p =>
    obtain ⟨names, asked⟩ := described
    exact goes_poll ((d.request_after _ reply).trans asked) (tells_resumePoll l p reply)
  | stop s =>
    obtain ⟨asked, found⟩ := described
    exact goes_stop ((d.request_after _ reply).trans asked) ((d.found_after _ reply).trans found)
      (tells_resumeStop m l s reply w) fun s' hs => resumeStop_waiting hs

end Launcher

end JobLaunch
