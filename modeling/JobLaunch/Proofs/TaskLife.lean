import JobLaunch.Proofs.Supervision

/-!
# What a task tells of its process

* `Ending` : how a process ends; `Ending.exitCode?_raw` : what its raw wait status says of it;
* `News.output?` : the output that has been read first after the end was told;
* `Task.hearAll_of_running`, `Task.hearAll_of_exited`, `Task.hearAll_of_settled` : a task runs, then it has ended, then
  its output is stored, and after that nothing changes;
* `Task.Tells` : a task tells of its process what was told of it; `Task.Settled` : what stays as it is;
* `Supervision.task_tells_process` : both, of every tracked task in every run.
-/

namespace JobLaunch

/-! ## Wait statuses -/

inductive Ending where
  | exit (code : Nat) (valid : code < 256)
  /-- It is killed by a signal, and its memory may be dumped. -/
  | signal (number : Nat) (valid : 0 < number ∧ number < 127) (dumped : Bool)

namespace Ending

/-- It exits with code zero. -/
def success : Ending := exit 0 (by decide)

def raw : Ending → Int
  | exit code _ => code * 256
  | signal number _ dumped => number + if dumped then 128 else 0

/-- The exit code of a process that has ended; a signal counts as negative. -/
def code : Ending → Int
  | exit code _ => code
  | signal number _ _ => -number

theorem exitCode?_raw (e : Ending) : exitCode? e.raw = some e.code := by
  cases e with
  | exit c valid =>
    have hlow : (c * 256 : Int) % 128 = 0 := by omega
    have hcode : (c * 256 : Int) / 256 % 256 = c := by omega
    show (if (c * 256 : Int) % 128 = 0 then some ((c * 256 : Int) / 256 % 256) else _) = some (c : Int)
    rw [if_pos hlow, hcode]
  | signal n valid dumped =>
    have hlow : ((n : Int) + if dumped then 128 else 0) % 128 = n := by
      cases dumped with
      | false => simp; omega
      | true => simp; omega
    have hnonzero : ¬ (n : Int) = 0 := by omega
    have hended : ¬ (n : Int) = 127 := by omega
    unfold exitCode? raw
    dsimp only
    rw [hlow, if_neg hnonzero, if_neg hended]
    rfl

theorem code_eq_zero_iff (e : Ending) : e.code = 0 ↔ e = success := by
  cases e with
  | exit c valid =>
    show (c : Int) = 0 ↔ exit c valid = exit 0 _
    rw [exit.injEq, Int.natCast_eq_zero]
  | signal n valid dumped =>
    refine ⟨fun h => ?_, fun h => nomatch h⟩
    have h : -(n : Int) = 0 := h
    omega

end Ending

/-! ## The life of a task -/

namespace News

/-- The output that has been read. -/
def read? : News → Option (List UInt8 × List UInt8)
  | ended _ => none
  | read out err => some (out, err)

/-- The output that has been read first after the end was told. -/
def output? : List News → Option (List UInt8 × List UInt8)
  | [] => none
  | ended _ :: ns => ns.findSome? read?
  | read _ _ :: ns => output? ns

theorem output?_of_running {ns : List News} (h : ending? ns = none) : output? ns = none := by
  induction ns with
  | nil => rfl
  | cons n ns ih =>
    cases n with
    | ended raw => cases h
    | read out err => exact ih h

end News

namespace Task

variable {t : Task}

theorem drained_of_ne (h : t.drain ≠ .pending) (out err : List UInt8) : t.drained out err = t := if_neg h

theorem drain_drained_ne (t : Task) (out err : List UInt8) : (t.drained out err).drain ≠ .pending := by
  unfold drained
  split
  · nofun
  · assumption

@[simp] theorem exited_drained (t : Task) (out err : List UInt8) : (t.drained out err).exited = t.exited := by
  unfold drained
  split <;> rfl

@[simp] theorem status_drained (t : Task) (out err : List UInt8) : (t.drained out err).status = t.status := by
  unfold drained
  split <;> rfl

@[simp] theorem returnCode_drained (t : Task) (out err : List UInt8) :
    (t.drained out err).returnCode = t.returnCode := by
  unfold drained
  split <;> rfl

@[simp] theorem process_drained (t : Task) (out err : List UInt8) : (t.drained out err).process = t.process := by
  unfold drained
  split <;> rfl

theorem drain_new_ne (p : ProcessId) (stdout stderr : Sink) : (new p stdout stderr).drain ≠ .pending := by
  unfold new
  dsimp only
  split <;> nofun

theorem hearAll_of_settled (exited : t.exited = true) (stored : t.drain ≠ .pending) (ns : List News) :
    t.hearAll ns = t := by
  induction ns with
  | nil => rfl
  | cons n ns ih =>
    have hn : t.hear n = t := by
      cases n with
      | ended raw => exact hear_ended_of_exited exited raw
      | read out err => exact drained_of_ne stored out err
    show (t.hear n).hearAll ns = t
    rw [hn, ih]

theorem hearAll_of_exited (exited : t.exited = true) (ns : List News) :
    t.hearAll ns = (ns.findSome? News.read?).elim t fun o => t.drained o.1 o.2 := by
  induction ns with
  | nil => rfl
  | cons n ns ih =>
    cases n with
    | ended raw =>
      show (t.hear (.ended raw)).hearAll ns = _
      rw [hear_ended_of_exited exited, ih]
      rfl
    | read out err =>
      show (t.drained out err).hearAll ns = t.drained out err
      exact hearAll_of_settled ((exited_drained t out err).trans exited) (drain_drained_ne t out err) ns

theorem hearAll_of_running (running : t.exited = false) (reading : t.drain ≠ .pending) (ns : List News) :
    t.hearAll ns = (News.ending? ns).elim t fun raw =>
      (News.output? ns).elim (t.exit raw) fun o => (t.exit raw).drained o.1 o.2 := by
  induction ns with
  | nil => rfl
  | cons n ns ih =>
    cases n with
    | ended raw =>
      show (t.hear (.ended raw)).hearAll ns = _
      rw [hear_ended_of_running running, hearAll_of_exited rfl]
      rfl
    | read out err =>
      show (t.drained out err).hearAll ns = _
      rw [drained_of_ne reading, ih]
      rfl

/-- A task tells of its process what was told of it: how it has ended, and then what it has written. -/
structure Tells (t : Task) (ending? : Option Int) (output? : Option (List UInt8 × List UInt8)) : Prop where
  running : ending? = none → t.status = .running ∧ t.returnCode = none ∧ t.stdout = none ∧ t.stderr = none
  ended : ∀ raw, ending? = some raw →
    t.returnCode = exitCode? raw ∧ t.status = if exitCode? raw = some 0 then .completed else .failed
  returned : ∀ e : Ending, ending? = some e.raw →
    t.returnCode = some e.code ∧ (t.status = .completed ↔ e = .success) ∧ (t.status = .failed ↔ e ≠ .success)
  stdout : t.stdout = if t.capturesStdout then output?.map fun o => Utf8.text o.1 else none
  stderr : t.stderr = if t.capturesStderr then output?.map fun o => Utf8.text o.2 else none

/-- A later state of a task that keeps what was settled before. -/
structure Settled (t u : Task) : Prop where
  process : u.process = t.process
  exit : t.exited = true → u.exited = true ∧ u.status = t.status ∧ u.returnCode = t.returnCode
  /-- Output is stored once, and it is the last that happens to a task. -/
  output : t.stdout ≠ none ∨ t.stderr ≠ none → u = t

theorem status_exit (t : Task) (raw : Int) :
    (t.exit raw).status = if exitCode? raw = some 0 then .completed else .failed := by
  show ((exitCode? raw).map Status.ofExitCode).getD .failed = _
  cases exitCode? raw with
  | none => rfl
  | some code =>
    show (if code = 0 then Status.completed else .failed) = _
    simp only [Option.some.injEq]

theorem stdout_drained_exit_new (p : ProcessId) (stdout stderr : Sink) (raw : Int) (out err : List UInt8) :
    let t := ((new p stdout stderr).exit raw).drained out err
    t.stdout = if t.capturesStdout then some (Utf8.text out) else none := by
  by_cases ho : stdout = .capture <;> by_cases he : stderr = .capture <;> simp [drained, exit, new, ho, he]

theorem stderr_drained_exit_new (p : ProcessId) (stdout stderr : Sink) (raw : Int) (out err : List UInt8) :
    let t := ((new p stdout stderr).exit raw).drained out err
    t.stderr = if t.capturesStderr then some (Utf8.text err) else none := by
  by_cases ho : stdout = .capture <;> by_cases he : stderr = .capture <;> simp [drained, exit, new, ho, he]

theorem Tells.of_exit {raw : Int} {output? : Option (List UInt8 × List UInt8)}
    (code : t.returnCode = exitCode? raw) (status : t.status = if exitCode? raw = some 0 then .completed else .failed)
    (stdout : t.stdout = if t.capturesStdout then output?.map fun o => Utf8.text o.1 else none)
    (stderr : t.stderr = if t.capturesStderr then output?.map fun o => Utf8.text o.2 else none) :
    t.Tells (some raw) output? where
  running := nofun
  ended := by
    intro raw' h
    cases h
    exact ⟨code, status⟩
  returned := by
    intro e h
    cases h
    rw [e.exitCode?_raw] at code status
    have hzero : some e.code = some 0 ↔ e = .success := by rw [Option.some.injEq, e.code_eq_zero_iff]
    by_cases he : e = .success
    · rw [if_pos (hzero.2 he)] at status
      simp [code, status, he]
    · rw [if_neg fun h => he (hzero.1 h)] at status
      simp [code, status, he]
  stdout := stdout
  stderr := stderr

theorem tells_hearAll_new (p : ProcessId) (stdout stderr : Sink) (ns : List News) :
    ((new p stdout stderr).hearAll ns).Tells (News.ending? ns) (News.output? ns) := by
  rw [hearAll_of_running rfl (drain_new_ne p stdout stderr)]
  cases hending : News.ending? ns with
  | none =>
    rw [News.output?_of_running hending]
    exact ⟨fun _ => ⟨rfl, rfl, rfl, rfl⟩, nofun, nofun, (ite_self none).symm, (ite_self none).symm⟩
  | some raw =>
    have hstatus := status_exit (new p stdout stderr) raw
    cases News.output? ns with
    | none =>
      exact .of_exit rfl hstatus (ite_self none).symm (ite_self none).symm
    | some o =>
      exact .of_exit (returnCode_drained _ _ _) ((status_drained _ _ _).trans hstatus)
        (stdout_drained_exit_new p stdout stderr raw o.1 o.2) (stderr_drained_exit_new p stdout stderr raw o.1 o.2)

theorem process_hearAll (t : Task) (ns : List News) : (t.hearAll ns).process = t.process := by
  induction ns generalizing t with
  | nil => rfl
  | cons n ns ih =>
    refine (ih (t.hear n)).trans ?_
    cases n with
    | ended raw =>
      show (if t.exited then t else t.exit raw).process = t.process
      split <;> rfl
    | read out err => exact process_drained t out err

theorem settled_hearAll (p : ProcessId) (stdout stderr : Sink) (ms ns : List News) :
    ((new p stdout stderr).hearAll ms).Settled (((new p stdout stderr).hearAll ms).hearAll ns) := by
  rw [hearAll_of_running rfl (drain_new_ne p stdout stderr) ms]
  cases News.ending? ms with
  | none => exact ⟨process_hearAll _ ns, nofun, fun h => absurd h (by simp [new])⟩
  | some raw =>
    cases News.output? ms with
    | none =>
      refine ⟨process_hearAll _ ns, fun _ => ?_, fun h => absurd h (by simp [new, exit])⟩
      rw [Option.elim_some, Option.elim_none, hearAll_of_exited rfl]
      cases ns.findSome? News.read? with
      | none => exact ⟨rfl, rfl, rfl⟩
      | some o => exact ⟨exited_drained _ _ _, status_drained _ _ _, returnCode_drained _ _ _⟩
    | some o =>
      have hsame := hearAll_of_settled (exited_drained ((new p stdout stderr).exit raw) o.1 o.2)
        (drain_drained_ne _ o.1 o.2) ns
      exact ⟨process_hearAll _ ns, fun h => by rw [Option.elim_some, Option.elim_some, hsame]; exact ⟨h, rfl, rfl⟩,
        fun _ => hsame⟩

end Task

/-! ## Runs -/

namespace Supervision

variable {μ : Type}

/-- **While a task is tracked it tells what scans and readers were told of its process, and takes nothing back.** Until
a scan sees the end it runs, without a return code and without output; then its status and its return code are those of
the wait status, and its output is stored once, when it has been read. Output that is read later changes nothing. -/
theorem task_tells_process (m : Machine μ) (config : SupervisorConfig) (r : Reporter) (w : μ) (as : List (Act μ))
    (id : TaskId) :
    let S := new config r w
    let T := S.run m as
    (∀ t, T.task? id = some t →
      t.Tells (News.ending? (S.history m id as)) (News.output? (S.history m id as)) ∧
        ∀ bs u, (T.run m bs).task? id = some u → t.Settled u) ∧
      (T.task? id = none → ∀ out err, T.act m (.drain id out err) = T) := by
  intro S T
  have sound : S.Sound := sound_new config r w
  obtain ⟨p, stdout, stderr, hnew, -⟩ := run_of_untracked (m := m) sound (show S.task? id = none from rfl) as
  refine ⟨fun t ht => ?_, fun hnone out err => ?_⟩
  · obtain rfl := hnew t ht
    refine ⟨Task.tells_hearAll_new p stdout stderr _, fun bs u hu => ?_⟩
    rw [(run_of_tracked (sound.run as) ht bs).1 u hu]
    exact Task.settled_hearAll p stdout stderr _ _
  · show { T with supervisor := T.supervisor.modifyTask id _ } = T
    rw [Supervisor.modifyTask_of_untracked hnone]

/-- A task beside another one ends with the code 1, and then its output is read; what is told of it later changes nothing. -/
theorem task_tells_process_drained :
    let as : List (Act Unit) := [.startTask ["sh"] "/" .capture .capture, .startTask ["true"] "/" .discard .discard,
      .scan [(.issued 1, .alive), (.issued 0, .exited 256)], .drain (.issued 0) [104, 105] []]
    let T := (new {} {} ()).run .obliging as
    ∃ t, T.task? (.issued 0) = some t ∧ t.Tells (some 256) (some ([104, 105], [])) ∧
      t.status = .failed ∧ t.returnCode = some 1 ∧ t.stdout = some "hi" ∧ t.stderr = some "" ∧
      (T.run .obliging [.scan [(.issued 0, .exited 0)], .drain (.issued 0) [] [104]]).task? (.issued 0) = some t := by
  intro as T
  obtain ⟨htask, -⟩ := task_tells_process .obliging {} {} () as (.issued 0)
  obtain ⟨t, ht⟩ : ∃ t, T.task? (.issued 0) = some t := ⟨_, rfl⟩
  obtain ⟨tells, settled⟩ := htask t ht
  have hcode : exitCode? 256 = some 1 := by decide
  have hstdout : t.stdout = some "hi" := by
    cases ht
    decide +kernel
  obtain ⟨hreturn, hstatus⟩ := tells.ended 256 rfl
  refine ⟨t, ht, tells, ?_, hreturn.trans hcode, hstdout, ?_, ?_⟩
  · rw [hstatus, hcode, if_neg (by decide)]
  · cases ht
    decide +kernel
  · obtain ⟨u, hu⟩ : ∃ u, (T.run .obliging [.scan [(.issued 0, .exited 0)], .drain (.issued 0) [] [104]]).task? (.issued 0) =
        some u := ⟨_, rfl⟩
    rw [hu, (settled _ u hu).output (.inl (by rw [hstdout]; nofun))]

end Supervision

end JobLaunch
