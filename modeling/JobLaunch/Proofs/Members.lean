import JobLaunch.Step

/-!
# Steps as they are made

A step comes from one of five constructors, and members are added to it.

* `Step.Created` : what a constructor makes of its arguments; `Step.of_create` : so does each of them;
* `Step.addMembers` : a step after members have been added; `Step.addMembers_eq` : what is added, and what is kept;
* `Step.managed_addMembers` : the flag of a step is the one that its constructor has stored.
-/

namespace JobLaunch

/-- Are the settings for a batch job? -/
def Settings.isBatch : Settings → Bool
  | pbsBatch _ | gridBatch _ => true
  | aprun _ | mpirun _ | plain _ => false

def Settings.launch : Settings → Step.Launch
  | pbsBatch b => .pbsBatch b []
  | gridBatch b => .gridBatch b []
  | aprun r => .aprun r
  | mpirun r => .mpirun r
  | plain r => .plain r

namespace Step

variable {s t : Step} {name cwd : String} {settings : Settings}

/-! ## Constructors -/

theorem require_error {field value : String} {e : LaunchError} (h : require field value = .error e) :
    ∃ reason, e = .configuration reason := by
  unfold require at h
  split at h
  · cases h
    exact ⟨_, rfl⟩
  · cases h

/-- What is made of the arguments of a constructor. -/
structure Created (name cwd : String) (settings : Settings) (s : Step) : Prop where
  name : s.name = name
  cwd : s.cwd = cwd
  managed : s.managed = settings.isBatch
  launch : s.launch = settings.launch

namespace Created

theorem settingsKind (h : Created name cwd settings s) : s.settingsKind = settings.kind := by
  unfold Step.settingsKind
  rw [h.launch]
  cases settings <;> rfl

theorem empty (h : Created name cwd settings s) : s.withMembers [] = s := by
  obtain ⟨name, cwd, managed, launch, rfl⟩ := s
  obtain rfl : launch = settings.launch := h.launch
  cases settings <;> rfl

end Created

theorem create_eq (name cwd : String) (settings : Settings) : ∃ field value s, Created name cwd settings s ∧
    create name cwd settings = (require field value >>= fun _ => require "step name" name >>= fun _ => pure s) := by
  cases settings with
  | pbsBatch b => exact ⟨"batch_cmd", b.submit, ⟨name, cwd, true, .pbsBatch b [], rfl⟩, ⟨rfl, rfl, rfl, rfl⟩, rfl⟩
  | gridBatch b => exact ⟨"batch_cmd", b.submit, ⟨name, cwd, true, .gridBatch b [], rfl⟩, ⟨rfl, rfl, rfl, rfl⟩, rfl⟩
  | aprun r => exact ⟨"exe", r.exe, ⟨name, cwd, false, .aprun r, rfl⟩, ⟨rfl, rfl, rfl, rfl⟩, rfl⟩
  | mpirun r => exact ⟨"exe", r.exe, ⟨name, cwd, false, .mpirun r, rfl⟩, ⟨rfl, rfl, rfl, rfl⟩, rfl⟩
  | plain r => exact ⟨"exe", r.exe, ⟨name, cwd, false, .plain r, rfl⟩, ⟨rfl, rfl, rfl, rfl⟩, rfl⟩

theorem of_create (h : create name cwd settings = .ok s) : Created name cwd settings s := by
  obtain ⟨field, value, t, created, hcreate⟩ := create_eq name cwd settings
  rw [hcreate] at h
  cases hvalue : require field value with
  | error e =>
    rw [hvalue] at h
    cases h
  | ok _ =>
    rw [hvalue] at h
    cases hname : require "step name" name with
    | error e =>
      rw [hname] at h
      cases h
    | ok _ =>
      rw [hname] at h
      cases h
      exact created

theorem create_error {e : LaunchError} (h : create name cwd settings = .error e) : ∃ reason, e = .configuration reason := by
  obtain ⟨field, value, t, -, hcreate⟩ := create_eq name cwd settings
  rw [hcreate] at h
  cases hvalue : require field value with
  | error _ =>
    rw [hvalue] at h
    cases h
    exact require_error hvalue
  | ok _ =>
    rw [hvalue] at h
    cases hname : require "step name" name with
    | error _ =>
      rw [hname] at h
      cases h
      exact require_error hname
    | ok _ =>
      rw [hname] at h
      cases h

/-! ## Members -/

/-- A step after members have been added one after the other, and those of them that have not been refused. One that is
refused leaves the step as it was. -/
def addMembers (s : Step) : List Step → Step × List Step
  | [] => (s, [])
  | member :: rest =>
    match s.addMember member with
    | .ok t => ((t.addMembers rest).1, member :: (t.addMembers rest).2)
    | .error _ => s.addMembers rest

theorem directCommand?_of_not_managed {member : Step} (direct : member.managed = false) :
    member.directCommand? = some member.command := by
  obtain ⟨name, cwd, managed, launch, rfl⟩ := member
  cases launch with
  | pbsBatch b ms => cases direct
  | gridBatch b ms => cases direct
  | aprun r => rfl
  | mpirun r => rfl
  | plain r => rfl

theorem directCommand?_of_managed {member : Step} (batch : member.managed = true) : member.directCommand? = none := by
  obtain ⟨name, cwd, managed, launch, rfl⟩ := member
  cases launch with
  | pbsBatch b ms => rfl
  | gridBatch b ms => rfl
  | aprun r => cases batch
  | mpirun r => cases batch
  | plain r => cases batch

theorem addMember_of_managed (s : Step) {member : Step} (batch : member.managed = true) :
    ∃ e, s.addMember member = .error e := by
  unfold addMember
  rw [directCommand?_of_managed batch]
  exact ⟨_, rfl⟩

theorem addMember_ok {member : Step} (h : s.addMember member = .ok t) : ∃ members, t = s.withMembers members := by
  unfold addMember at h
  split at h
  · cases h
  · split at h
    · cases h
      exact ⟨_, rfl⟩
    · cases h

theorem addMember_withMembers (batch : s.managed = true) (members : List (List String)) {member : Step}
    (direct : member.managed = false) :
    (s.withMembers members).addMember member = .ok (s.withMembers (members ++ [member.command])) := by
  unfold addMember
  rw [directCommand?_of_not_managed direct]
  obtain ⟨name, cwd, managed, launch, rfl⟩ := s
  cases launch with
  | pbsBatch b ms => rfl
  | gridBatch b ms => rfl
  | aprun r => cases batch
  | mpirun r => cases batch
  | plain r => cases batch

/-- **Whatever is added to a step, its flag and its name stay as they were stored.** -/
theorem managed_addMembers (s : Step) (members : List Step) :
    (s.addMembers members).1.managed = s.managed ∧ (s.addMembers members).1.name = s.name := by
  induction members generalizing s with
  | nil => exact ⟨rfl, rfl⟩
  | cons member members ih =>
    unfold addMembers
    cases hadd : s.addMember member with
    | error e => exact ih s
    | ok t =>
      obtain ⟨commands, rfl⟩ := addMember_ok hadd
      exact ih (s.withMembers commands)

/-- **The commands of the direct steps are added in order, batch steps are refused, and all else is kept.** -/
theorem addMembers_eq (batch : s.managed = true) (commands : List (List String)) (members : List Step) :
    (s.withMembers commands).addMembers members =
      (s.withMembers (commands ++ (members.filter (!·.managed)).map command), members.filter (!·.managed)) := by
  induction members generalizing commands with
  | nil => rw [addMembers, List.filter_nil, List.map_nil, List.append_nil]
  | cons member members ih =>
    unfold addMembers
    cases hmember : member.managed with
    | true =>
      obtain ⟨e, he⟩ := addMember_of_managed (s.withMembers commands) hmember
      rw [he, List.filter_cons, hmember]
      exact ih commands
    | false =>
      rw [addMember_withMembers batch commands hmember, List.filter_cons, hmember]
      dsimp only
      rw [ih, List.append_assoc]
      rfl

end Step

end JobLaunch
