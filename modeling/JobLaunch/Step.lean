import JobLaunch.Error
import JobLaunch.Path
import JobLaunch.Settings.Arguments
import JobLaunch.Shell.Quote

/-!
# Steps

A step is one named job: a batch job that a scheduler runs, or a process that is started directly.

* `Step.create` — a step from settings; its name and its program must not be blank.
* `Step.addMember` — a batch step with the command of a direct step added.
* `Step.command` — the words that launch it.
* `Step.script?` — the text of a batch step's submission script.
-/

namespace JobLaunch

inductive Step.Launch where
  /-- A PBS batch job and the commands of its members. -/
  | pbsBatch (batch : PbsBatch) (members : List (List String))
  | gridBatch (batch : GridBatch) (members : List (List String))
  | aprun (run : RunSettings)
  | mpirun (run : RunSettings)
  | plain (run : RunSettings)
  deriving DecidableEq, Inhabited

namespace Step.Launch

def isBatch : Launch → Bool
  | .pbsBatch .. | .gridBatch .. => true
  | .aprun _ | .mpirun _ | .plain _ => false

def members? : Launch → Option (List (List String))
  | .pbsBatch _ members | .gridBatch _ members => some members
  | .aprun _ | .mpirun _ | .plain _ => none

/-- The same with the commands of a batch job replaced. -/
def withMembers : Launch → List (List String) → Launch
  | .pbsBatch b _, members => .pbsBatch b members
  | .gridBatch b _, members => .gridBatch b members
  | launch, _ => launch

theorem isBatch_withMembers (launch : Launch) (members : List (List String)) :
    (launch.withMembers members).isBatch = launch.isBatch := by
  cases launch <;> rfl

end Step.Launch

/-- One named job. The flag is stored, as each constructor passes it; none can pass a wrong one. -/
structure Step where
  name : String
  cwd : String
  /-- Does a scheduler own the step? -/
  managed : Bool
  launch : Step.Launch
  managed_eq : managed = launch.isBatch
  deriving DecidableEq

instance : Inhabited Step := ⟨⟨"", "", false, .plain default, rfl⟩⟩

namespace Step

/-- The two ways a step reaches the machine. -/
inductive Kind where
  /-- Submitted to a scheduler, which owns the job once it is accepted. -/
  | batch
  /-- Started and watched by the supervisor. -/
  | directRun
  deriving DecidableEq, Inhabited

def Kind.text : Kind → String
  | batch => "batch"
  | directRun => "direct-run"

/-- The way the step reaches the machine. -/
def kind (s : Step) : Kind :=
  match s.launch with
  | .pbsBatch .. | .gridBatch .. => .batch
  | .aprun _ | .mpirun _ | .plain _ => .directRun

theorem managed_iff (s : Step) : s.managed = true ↔ s.kind = .batch := by
  obtain ⟨name, cwd, managed, launch, rfl⟩ := s
  cases launch <;> simp [Launch.isBatch, kind]

def settingsKind (s : Step) : Settings.Kind :=
  match s.launch with
  | .pbsBatch .. => .pbsBatch
  | .gridBatch .. => .gridBatch
  | .aprun _ => .aprun
  | .mpirun _ => .mpirun
  | .plain _ => .plain

/-! ## Making steps -/

/-- Refuses a blank value. -/
def require (field value : String) : Except LaunchError Unit :=
  if Text.isBlankText value then .error (.configuration ("missing required " ++ field)) else .ok ()

/-- A step with a name and the flag that its constructor passes. -/
def build (name cwd : String) (managed : Bool) (launch : Launch) (managed_eq : managed = launch.isBatch) :
    Except LaunchError Step := do
  require "step name" name
  pure { name, cwd, managed, launch, managed_eq }

/-- A step from settings, with a constructor for each kind: the program is checked before the name. -/
def create (name cwd : String) (settings : Settings) : Except LaunchError Step :=
  match settings with
  | .pbsBatch b => do
    require "batch_cmd" b.submit
    build name cwd true (.pbsBatch b []) rfl
  | .gridBatch b => do
    require "batch_cmd" b.submit
    build name cwd true (.gridBatch b []) rfl
  | .aprun r => do
    require "exe" r.exe
    build name cwd false (.aprun r) rfl
  | .mpirun r => do
    require "exe" r.exe
    build name cwd false (.mpirun r) rfl
  | .plain r => do
    require "exe" r.exe
    build name cwd false (.plain r) rfl

/-- The same step with the commands of a batch job replaced; the flag is kept. -/
def withMembers (s : Step) (members : List (List String)) : Step :=
  { s with
    launch := s.launch.withMembers members
    managed_eq := s.managed_eq.trans (s.launch.isBatch_withMembers members).symm }

/-! ## Files -/

def file (s : Step) (ending : String) : String := Path.join s.cwd (s.name ++ ending)

/-- Where standard output goes. -/
def outFile (s : Step) : String := s.file ".out"

/-- Where standard error goes. -/
def errFile (s : Step) : String := s.file ".err"

def scriptFile (s : Step) : String := s.file ".sh"

/-! ## Commands -/

def flagged (flag : String) (assignments : List String) : List String :=
  assignments.flatMap fun a => [flag, a]

def directCommand? (s : Step) : Option (List String) :=
  match s.launch with
  | .aprun r => some ("aprun" :: r.runWords ++ flagged "-e" r.assignments ++ r.exeWords)
  | .mpirun r => some ("mpirun" :: r.runWords ++ flagged "-x" r.assignments ++ r.exeWords)
  | .plain r =>
    some ((if r.assignments.isEmpty then [] else "env" :: r.assignments) ++ r.exeWords)
  | .pbsBatch .. | .gridBatch .. => none

/-- The words that launch the step; a batch step is launched by submitting its script. -/
def command (s : Step) : List String :=
  match s.launch with
  | .pbsBatch b _ => [b.submit, s.scriptFile]
  | .gridBatch b _ => [b.submit, s.scriptFile]
  | _ => s.directCommand?.getD []

/-- The batch step with the command of a direct step added as its last member. -/
def addMember (s member : Step) : Except LaunchError Step :=
  match member.directCommand? with
  | none => .error (.configuration ("step `" ++ member.name ++
      "` is a batch step and cannot be added to batch `" ++ s.name ++ "`"))
  | some command =>
    match s.launch.members? with
    | some members => .ok (s.withMembers (members ++ [command]))
    | none => .error (.configuration ("step `" ++ s.name ++ "` is not a batch step"))

/-! ## Submission scripts -/

/-- What a submission script holds. -/
structure Script where
  shebang : String
  marker : String
  directives : List String
  preamble : List String
  members : List (List String)
  deriving DecidableEq, Inhabited

namespace Script

def directiveLines (s : Script) : List String := s.directives.map (s.marker ++ " " ++ ·)

/-- The lines of a member: a blank line, and its quoted words as a background command. -/
def memberText (words : List String) : String := "\n" ++ Shell.quoteWords words ++ " &\n"

def membersText (members : List (List String)) : String :=
  String.join (members.map memberText) ++ (if members.isEmpty then "" else "\nwait\n")

def linesText (lines : List String) : String := String.join (lines.map (· ++ "\n"))

def text (s : Script) : String :=
  s.shebang ++ "\n\n" ++ linesText s.directiveLines ++ linesText s.preamble ++
    membersText s.members

end Script

/-- The directives of every batch job: its output files, its name, and its environment. -/
def commonDirectives (s : Step) : List String :=
  ["-o " ++ s.outFile, "-e " ++ s.errFile, "-N " ++ s.name, "-V"]

def script? (s : Step) : Option Script :=
  match s.launch with
  | .pbsBatch b members =>
    some ⟨b.shebang, "#PBS", s.commonDirectives ++ b.directives, b.preamble, members⟩
  | .gridBatch b members =>
    some ⟨b.shebang, "#$", s.commonDirectives ++ b.directives, b.preamble, members⟩
  | _ => none

theorem managed_eq_isSome_script? (s : Step) : s.managed = s.script?.isSome := by
  obtain ⟨name, cwd, managed, launch, rfl⟩ := s
  cases launch <;> rfl

end Step

end JobLaunch
