/-!
# Scheduler commands

* `Command` — a program with its arguments; no shell takes part.
* `CommandOutput` — the exit code and the text of a finished command.
-/

namespace JobLaunch

structure Command where
  program : String
  args : List String := []
  deriving DecidableEq, Inhabited

/-- The words of a command with blanks between them. -/
def Command.text (c : Command) : String := " ".intercalate (c.program :: c.args)

/-- What a finished command left. -/
structure CommandOutput where
  /-- The exit code; none if it cannot be told. -/
  code : Option Int
  stdout : String := ""
  stderr : String := ""
  deriving DecidableEq, Inhabited

namespace CommandOutput

def succeeded (o : CommandOutput) : Bool := o.code = some 0

/-- A success that printed a text. -/
def ok (stdout : String) : CommandOutput := { code := some 0, stdout }

/-- A failure that printed an error text. -/
def failed (code : Int) (stderr : String) : CommandOutput := { code := some code, stderr }

end CommandOutput

/-- The part of a job id before its first point, such as `42` of `42.server`. -/
def jobNumber (id : String) : String := String.ofList (id.toList.takeWhile (· != '.'))

end JobLaunch
