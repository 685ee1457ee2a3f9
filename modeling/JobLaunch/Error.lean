import JobLaunch.Settings.Basic
import JobLaunch.Text.Decimal

/-!
# Errors

* `OsError` — why the operating system refused.
* `LaunchError` — every failure of a launcher operation.
* `LaunchError.message`, `LaunchError.category` — its text and its group.
-/

namespace JobLaunch

/-- Why the operating system refused. -/
inductive OsError where
  | notPermitted
  | notFound
  | noSuchProcess
  | argumentsTooLong
  | badFormat
  | badDescriptor
  | permissionDenied
  | alreadyExists
  | notADirectory
  | isADirectory
  | invalidArgument
  | textBusy
  | noSpace
  | illegalSeek
  | brokenPipe
  | nameTooLong
  | notEmpty
  | linkLoop
  /-- A path holds a zero character. -/
  | zeroInPath
  | zeroInCommand
  | other (text : String)
  deriving DecidableEq, Inhabited

namespace OsError

def reason : OsError → String
  | notPermitted => "Operation not permitted"
  | notFound => "No such file or directory"
  | noSuchProcess => "No such process"
  | argumentsTooLong => "Argument list too long"
  | badFormat => "Exec format error"
  | badDescriptor => "Bad file descriptor"
  | permissionDenied => "Permission denied"
  | alreadyExists => "File exists"
  | notADirectory => "Not a directory"
  | isADirectory => "Is a directory"
  | invalidArgument => "Invalid argument"
  | textBusy => "Text file busy"
  | noSpace => "No space left on device"
  | illegalSeek => "Illegal seek"
  | brokenPipe => "Broken pipe"
  | nameTooLong => "File name too long"
  | notEmpty => "Directory not empty"
  | linkLoop => "Too many levels of symbolic links"
  | zeroInPath => "file name contained an unexpected NUL byte"
  | zeroInCommand => "nul byte found in provided data"
  | other text => text

/-- The number that the operating system gives to the refusal. -/
def number? : OsError → Option Nat
  | notPermitted => some 1
  | notFound => some 2
  | noSuchProcess => some 3
  | argumentsTooLong => some 7
  | badFormat => some 8
  | badDescriptor => some 9
  | permissionDenied => some 13
  | alreadyExists => some 17
  | notADirectory => some 20
  | isADirectory => some 21
  | invalidArgument => some 22
  | textBusy => some 26
  | noSpace => some 28
  | illegalSeek => some 29
  | brokenPipe => some 32
  | nameTooLong => some 36
  | notEmpty => some 39
  | linkLoop => some 40
  | zeroInPath | zeroInCommand | other _ => none

def text (e : OsError) : String :=
  match e.number? with
  | some n => e.reason ++ " (os error " ++ Decimal.text n ++ ")"
  | none => e.reason

end OsError

inductive ErrorCategory where
  | configuration
  | launch
  | unsupported
  deriving DecidableEq, Inhabited

def ErrorCategory.name : ErrorCategory → String
  | configuration => "Configuration"
  | launch => "Launch"
  | unsupported => "Unsupported"

/-- A failure of a launcher operation. -/
inductive LaunchError where
  | unsupportedSettings (backend : String) (kind : Settings.Kind)
  | configuration (reason : String)
  | duplicateStep (name : String)
  | unknownStep (name : String)
  | submissionFailed (command : String) (code : Option Int) (stdout stderr : String)
  | idUnresolved (step : String) (attempts : Nat)
  | spawn (command : String) (source : OsError)
  | unsupported (backend operation : String)
  | file (path : String) (source : OsError)
  deriving DecidableEq, Inhabited

namespace LaunchError

def name : LaunchError → String
  | unsupportedSettings .. => "UnsupportedSettings"
  | configuration .. => "Configuration"
  | duplicateStep .. => "DuplicateStep"
  | unknownStep .. => "UnknownStep"
  | submissionFailed .. => "SubmissionFailed"
  | idUnresolved .. => "IdUnresolved"
  | spawn .. => "Spawn"
  | unsupported .. => "Unsupported"
  | file .. => "Io"

/-- How an exit code is shown. -/
def codeText : Option Int → String
  | some c => "Some(" ++ Decimal.intText c ++ ")"
  | none => "None"

def message : LaunchError → String
  | unsupportedSettings backend kind =>
    backend ++ " does not support " ++ kind.text ++ " settings"
  | configuration reason => "invalid configuration: " ++ reason
  | duplicateStep name => "step `" ++ name ++ "` is already registered"
  | unknownStep name => "no step named `" ++ name ++ "` is registered"
  | submissionFailed command code stdout stderr =>
    "batch submission `" ++ command ++ "` failed (exit " ++ codeText code ++ ")\nstdout: " ++
      stdout ++ "\nstderr: " ++ stderr
  | idUnresolved step attempts =>
    "could not find id of launched step `" ++ step ++ "` after " ++ Decimal.text attempts ++
      " attempts"
  | spawn command source => "failed to spawn `" ++ command ++ "`: " ++ source.text
  | unsupported backend operation => backend ++ " does not support " ++ operation
  | file path source => "i/o error at " ++ path ++ ": " ++ source.text

def category : LaunchError → ErrorCategory
  | unsupportedSettings .. | configuration .. | duplicateStep .. | unknownStep .. => .configuration
  | submissionFailed .. | idUnresolved .. | spawn .. | file .. => .launch
  | unsupported .. => .unsupported

end LaunchError

end JobLaunch
