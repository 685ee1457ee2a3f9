import JobLaunch.Text.Blank
import JobLaunch.Text.Decimal

/-!
# Signals

* `Signal.known` — the signals with their names and what a shell says of them.
* `Signal.number?` — the number of a signal that is given by number or by name.
* `Signal.isDeadly` — does a signal end a process that does nothing about it?
-/

namespace JobLaunch.Rehearsal

structure Signal where
  number : Nat
  name : String
  notice : String
  deriving DecidableEq, Inhabited

namespace Signal

def known : List Signal :=
  [⟨1, "HUP", "Hangup"⟩, ⟨2, "INT", "Interrupt"⟩, ⟨3, "QUIT", "Quit"⟩,
    ⟨4, "ILL", "Illegal instruction"⟩, ⟨5, "TRAP", "Trace/breakpoint trap"⟩, ⟨6, "ABRT", "Aborted"⟩,
    ⟨7, "BUS", "Bus error"⟩, ⟨8, "FPE", "Floating point exception"⟩, ⟨9, "KILL", "Killed"⟩,
    ⟨10, "USR1", "User defined signal 1"⟩, ⟨11, "SEGV", "Segmentation fault"⟩,
    ⟨12, "USR2", "User defined signal 2"⟩, ⟨13, "PIPE", "Broken pipe"⟩, ⟨14, "ALRM", "Alarm clock"⟩,
    ⟨15, "TERM", "Terminated"⟩, ⟨16, "STKFLT", "Stack fault"⟩, ⟨17, "CHLD", "Child exited"⟩,
    ⟨18, "CONT", "Continued"⟩, ⟨19, "STOP", "Stopped (signal)"⟩, ⟨20, "TSTP", "Stopped"⟩,
    ⟨21, "TTIN", "Stopped (tty input)"⟩, ⟨22, "TTOU", "Stopped (tty output)"⟩,
    ⟨23, "URG", "Urgent I/O condition"⟩, ⟨24, "XCPU", "CPU time limit exceeded"⟩,
    ⟨25, "XFSZ", "File size limit exceeded"⟩, ⟨26, "VTALRM", "Virtual timer expired"⟩,
    ⟨27, "PROF", "Profiling timer expired"⟩, ⟨28, "WINCH", "Window changed"⟩,
    ⟨29, "IO", "I/O possible"⟩, ⟨30, "PWR", "Power failure"⟩, ⟨31, "SYS", "Bad system call"⟩] ++
    (List.range 31).map fun n =>
      ⟨34 + n,
        if n = 0 then "RTMIN" else if n ≤ 15 then "RTMIN+" ++ Decimal.text n
          else if n = 30 then "RTMAX" else "RTMAX-" ++ Decimal.text (30 - n),
        "Real-time signal " ++ Decimal.text n⟩

def greatest : Nat := 64

def find? (number : Nat) : Option Signal := known.find? (·.number = number)

def named? (name : String) : Option Nat := (known.find? (·.name = name)).map (·.number)

def number? (text : String) : Option Nat :=
  if !text.isEmpty && text.toList.all Text.isDigit then
    let n := Decimal.value text.toList
    if n ≤ greatest then some n else none
  else named? text

def kill : Nat := 9

def brokenPipe : Nat := 13

def childEnded : Nat := 17

def goOn : Nat := 18

/-- The signal that stops a process, about which it can do nothing. -/
def stop : Nat := 19

def isStopping (number : Nat) : Bool := stop ≤ number && number ≤ 22

def isDeadly (number : Nat) : Bool :=
  number ≠ 0 && !([17, 18, 19, 20, 21, 22, 23, 28].contains number)

end Signal

end JobLaunch.Rehearsal
