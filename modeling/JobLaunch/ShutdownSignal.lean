/-!
# Shutdown signals

A signal is raised once and for all. Tokens are handles of signals, and waiters wait for a signal
through a token. Raising takes two steps: the flag goes up, then the waiters that have enrolled are
woken. The first poll of a waiter takes three: it enrols, it looks at the flag, and if that is down
it suspends itself, unless it has been woken meanwhile.

* `ShutdownSignals` — signals, tokens and waiters.
* `raiseFlag`, `wake` — the steps of a cancellation, `cancel` both.
* `enroll`, `look`, `suspend` — the steps of a first poll, `poll` a whole poll.
-/

namespace JobLaunch

/-- How far a waiter has come. -/
inductive WaiterPhase where
  | idle
  /-- Enrolled, and about to look at the flag. -/
  | enrolled
  /-- Has found the flag down, and is about to suspend itself. -/
  | looked
  /-- Waits to be woken. -/
  | suspended
  | finished
  deriving DecidableEq, Inhabited

structure Waiter where
  signal : Nat
  phase : WaiterPhase := .idle
  /-- Has it been woken since it enrolled? -/
  woken : Bool := false
  deriving DecidableEq, Inhabited

namespace Waiter

def wakeIf (signal : Nat) (w : Waiter) : Waiter :=
  if w.signal = signal && (w.phase = .enrolled || w.phase = .looked || w.phase = .suspended) then
    { w with woken := true }
  else w

/-- The first step of a first poll. -/
def enroll (w : Waiter) : Waiter :=
  if w.phase = .idle then { w with phase := .enrolled } else w

/-- The second step of a first poll. -/
def look (raised : Bool) (w : Waiter) : Waiter :=
  if w.phase = .enrolled then { w with phase := if raised then .finished else .looked } else w

/-- The last step of a first poll, and the only step of a later one. -/
def suspend (w : Waiter) : Waiter :=
  if w.phase = .looked || w.phase = .suspended then
    { w with phase := if w.woken then .finished else .suspended }
  else w

end Waiter

/-- Signals, tokens and waiters, each numbered from zero. -/
structure ShutdownSignals where
  flags : List Bool := []
  /-- The signal of each token. -/
  tokens : List Nat := []
  waiters : List Waiter := []
  deriving DecidableEq, Inhabited

namespace ShutdownSignals

/-- A new signal with a token; returns the token's number. -/
def create (s : ShutdownSignals) : Nat × ShutdownSignals :=
  (s.tokens.length,
    { s with flags := s.flags ++ [false], tokens := s.tokens ++ [s.flags.length] })

/-- Another token of the same signal; returns its number. -/
def clone (s : ShutdownSignals) (token : Nat) : Nat × ShutdownSignals :=
  (s.tokens.length, { s with tokens := s.tokens ++ [s.tokens[token]?.getD s.flags.length] })

def isRaised (s : ShutdownSignals) (signal : Nat) : Bool := s.flags[signal]?.getD false

def isCancelled (s : ShutdownSignals) (token : Nat) : Bool :=
  (s.tokens[token]?.map s.isRaised).getD false

def raiseFlag (s : ShutdownSignals) (signal : Nat) : ShutdownSignals :=
  { s with flags := s.flags.set signal true }

def wake (s : ShutdownSignals) (signal : Nat) : ShutdownSignals :=
  { s with waiters := s.waiters.map (Waiter.wakeIf signal) }

def cancel (s : ShutdownSignals) (token : Nat) : ShutdownSignals :=
  match s.tokens[token]? with
  | some signal => (s.raiseFlag signal).wake signal
  | none => s

/-- A new waiter for the signal of a token; returns its number. -/
def wait (s : ShutdownSignals) (token : Nat) : Nat × ShutdownSignals :=
  (s.waiters.length,
    { s with waiters := s.waiters ++ [⟨s.tokens[token]?.getD s.flags.length, .idle, false⟩] })

def updateWaiter (s : ShutdownSignals) (i : Nat) (f : Waiter → Waiter) : ShutdownSignals :=
  { s with waiters := s.waiters.modify i f }

def enroll (s : ShutdownSignals) (i : Nat) : ShutdownSignals := s.updateWaiter i Waiter.enroll

/-- A waiter looks whether its signal is raised. -/
def look (s : ShutdownSignals) (i : Nat) : ShutdownSignals :=
  s.updateWaiter i fun w => Waiter.look (s.isRaised w.signal) w

def suspend (s : ShutdownSignals) (i : Nat) : ShutdownSignals := s.updateWaiter i Waiter.suspend

def isFinished (s : ShutdownSignals) (i : Nat) : Bool :=
  (s.waiters[i]?.map fun w => decide (w.phase = .finished)).getD false

/-- Polls a waiter: has it finished? -/
def poll (s : ShutdownSignals) (i : Nat) : Bool × ShutdownSignals :=
  let s := ((s.enroll i).look i).suspend i
  (s.isFinished i, s)

end ShutdownSignals

end JobLaunch
