import JobLaunch.Text.Decimal
import JobLaunch.Text.Inspect

/-!
# The event bus

Events are numbered from zero in the order of emission, and the bus keeps the latest of them. A
receiver is at the number of the event that it gets next; one that falls behind what is kept is told
how many events it missed.

* `EventBus` — the kept events and the receivers.
* `EventBus.emit`, `EventBus.subscribe`, `EventBus.unsubscribe`, `EventBus.receive`.
* `EventBus.receiveAll` — everything up to the end, or up to a gap.
-/

namespace JobLaunch

structure EventBus (α : Type) where
  capacity : Nat
  /-- The latest events, oldest first. -/
  kept : List α := []
  /-- The number of events before the kept ones. -/
  dropped : Nat := 0
  /-- For each receiver the number of its next event; none once it has unsubscribed. -/
  receivers : List (Option Nat) := []
  deriving DecidableEq, Inhabited

/-- What a receiver gets. -/
inductive Delivery (α : Type) where
  | event (payload : α)
  /-- So many events are no longer kept. -/
  | lagged (missed : Nat)
  | empty
  | closed
  deriving DecidableEq, Inhabited

namespace EventBus

variable {α : Type}

/-- A bus with a capacity, which must not be zero. -/
def new? (capacity : Nat) : Option (EventBus α) :=
  if capacity = 0 then none else some { capacity }

/-- The number of events that are kept: the capacity rounded up to a power of two. -/
def room (b : EventBus α) : Nat :=
  if b.capacity ≤ 1 then 1 else Nat.pow 2 ((b.capacity - 1).log2 + 1)

theorem exists_room_eq (b : EventBus α) : ∃ k, b.room = Nat.pow 2 k := by
  unfold room
  split
  · exact ⟨0, rfl⟩
  · exact ⟨_, rfl⟩

theorem room_le_pow_iff (b : EventBus α) (k : Nat) : b.room ≤ Nat.pow 2 k ↔ b.capacity ≤ Nat.pow 2 k := by
  simp only [room, Nat.pow_eq]
  split
  · next small => exact iff_of_true Nat.one_le_two_pow (Nat.le_trans small Nat.one_le_two_pow)
  · have hlog := @Nat.log2_lt (b.capacity - 1) k (by omega)
    rw [Nat.pow_le_pow_iff_right (by decide), Nat.succ_le_iff, hlog]
    omega

theorem capacity_le_room (b : EventBus α) : b.capacity ≤ b.room := by
  obtain ⟨k, hk⟩ := b.exists_room_eq
  rw [hk]
  exact (b.room_le_pow_iff k).1 (Nat.le_of_eq hk)

def emitted (b : EventBus α) : Nat := b.dropped + b.kept.length

def subscribers (b : EventBus α) : Nat := b.receivers.countP (·.isSome)

/-- Adds a receiver that gets the events from now on; returns its number. -/
def subscribe (b : EventBus α) : Nat × EventBus α :=
  (b.receivers.length, { b with receivers := b.receivers ++ [some b.emitted] })

def unsubscribe (b : EventBus α) (i : Nat) : EventBus α :=
  { b with receivers := b.receivers.set i none }

/-- Adds an event and lets the oldest go if there are too many. -/
def emit (b : EventBus α) (payload : α) : EventBus α :=
  let all := b.kept ++ [payload]
  let excess := all.length - b.room
  { b with kept := all.drop excess, dropped := b.dropped + excess }

/-- What a receiver at the number of an event gets, and where it is then. -/
def deliver (b : EventBus α) (next : Nat) : Delivery α × Nat :=
  if next < b.dropped then (.lagged (b.dropped - next), b.dropped)
  else match b.kept[next - b.dropped]? with
    | some payload => (.event payload, next + 1)
    | none => (.empty, next)

/-- What a receiver gets next. -/
def receive (b : EventBus α) (i : Nat) : Delivery α × EventBus α :=
  match b.receivers[i]? with
  | some (some next) =>
    let (d, next) := b.deliver next
    (d, { b with receivers := b.receivers.set i (some next) })
  | _ => (.closed, b)

/-- The events that a receiver gets, at most so many, up to anything that is no event. -/
def receiveWithin : Nat → EventBus α → Nat → List α × EventBus α
  | 0, b, _ => ([], b)
  | fuel + 1, b, i =>
    match b.receive i with
    | (.event payload, b) =>
      let (more, b) := receiveWithin fuel b i
      (payload :: more, b)
    | (_, b) => ([], b)

/-- The events that a receiver gets up to anything that is no event; there are at most as many as
are kept. -/
def receiveAll (b : EventBus α) (i : Nat) : List α × EventBus α :=
  receiveWithin (b.kept.length + 1) b i

def inspect (b : EventBus α) : String :=
  Inspect.record "EventBus"
    [("capacity", Decimal.text b.capacity), ("subscribers", Decimal.text b.subscribers)]

end EventBus

end JobLaunch
