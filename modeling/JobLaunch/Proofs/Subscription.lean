import JobLaunch.EventBus
import Mathlib.Data.List.Forall2
import Mathlib.Data.List.Induction

/-!
# What receivers get

A bus keeps only the latest events, and its receivers are at different places.

* `EventBus.Action` : something that is done with a bus; `EventBus.run`, `EventBus.replies` : what comes of it;
* `EventBus.news` : the events since a receiver subscribed; `EventBus.passed` : how many of them its replies account for;
* `Delivery.GoesOn` : a reply goes on where the unread events begin;
* `EventBus.receive_run` : a reply from the unread events alone;
* `EventBus.receiveAll_emitAll` : what is published reaches a receiver;
* `EventBus.receivers_miss_nothing` : every reply goes on, whatever the other receivers do.
-/

namespace JobLaunch

variable {α : Type}

/-! ## Replies -/

namespace Delivery

/-- The number of events that a reply accounts for. -/
def span : Delivery α → Nat
  | event _ => 1
  | lagged missed => missed
  | empty | closed => 0

/-- Does the reply tell that events were missed? -/
def isLagged : Delivery α → Bool
  | lagged _ => true
  | event _ | empty | closed => false

/-- A reply goes on where the unread events begin: with the next of them; over some that are missed, if more are unread
than a capacity; or not at all, if there is none. -/
inductive GoesOn (capacity : Nat) : List α → Delivery α → Prop
  | event (payload : α) (rest : List α) : GoesOn capacity (payload :: rest) (.event payload)
  | lagged (missed rest : List α) (any : missed ≠ []) (behind : capacity < (missed ++ rest).length) :
    GoesOn capacity (missed ++ rest) (.lagged missed.length)
  | empty : GoesOn capacity [] .empty

/-- A reply accounts for a part of the events. -/
def Covers : Delivery α → List α → Prop
  | event payload, es => es = [payload]
  | lagged missed, es => es.length = missed
  | empty, es | closed, es => es = []

/-- The reply to a receiver with unread events, if so many of them are kept. -/
def next (room : Nat) (unread : List α) : Delivery α :=
  if room < unread.length then .lagged (unread.length - room)
  else match unread with
    | [] => .empty
    | payload :: _ => .event payload

theorem next_of_behind {room : Nat} {unread : List α} (h : room < unread.length) :
    next room unread = .lagged (unread.length - room) := if_pos h

theorem next_of_near {room : Nat} {payload : α} {rest : List α} (h : (payload :: rest).length ≤ room) :
    next room (payload :: rest) = .event payload := if_neg (Nat.not_lt.2 h)

theorem next_nil (room : Nat) : next room ([] : List α) = .empty := if_neg (Nat.not_lt_zero room)

theorem next_cases {room : Nat} {P : Delivery α → Prop} (unread : List α)
    (behind : room < unread.length → P (.lagged (unread.length - room)))
    (near : ∀ payload rest, unread = payload :: rest → (payload :: rest).length ≤ room → P (.event payload))
    (none : unread = [] → P .empty) : P (next room unread) := by
  rcases Nat.lt_or_ge room unread.length with h | h
  · rw [next_of_behind h]
    exact behind h
  · cases unread with
    | nil =>
      rw [next_nil]
      exact none rfl
    | cons payload rest =>
      rw [next_of_near h]
      exact near payload rest rfl h

theorem goesOn_next {capacity room : Nat} (h : capacity ≤ room) (unread : List α) :
    (next room unread).GoesOn capacity unread := by
  refine next_cases (P := fun d => d.GoesOn capacity unread) unread (fun behind => ?_) ?_ ?_
  · have hsplit := List.take_append_drop (unread.length - room) unread
    have hmissed : (unread.take (unread.length - room)).length = unread.length - room := by
      rw [List.length_take]
      omega
    have hany : unread.take (unread.length - room) ≠ [] := by
      rw [← List.length_pos_iff]
      omega
    have hgoes := @GoesOn.lagged α capacity (unread.take (unread.length - room)) (unread.drop (unread.length - room)) hany
      (by rw [hsplit]; omega)
    rwa [hsplit, hmissed] at hgoes
  · rintro payload rest rfl -
    exact .event payload rest
  · rintro rfl
    exact .empty

theorem isLagged_next (room : Nat) (unread : List α) : (next room unread).isLagged = decide (room < unread.length) := by
  refine next_cases (P := fun d => d.isLagged = decide (room < unread.length)) unread (fun behind => ?_) ?_ ?_
  · exact (decide_eq_true behind).symm
  · rintro payload rest rfl near
    exact (decide_eq_false (Nat.not_lt.2 near)).symm
  · rintro rfl
    exact (decide_eq_false (Nat.not_lt_zero room)).symm

theorem covers_next (room : Nat) (unread : List α) : (next room unread).Covers (unread.take (next room unread).span) := by
  refine next_cases (P := fun d => d.Covers (unread.take d.span)) unread (fun behind => ?_) ?_ fun _ => rfl
  · exact List.length_take_of_le (Nat.sub_le _ _)
  · rintro payload rest rfl -
    rfl

theorem span_next_le (room : Nat) (unread : List α) : (next room unread).span ≤ unread.length := by
  refine next_cases (P := fun d => d.span ≤ unread.length) unread (fun _ => Nat.sub_le _ _) ?_ ?_
  · rintro payload rest rfl -
    exact Nat.le_add_left 1 rest.length
  · exact fun _ => Nat.zero_le _

end Delivery

namespace EventBus

/-! ## Runs -/

/-- Something that is done with a bus. -/
inductive Action (α : Type) where
  | subscribe
  | unsubscribe (receiver : Nat)
  | emit (payload : α)
  | receive (receiver : Nat)

def act (b : EventBus α) : Action α → EventBus α
  | .subscribe => b.subscribe.2
  | .unsubscribe i => b.unsubscribe i
  | .emit payload => b.emit payload
  | .receive i => (b.receive i).2

def run (b : EventBus α) (as : List (Action α)) : EventBus α := as.foldl act b

def reply? (i : Nat) (b : EventBus α) : Action α → Option (Delivery α)
  | .receive j => if j = i then some (b.receive i).1 else none
  | .subscribe | .unsubscribe _ | .emit _ => none

/-- What a receiver gets with actions, in order. -/
def replies (i : Nat) : EventBus α → List (Action α) → List (Delivery α)
  | _, [] => []
  | b, a :: as => (reply? i b a).toList ++ replies i (b.act a) as

/-- The number of events that replies account for. -/
def passed (ds : List (Delivery α)) : Nat := ds.foldr (·.span + ·) 0

def Action.payload? : Action α → Option α
  | .emit payload => some payload
  | .subscribe | .unsubscribe _ | .receive _ => none

/-- All events that are emitted with actions. -/
def published (as : List (Action α)) : List α := as.filterMap Action.payload?

def Action.subscribes : Action α → Bool
  | .subscribe => true
  | .unsubscribe _ | .emit _ | .receive _ => false

/-- The events that are emitted from now on, unless a receiver unsubscribes. -/
def newsOf (i : Nat) : List (Action α) → Option (List α)
  | [] => some []
  | .emit payload :: as => (newsOf i as).map (payload :: ·)
  | .unsubscribe j :: as => if j = i then none else newsOf i as
  | .subscribe :: as | .receive _ :: as => newsOf i as

/-- The events for a receiver that subscribes after so many others. -/
def newsAfter (i : Nat) : Nat → List (Action α) → Option (List α)
  | _, [] => none
  | 0, .subscribe :: as => newsOf i as
  | n + 1, .subscribe :: as => newsAfter i n as
  | n, .unsubscribe _ :: as | n, .emit _ :: as | n, .receive _ :: as => newsAfter i n as

/-- The events since a receiver subscribed; none if it is not subscribed. Receivers are numbered as they subscribe. -/
def news (i : Nat) (as : List (Action α)) : Option (List α) := newsAfter i i as

/-- Does an action matter to a receiver? What others receive, and that they unsubscribe, does not. -/
def Action.concerns (i : Nat) : Action α → Bool
  | .receive j | .unsubscribe j => j = i
  | .subscribe | .emit _ => true

theorem run_append (b : EventBus α) (as bs : List (Action α)) : b.run (as ++ bs) = (b.run as).run bs :=
  List.foldl_append

theorem replies_append (i : Nat) (b : EventBus α) (as bs : List (Action α)) :
    replies i b (as ++ bs) = replies i b as ++ replies i (b.run as) bs := by
  induction as generalizing b with
  | nil => rfl
  | cons a as ih =>
    rw [List.cons_append, replies, ih, ← List.append_assoc]
    rfl

theorem published_append (as bs : List (Action α)) : published (as ++ bs) = published as ++ published bs :=
  List.filterMap_append

theorem run_concat (b : EventBus α) (as : List (Action α)) (a : Action α) : b.run (as ++ [a]) = (b.run as).act a := by
  rw [run_append]
  rfl

theorem replies_concat (i : Nat) (b : EventBus α) (as : List (Action α)) (a : Action α) :
    replies i b (as ++ [a]) = replies i b as ++ (reply? i (b.run as) a).toList := by
  rw [replies_append, replies, replies, List.append_nil]

theorem published_concat (as : List (Action α)) (a : Action α) :
    published (as ++ [a]) = published as ++ a.payload?.toList := by
  rw [published_append]
  cases a <;> rfl

theorem passed_append (ds es : List (Delivery α)) : passed (ds ++ es) = passed ds + passed es := by
  induction ds with
  | nil => exact (Nat.zero_add _).symm
  | cons d ds ih => exact (congrArg (d.span + ·) ih).trans (Nat.add_assoc _ _ _).symm

/-! ## News -/

theorem newsOf_append (i : Nat) (as bs : List (Action α)) : newsOf i (as ++ bs) =
    (newsOf i as).bind fun es => (newsOf i bs).map (es ++ ·) := by
  induction as with
  | nil => cases h : newsOf i bs <;> simp [newsOf, h]
  | cons a as ih =>
    cases a with
    | subscribe => exact ih
    | receive j => exact ih
    | unsubscribe j =>
      rw [List.cons_append, newsOf, newsOf, ih]
      split <;> rfl
    | emit payload =>
      rw [List.cons_append, newsOf, newsOf, ih]
      cases newsOf i as with
      | none => rfl
      | some es => cases newsOf i bs <;> rfl

theorem newsAfter_append_of_early (i : Nat) {n : Nat} {as : List (Action α)} (h : as.countP Action.subscribes ≤ n)
    (bs : List (Action α)) :
    newsAfter i n (as ++ bs) = newsAfter i (n - as.countP Action.subscribes) bs := by
  induction as generalizing n with
  | nil => rfl
  | cons a as ih =>
    cases a with
    | subscribe =>
      rw [List.countP_cons_of_pos rfl] at h ⊢
      obtain ⟨n, rfl⟩ : ∃ k, n = k + 1 := ⟨n - 1, by omega⟩
      rw [List.cons_append, newsAfter, ih (by omega), Nat.add_sub_add_right]
    | unsubscribe j => cases n <;> exact ih h
    | emit payload => cases n <;> exact ih h
    | receive j => cases n <;> exact ih h

theorem newsAfter_append_of_late (i : Nat) {n : Nat} {as : List (Action α)} (h : n < as.countP Action.subscribes)
    (bs : List (Action α)) : newsAfter i n (as ++ bs) =
      (newsAfter i n as).bind fun es => (newsOf i bs).map (es ++ ·) := by
  induction as generalizing n with
  | nil => cases h
  | cons a as ih =>
    cases a with
    | subscribe =>
      cases n with
      | zero => exact newsOf_append i as bs
      | succ n =>
        rw [List.countP_cons_of_pos rfl] at h
        exact ih (by omega)
    | unsubscribe j => cases n <;> exact ih h
    | emit payload => cases n <;> exact ih h
    | receive j => cases n <;> exact ih h

theorem newsAfter_of_early (i : Nat) {n : Nat} {as : List (Action α)} (h : as.countP Action.subscribes ≤ n) :
    newsAfter i n as = none := by
  have happend := newsAfter_append_of_early i h []
  rwa [List.append_nil, newsAfter] at happend

theorem news_append {i : Nat} {as : List (Action α)} {es : List α} (h : news i as = some es) (bs : List (Action α)) :
    news i (as ++ bs) = (newsOf i bs).map (es ++ ·) := by
  have late : i < as.countP Action.subscribes := by
    by_contra early
    rw [news, newsAfter_of_early i (Nat.not_lt.1 early)] at h
    cases h
  rw [news, newsAfter_append_of_late i late, show newsAfter i i as = some es from h, Option.bind_some]

theorem newsOf_eq (i : Nat) (as : List (Action α)) : newsOf i as = none ∨ newsOf i as = some (published as) := by
  induction as with
  | nil => exact .inr rfl
  | cons a as ih =>
    cases a with
    | subscribe => exact ih
    | receive j => exact ih
    | unsubscribe j =>
      rw [newsOf]
      split
      · exact .inl rfl
      · exact ih
    | emit payload =>
      rw [newsOf]
      rcases ih with ih | ih <;> rw [ih]
      · exact .inl rfl
      · exact .inr rfl

theorem news_concat (i : Nat) (as : List (Action α)) (a : Action α) : news i (as ++ [a]) =
    match a with
    | .subscribe => if as.countP Action.subscribes = i then some [] else news i as
    | .unsubscribe j => if j = i then none else news i as
    | .emit payload => (news i as).map (· ++ [payload])
    | .receive _ => news i as := by
  unfold news
  rcases Nat.lt_or_ge i (as.countP Action.subscribes) with late | early
  · rw [newsAfter_append_of_late i late]
    cases a with
    | subscribe => simp [newsOf, Nat.ne_of_gt late]
    | unsubscribe j => by_cases hj : j = i <;> simp [newsOf, hj]
    | emit payload => cases newsAfter i i as <;> rfl
    | receive j => simp [newsOf]
  · rw [newsAfter_append_of_early i early, newsAfter_of_early i early]
    cases a with
    | subscribe =>
      rcases Nat.eq_or_lt_of_le early with same | earlier
      · rw [same, Nat.sub_self, if_pos rfl]
        rfl
      · obtain ⟨k, hk⟩ := Nat.exists_eq_add_of_lt earlier
        rw [if_neg (Nat.ne_of_lt earlier), show i - as.countP Action.subscribes = k + 1 by omega]
        rfl
    | unsubscribe j => cases i - as.countP Action.subscribes <;> simp [newsAfter]
    | emit payload => cases i - as.countP Action.subscribes <;> rfl
    | receive j => cases i - as.countP Action.subscribes <;> rfl

/-! ## What is kept -/

/-- The latest events are kept. -/
structure Retains (b : EventBus α) (all : List α) : Prop where
  dropped : b.dropped = all.length - b.room
  kept : b.kept = all.drop b.dropped

theorem eq_of_new? {capacity : Nat} {b : EventBus α} (h : new? capacity = some b) : b = { capacity } := by
  unfold new? at h
  split at h <;> cases h
  rfl

theorem capacity_act (b : EventBus α) (a : Action α) : (b.act a).capacity = b.capacity := by
  cases a with
  | receive i =>
    unfold act receive
    dsimp only
    split <;> rfl
  | _ => rfl

theorem room_act (b : EventBus α) (a : Action α) : (b.act a).room = b.room := by
  unfold room
  rw [capacity_act]

theorem room_run (b : EventBus α) (as : List (Action α)) : (b.run as).room = b.room := by
  induction as using List.reverseRecOn with
  | nil => rfl
  | append_singleton as a ih => rw [run_concat, room_act, ih]

theorem act_of_silent (b : EventBus α) {a : Action α} (h : a.payload? = none) :
    (b.act a).kept = b.kept ∧ (b.act a).dropped = b.dropped := by
  cases a with
  | emit payload => cases h
  | receive i =>
    unfold act receive
    dsimp only
    split <;> exact ⟨rfl, rfl⟩
  | _ => exact ⟨rfl, rfl⟩

theorem Retains.emit {b : EventBus α} {all : List α} (h : b.Retains all) (payload : α) :
    (b.emit payload).Retains (all ++ [payload]) := by
  have hlength : b.kept.length = all.length - b.dropped := by rw [h.kept, List.length_drop]
  have hdropped := h.dropped
  constructor
  · show b.dropped + ((b.kept ++ [payload]).length - b.room) = (all ++ [payload]).length - b.room
    simp only [List.length_append, List.length_singleton, hlength]
    omega
  · show (b.kept ++ [payload]).drop _ = (all ++ [payload]).drop (b.dropped + ((b.kept ++ [payload]).length - b.room))
    have hkept : b.kept ++ [payload] = (all ++ [payload]).drop b.dropped := by
      rw [List.drop_append_of_le_length (by omega), ← h.kept]
    rw [← List.drop_drop, ← hkept]

theorem Retains.act {b : EventBus α} {all : List α} (h : b.Retains all) (a : Action α) :
    (b.act a).Retains (all ++ a.payload?.toList) := by
  cases hpayload : a.payload? with
  | none =>
    obtain ⟨hkept, hdropped⟩ := act_of_silent b hpayload
    rw [Option.toList_none, List.append_nil]
    constructor
    · rw [hdropped, room_act]
      exact h.dropped
    · rw [hkept, hdropped]
      exact h.kept
  | some payload =>
    cases a with
    | emit _ =>
      cases hpayload
      exact h.emit payload
    | _ => cases hpayload

theorem retains_run {capacity : Nat} {b : EventBus α} (accepted : new? capacity = some b) (as : List (Action α)) :
    (b.run as).Retains (published as) := by
  induction as using List.reverseRecOn with
  | nil =>
    rw [eq_of_new? accepted]
    exact ⟨(Nat.zero_sub _).symm, rfl⟩
  | append_singleton as a ih =>
    rw [run_concat, published_concat]
    exact ih.act a

theorem Retains.emitted_eq {b : EventBus α} {all : List α} (h : b.Retains all) : b.emitted = all.length := by
  have hdropped := h.dropped
  rw [emitted, h.kept, List.length_drop]
  omega

theorem Retains.deliver {b : EventBus α} {all : List α} (h : b.Retains all) {n : Nat} (known : n ≤ all.length) :
    b.deliver n = (.next b.room (all.drop n), n + (Delivery.next b.room (all.drop n)).span) := by
  have hlength : (all.drop n).length = all.length - n := List.length_drop
  have hdropped := h.dropped
  unfold EventBus.deliver
  by_cases hbehind : n < b.dropped
  · have hmissed : (all.drop n).length - b.room = b.dropped - n := by omega
    rw [if_pos hbehind, Delivery.next_of_behind (by omega), hmissed, Delivery.span]
    congr 1
    omega
  · have hget : b.kept[n - b.dropped]? = all[n]? := by
      rw [h.kept, List.getElem?_drop]
      congr 1
      omega
    rw [if_neg hbehind, hget]
    cases hunread : all.drop n with
    | nil =>
      have hnone : all[n]? = none := List.getElem?_eq_none (by rw [hunread, List.length_nil] at hlength; omega)
      rw [hnone, Delivery.next_nil]
      rfl
    | cons payload rest =>
      have hsome : all[n]? = some payload := by
        rw [← List.head?_drop, hunread]
        rfl
      rw [hsome, Delivery.next_of_near (by rw [← hunread]; omega)]
      rfl

/-! ## Places -/

/-- The number of the event that a receiver gets next; none if it is not subscribed. -/
def place? (b : EventBus α) (i : Nat) : Option Nat := b.receivers[i]?.join

theorem place?_subscribe (b : EventBus α) (i : Nat) :
    b.subscribe.2.place? i = if b.receivers.length = i then some b.emitted else b.place? i := by
  show (b.receivers ++ [some b.emitted])[i]?.join = _
  split
  · next h => rw [← h, List.getElem?_concat_length, Option.join_some]
  · next h =>
    rcases Nat.lt_or_gt_of_ne h with hlt | hgt
    · have hnone : (b.receivers ++ [some b.emitted])[i]? = none := List.getElem?_eq_none (by simp; omega)
      rw [hnone, place?, List.getElem?_eq_none (Nat.le_of_lt hlt)]
    · rw [List.getElem?_append_left hgt, place?]

theorem place?_unsubscribe (b : EventBus α) (j i : Nat) :
    (b.unsubscribe j).place? i = if j = i then none else b.place? i := by
  show (b.receivers.set j none)[i]?.join = _
  rw [List.getElem?_set]
  split
  · split <;> rfl
  · rfl

theorem receive_of_none {b : EventBus α} {i : Nat} (h : b.place? i = none) : b.receive i = (.closed, b) := by
  unfold receive
  split
  · next hget =>
    rw [place?, hget] at h
    cases h
  · rfl

theorem receive_of_some {b : EventBus α} {i n : Nat} (h : b.place? i = some n) : b.receive i =
    ((b.deliver n).1, { b with receivers := b.receivers.set i (some (b.deliver n).2) }) := by
  have hget : b.receivers[i]? = some (some n) := Option.join_eq_some_iff.1 h
  unfold receive
  rw [hget]

theorem place?_receive {b : EventBus α} {j n : Nat} (h : b.place? j = some n) (i : Nat) :
    (b.receive j).2.place? i = if j = i then some (b.deliver n).2 else b.place? i := by
  have hget : b.receivers[j]? = some (some n) := Option.join_eq_some_iff.1 h
  have hj : j < b.receivers.length := (List.getElem?_eq_some_iff.1 hget).1
  rw [receive_of_some h]
  show (b.receivers.set j (some (b.deliver n).2))[i]?.join = _
  rw [List.getElem?_set, if_pos hj]
  split <;> rfl

theorem place?_receive_of_ne (b : EventBus α) {j i : Nat} (h : j ≠ i) : (b.receive j).2.place? i = b.place? i := by
  cases hplace : b.place? j with
  | none => rw [receive_of_none hplace]
  | some n => rw [place?_receive hplace, if_neg h]

theorem length_receivers_act (b : EventBus α) (a : Action α) :
    (b.act a).receivers.length = b.receivers.length + [a].countP Action.subscribes := by
  cases a with
  | subscribe => exact List.length_append
  | unsubscribe i => exact List.length_set
  | emit payload => rfl
  | receive i =>
    cases hplace : b.place? i with
    | none =>
      rw [act, receive_of_none hplace]
      rfl
    | some n =>
      rw [act, receive_of_some hplace]
      exact List.length_set

theorem length_receivers_run {capacity : Nat} {b : EventBus α} (accepted : new? capacity = some b)
    (as : List (Action α)) : (b.run as).receivers.length = as.countP Action.subscribes := by
  induction as using List.reverseRecOn with
  | nil =>
    rw [eq_of_new? accepted]
    rfl
  | append_singleton as a ih => rw [run_concat, length_receivers_act, ih, List.countP_append]

/-- Where a receiver is among all events, if it has passed so many of those since it subscribed. -/
inductive Placed (all : List α) (n : Nat) : Option Nat → Option (List α) → Prop
  | away : Placed all n none none
  | reading (place : Nat) (es : List α) (known : place ≤ all.length) (within : n ≤ es.length)
    (ahead : all.drop place = es.drop n) : Placed all n (some place) (some es)

theorem Placed.emit {all : List α} {n : Nat} {place : Option Nat} {es : Option (List α)} (h : Placed all n place es)
    (payload : α) : Placed (all ++ [payload]) n place (es.map (· ++ [payload])) := by
  cases h with
  | away => exact .away
  | reading place es known within ahead =>
    refine .reading place _ ?_ ?_ ?_
    · rw [List.length_append]
      omega
    · rw [List.length_append]
      omega
    · rw [List.drop_append_of_le_length known, List.drop_append_of_le_length within, ahead]

theorem Placed.pass {all es : List α} {n place : Nat} (h : Placed all n (some place) (some es)) {k : Nat}
    (unread : k ≤ (es.drop n).length) : Placed all (n + k) (some (place + k)) (some es) := by
  cases h with
  | reading _ _ known within ahead =>
    have hahead := congrArg List.length ahead
    rw [List.length_drop] at unread
    rw [List.length_drop, List.length_drop] at hahead
    refine .reading _ _ (by omega) (by omega) ?_
    rw [← List.drop_drop, ← List.drop_drop, ahead]

theorem Placed.receive {b : EventBus α} {all : List α} {i n : Nat} {es : Option (List α)}
    (h : Placed all n (b.place? i) es) (hretains : b.Retains all) :
    Placed all (n + (b.receive i).1.span) ((b.receive i).2.place? i) es := by
  cases hplace : b.place? i with
  | none =>
    rw [hplace] at h
    rw [receive_of_none hplace, hplace]
    exact h
  | some place =>
    rw [hplace] at h
    rw [place?_receive hplace, if_pos rfl, receive_of_some hplace]
    cases h with
    | reading _ es known within ahead =>
      rw [hretains.deliver known, ahead]
      exact (Placed.reading place es known within ahead).pass (Delivery.span_next_le b.room (es.drop n))

theorem replies_of_early {capacity : Nat} {b : EventBus α} (accepted : new? capacity = some b) {i : Nat}
    {as : List (Action α)} (early : as.countP Action.subscribes ≤ i) : ∀ d ∈ replies i b as, d = .closed := by
  induction as using List.reverseRecOn with
  | nil => exact fun d hd => nomatch hd
  | append_singleton as a ih =>
    rw [List.countP_append] at early
    have hbefore : as.countP Action.subscribes ≤ i := Nat.le_of_add_right_le early
    have hnone : (b.run as).place? i = none := by
      rw [place?, List.getElem?_eq_none (by rw [length_receivers_run accepted]; exact hbefore)]
      rfl
    rw [replies_concat, List.forall_mem_append]
    refine ⟨ih hbefore, fun d hd => ?_⟩
    cases a with
    | receive j =>
      rw [reply?] at hd
      split at hd
      · next hj =>
        subst hj
        rw [receive_of_none hnone] at hd
        exact List.mem_singleton.1 hd
      · cases hd
    | _ => cases hd

theorem passed_of_early {capacity : Nat} {b : EventBus α} (accepted : new? capacity = some b) {i : Nat}
    {as : List (Action α)} (early : as.countP Action.subscribes ≤ i) : passed (replies i b as) = 0 := by
  have hclosed := replies_of_early accepted early
  generalize replies i b as = ds at hclosed
  induction ds with
  | nil => rfl
  | cons d ds ih =>
    rw [List.forall_mem_cons] at hclosed
    rw [← List.singleton_append, passed_append, ih hclosed.2, hclosed.1]
    rfl

/-- **A receiver is behind the events that its replies account for,** and what is ahead of it is the rest. -/
theorem placed_run {capacity : Nat} {b : EventBus α} (accepted : new? capacity = some b) (i : Nat)
    (as : List (Action α)) :
    Placed (published as) (passed (replies i b as)) ((b.run as).place? i) (news i as) := by
  induction as using List.reverseRecOn with
  | nil =>
    rw [eq_of_new? accepted]
    cases i <;> exact .away
  | append_singleton as a ih =>
    have hretains := retains_run accepted as
    rw [news_concat, replies_concat, passed_append, published_concat, run_concat]
    cases a with
    | subscribe =>
      have hpassed : passed (replies i b as) + passed (reply? i (b.run as) .subscribe).toList = passed (replies i b as) := rfl
      rw [hpassed, act, place?_subscribe, length_receivers_run accepted, Action.payload?, Option.toList_none, List.append_nil]
      split
      · next hi =>
        -- the new receiver has got nothing yet, and is where the next event will be
        rw [passed_of_early accepted (Nat.le_of_eq hi), hretains.emitted_eq]
        exact .reading _ _ (Nat.le_refl _) (Nat.le_refl _) List.drop_length
      · exact ih
    | unsubscribe j =>
      rw [act, place?_unsubscribe]
      dsimp only
      by_cases hj : j = i
      · rw [if_pos hj, if_pos hj]
        exact .away
      · rw [if_neg hj, if_neg hj]
        simpa [reply?, passed, Action.payload?] using ih
    | emit payload => exact ih.emit payload
    | receive j =>
      rw [act, reply?, Action.payload?, Option.toList_none, List.append_nil]
      split
      · next hj =>
        subst hj
        exact ih.receive hretains
      · next hj =>
        rw [place?_receive_of_ne _ hj]
        exact ih

/-- **A reply depends on the unread events alone.** -/
theorem receive_run {capacity : Nat} {b : EventBus α} (accepted : new? capacity = some b) {i : Nat}
    {as : List (Action α)} {es : List α} (subscribed : news i as = some es) :
    ((b.run as).receive i).1 = .next b.room (es.drop (passed (replies i b as))) := by
  have hplaced := placed_run accepted i as
  rw [subscribed] at hplaced
  generalize hplace : (b.run as).place? i = place at hplaced
  cases hplaced with
  | reading place es known within ahead =>
    rw [receive_of_some hplace, (retains_run accepted as).deliver known, room_run, ahead]

theorem receive_run_of_away {capacity : Nat} {b : EventBus α} (accepted : new? capacity = some b) {i : Nat}
    {as : List (Action α)} (away : news i as = none) : ((b.run as).receive i).1 = .closed := by
  have hplaced := placed_run accepted i as
  rw [away] at hplaced
  generalize hplace : (b.run as).place? i = place at hplaced
  cases hplaced with
  | away => rw [receive_of_none hplace]

/-- **The replies of a receiver account for the events that it has passed,** one part for each. -/
theorem exists_parts {capacity : Nat} {b : EventBus α} (accepted : new? capacity = some b) {i : Nat}
    {as : List (Action α)} {es : List α} (subscribed : news i as = some es) :
    ∃ parts, parts.flatten = es.take (passed (replies i b as)) ∧ List.Forall₂ Delivery.Covers (replies i b as) parts := by
  induction as using List.reverseRecOn generalizing es with
  | nil => cases i <;> cases subscribed
  | append_singleton as a ih =>
    have hplaced := placed_run accepted i as
    rw [news_concat] at subscribed
    rw [replies_concat, passed_append]
    cases a with
    | subscribe =>
      dsimp only at subscribed
      split at subscribed
      · next hi =>
        cases subscribed
        have hclosed := replies_of_early accepted (Nat.le_of_eq hi)
        refine ⟨(replies i b as).map fun _ => [], by simp, ?_⟩
        rw [reply?, Option.toList_none, List.append_nil, List.forall₂_map_right_iff, List.forall₂_same]
        intro d hd
        rw [hclosed d hd]
        rfl
      · simpa [reply?, passed] using ih subscribed
    | unsubscribe j =>
      dsimp only at subscribed
      split at subscribed
      · cases subscribed
      · simpa [reply?, passed] using ih subscribed
    | emit payload =>
      obtain ⟨es₀, hes₀, rfl⟩ := Option.map_eq_some_iff.1 subscribed
      rw [hes₀] at hplaced
      generalize (b.run as).place? i = place at hplaced
      cases hplaced with
      | reading place es known within ahead =>
        obtain ⟨parts, hflat, hcovers⟩ := ih hes₀
        refine ⟨parts, ?_, by simpa [reply?] using hcovers⟩
        rw [hflat]
        exact (List.take_append_of_le_length within).symm
    | receive j =>
      obtain ⟨parts, hflat, hcovers⟩ := ih subscribed
      rw [reply?]
      split
      · next hj =>
        subst hj
        rw [receive_run accepted subscribed]
        generalize hd : Delivery.next b.room (es.drop (passed (replies j b as))) = d
        refine ⟨parts ++ [(es.drop (passed (replies j b as))).take d.span], ?_, ?_⟩
        · simp [hflat, passed, List.take_add]
        · refine List.rel_append hcovers (.cons ?_ .nil)
          rw [← hd]
          exact Delivery.covers_next _ _
      · exact ⟨parts, by simpa [passed] using hflat, by simpa using hcovers⟩

/-! ## Published events -/

/-- Adds events in order. -/
def emitAll (b : EventBus α) (payloads : List α) : EventBus α := payloads.foldl emit b

theorem emitAll_eq_run (b : EventBus α) (payloads : List α) : b.emitAll payloads = b.run (payloads.map .emit) := by
  rw [run, List.foldl_map]
  rfl

theorem newsOf_map_emit (i : Nat) (payloads : List α) : newsOf i (payloads.map .emit) = some payloads := by
  induction payloads with
  | nil => rfl
  | cons payload payloads ih =>
    rw [List.map_cons, newsOf, ih]
    rfl

theorem replies_map_emit (i : Nat) (b : EventBus α) (payloads : List α) : replies i b (payloads.map .emit) = [] := by
  induction payloads generalizing b with
  | nil => rfl
  | cons payload payloads ih => exact ih (b.emit payload)

theorem receiveWithin_run {capacity : Nat} {b : EventBus α} (accepted : new? capacity = some b) {i fuel : Nat}
    {as : List (Action α)} {es : List α} (subscribed : news i as = some es)
    (near : (es.drop (passed (replies i b as))).length ≤ b.room)
    (enough : (es.drop (passed (replies i b as))).length < fuel) :
    (receiveWithin fuel (b.run as) i).1 = es.drop (passed (replies i b as)) := by
  induction fuel generalizing as with
  | zero => exact absurd enough (Nat.not_lt_zero _)
  | succ fuel ih =>
    have hreply := receive_run accepted subscribed
    have hafter : ((b.run as).receive i).2 = b.run (as ++ [.receive i]) := (run_concat b as (.receive i)).symm
    have hpassed : passed (replies i b (as ++ [.receive i])) = passed (replies i b as) + ((b.run as).receive i).1.span := by
      rw [replies_concat, passed_append, reply?, if_pos rfl]
      rfl
    rw [receiveWithin]
    generalize (b.run as).receive i = r at hreply hafter hpassed
    obtain ⟨d, b'⟩ := r
    obtain rfl : b' = _ := hafter
    cases hunread : es.drop (passed (replies i b as)) with
    | nil =>
      rw [hunread, Delivery.next_nil] at hreply
      obtain rfl : d = _ := hreply
      rfl
    | cons payload rest =>
      rw [hunread] at near enough hreply
      rw [Delivery.next_of_near near] at hreply
      obtain rfl : d = _ := hreply
      have hrest : es.drop (passed (replies i b (as ++ [.receive i]))) = rest := by
        rw [hpassed, ← List.drop_drop, hunread]
        rfl
      have hmore := @ih (as ++ [.receive i]) (by rw [news_concat, subscribed])
        (by rw [hrest]; exact Nat.le_of_succ_le near) (by rw [hrest]; exact Nat.lt_of_succ_lt_succ enough)
      rw [hrest] at hmore
      exact congrArg (payload :: ·) hmore

theorem receiveAll_run {capacity : Nat} {b : EventBus α} (accepted : new? capacity = some b) {i : Nat}
    {as : List (Action α)} {es : List α} (subscribed : news i as = some es)
    (near : (es.drop (passed (replies i b as))).length ≤ b.room) :
    ((b.run as).receiveAll i).1 = es.drop (passed (replies i b as)) := by
  refine receiveWithin_run accepted subscribed near ?_
  have hplaced := placed_run accepted i as
  have hretains := retains_run accepted as
  rw [subscribed] at hplaced
  generalize (b.run as).place? i = place at hplaced
  cases hplaced with
  | reading place es known within ahead =>
    have hdropped := hretains.dropped
    rw [room_run] at hdropped
    rw [← ahead, List.length_drop] at near ⊢
    rw [hretains.kept, List.length_drop]
    omega

/-- **What is published reaches a receiver:** one whose unread events and the new ones are not more than the capacity gets
all of them, in order, when it next receives. -/
theorem receiveAll_emitAll {capacity : Nat} {b : EventBus α} (accepted : new? capacity = some b) {i : Nat}
    {as : List (Action α)} {es : List α} (subscribed : news i as = some es) (payloads : List α)
    (near : (es.drop (passed (replies i b as)) ++ payloads).length ≤ capacity) :
    (((b.run as).emitAll payloads).receiveAll i).1 = es.drop (passed (replies i b as)) ++ payloads := by
  have hnews : news i (as ++ payloads.map .emit) = some (es ++ payloads) := by
    rw [news_append subscribed, newsOf_map_emit]
    rfl
  have hpassed : passed (replies i b (as ++ payloads.map .emit)) = passed (replies i b as) := by
    rw [replies_append, replies_map_emit, List.append_nil]
  have within : passed (replies i b as) ≤ es.length := by
    have hplaced := placed_run accepted i as
    rw [subscribed] at hplaced
    generalize (b.run as).place? i = place at hplaced
    cases hplaced with
    | reading place es known within ahead => exact within
  have hunread : (es ++ payloads).drop (passed (replies i b (as ++ payloads.map .emit))) =
      es.drop (passed (replies i b as)) ++ payloads := by
    rw [hpassed, List.drop_append_of_le_length within]
  have hroom : capacity ≤ b.room := by
    have hle := b.capacity_le_room
    rwa [show b.capacity = capacity by rw [eq_of_new? accepted]] at hle
  rw [emitAll_eq_run, ← run_append, receiveAll_run accepted hnews (by rw [hunread]; exact Nat.le_trans near hroom), hunread]

/-! ## Other receivers -/

/-- Two buses look the same to a receiver. -/
structure Alike (i : Nat) (b b' : EventBus α) : Prop where
  capacity : b.capacity = b'.capacity
  kept : b.kept = b'.kept
  dropped : b.dropped = b'.dropped
  count : b.receivers.length = b'.receivers.length
  place : b.place? i = b'.place? i

namespace Alike

variable {i : Nat} {b b' : EventBus α}

theorem room (h : Alike i b b') : b.room = b'.room := by
  unfold EventBus.room
  rw [h.capacity]

theorem deliver (h : Alike i b b') (n : Nat) : b.deliver n = b'.deliver n := by
  unfold EventBus.deliver
  rw [h.kept, h.dropped]

theorem receive (h : Alike i b b') : (b.receive i).1 = (b'.receive i).1 ∧
    (b.receive i).2.place? i = (b'.receive i).2.place? i := by
  have hplace := h.place
  cases hp : b.place? i with
  | none =>
    rw [hp] at hplace
    rw [receive_of_none hp, receive_of_none hplace.symm]
    exact ⟨rfl, h.place⟩
  | some n =>
    rw [hp] at hplace
    rw [place?_receive hp, place?_receive hplace.symm, receive_of_some hp, receive_of_some hplace.symm, h.deliver]
    exact ⟨rfl, by rw [if_pos rfl, if_pos rfl]⟩

theorem emitted (h : Alike i b b') : b.emitted = b'.emitted := by
  unfold EventBus.emitted
  rw [h.kept, h.dropped]

theorem act (h : Alike i b b') (a : Action α) : Alike i (b.act a) (b'.act a) := by
  have hkept : (b.act a).kept = (b'.act a).kept ∧ (b.act a).dropped = (b'.act a).dropped := by
    cases hpayload : a.payload? with
    | none =>
      rw [(act_of_silent b hpayload).1, (act_of_silent b' hpayload).1, (act_of_silent b hpayload).2,
        (act_of_silent b' hpayload).2]
      exact ⟨h.kept, h.dropped⟩
    | some payload =>
      cases a with
      | emit payload =>
        unfold EventBus.act EventBus.emit
        dsimp only
        rw [h.kept, h.dropped, h.room]
        exact ⟨rfl, rfl⟩
      | _ => cases hpayload
  refine ⟨?_, hkept.1, hkept.2, ?_, ?_⟩
  · rw [capacity_act, capacity_act, h.capacity]
  · rw [length_receivers_act, length_receivers_act, h.count]
  · cases a with
    | subscribe =>
      rw [EventBus.act, EventBus.act, place?_subscribe, place?_subscribe, h.count, h.emitted, h.place]
    | unsubscribe j => rw [EventBus.act, EventBus.act, place?_unsubscribe, place?_unsubscribe, h.place]
    | emit payload => exact h.place
    | receive j =>
      by_cases hj : j = i
      · subst hj
        exact h.receive.2
      · rw [EventBus.act, EventBus.act, place?_receive_of_ne _ hj, place?_receive_of_ne _ hj, h.place]

theorem skip (h : Alike i b b') {a : Action α} (foreign : a.concerns i = false) : Alike i (b.act a) b' := by
  have silent : a.payload? = none ∧ a.subscribes = false ∧ (b.act a).place? i = b.place? i := by
    cases a with
    | subscribe => cases foreign
    | emit payload => cases foreign
    | unsubscribe j =>
      have hj : j ≠ i := of_decide_eq_false foreign
      refine ⟨rfl, rfl, ?_⟩
      rw [EventBus.act, place?_unsubscribe, if_neg hj]
    | receive j => exact ⟨rfl, rfl, place?_receive_of_ne b (of_decide_eq_false foreign)⟩
  obtain ⟨hpayload, hsubscribes, hplace⟩ := silent
  obtain ⟨hkept, hdropped⟩ := act_of_silent b hpayload
  refine ⟨?_, hkept.trans h.kept, hdropped.trans h.dropped, ?_, hplace.trans h.place⟩
  · rw [capacity_act, h.capacity]
  · rw [length_receivers_act, List.countP_cons_of_neg (by rw [hsubscribes]; exact Bool.false_ne_true)]
    exact h.count

end Alike

/-- **What a receiver gets does not change** if the other receivers leave out some of what they receive, and stay. -/
theorem replies_filter {i : Nat} {b b' : EventBus α} (h : Alike i b b') (as : List (Action α)) :
    replies i b' (as.filter (Action.concerns i)) = replies i b as := by
  induction as generalizing b b' with
  | nil => rfl
  | cons a as ih =>
    cases hconcerns : a.concerns i with
    | true =>
      have hreply : reply? i b' a = reply? i b a := by
        cases a with
        | receive j =>
          have hj : j = i := of_decide_eq_true hconcerns
          subst hj
          rw [reply?, reply?, h.receive.1]
        | _ => rfl
      rw [List.filter_cons_of_pos hconcerns, replies, replies, hreply, ih (h.act a)]
    | false =>
      have hreply : reply? i b a = none := by
        cases a with
        | receive j => exact if_neg (of_decide_eq_false hconcerns)
        | _ => rfl
      rw [List.filter_cons_of_neg (by rw [hconcerns]; exact Bool.false_ne_true), replies, hreply, ih (h.skip hconcerns)]
      rfl

/-! ## The result -/

theorem passed_lagged {capacity : Nat} {b : EventBus α} (accepted : new? capacity = some b) {i : Nat}
    {as : List (Action α)} {es : List α} (subscribed : news i as = some es)
    (lagged : ((b.run as).receive i).1.isLagged = true) :
    passed (replies i b (as ++ [.receive i])) = es.length - b.room := by
  rw [receive_run accepted subscribed, Delivery.isLagged_next, decide_eq_true_iff, List.length_drop] at lagged
  have hreply : ((b.run as).receive i).1 = .lagged (es.length - passed (replies i b as) - b.room) := by
    rw [receive_run accepted subscribed, Delivery.next_of_behind (by rw [List.length_drop]; exact lagged),
      List.length_drop]
  rw [replies_concat, reply?, if_pos rfl, hreply, passed_append]
  show passed (replies i b as) + (es.length - passed (replies i b as) - b.room) = es.length - b.room
  omega

theorem isLagged_of_silent {capacity : Nat} {b : EventBus α} (accepted : new? capacity = some b) {i : Nat}
    {as bs : List (Action α)} (lagged : ((b.run as).receive i).1.isLagged = true) (silent : published bs = []) :
    ((b.run (as ++ .receive i :: bs)).receive i).1.isLagged = false := by
  cases hnews : news i as with
  | none =>
    rw [receive_run_of_away accepted hnews] at lagged
    cases lagged
  | some es =>
    have hpassed := passed_lagged accepted hnews lagged
    have hnext : news i (as ++ [.receive i]) = some es := by rw [news_concat, hnews]
    rw [List.append_cons]
    rcases newsOf_eq i bs with away | stays
    · rw [receive_run_of_away accepted (by rw [news_append hnext, away]; rfl)]
      rfl
    · have hlater : news i (as ++ [.receive i] ++ bs) = some es := by
        rw [news_append hnext, stays, silent, Option.map_some, List.append_nil]
      rw [receive_run accepted hlater, Delivery.isLagged_next, replies_append, passed_append, hpassed,
        List.length_drop]
      exact decide_eq_false (by omega)

/-- **A receiver misses nothing without being told.** Its replies account for the events since it subscribed, one part
after the other; the next reply goes on where the unread ones begin, and tells of missed events only if more are unread
than the capacity, never twice unless something is emitted in between; and what other receivers do does not matter. -/
theorem receivers_miss_nothing {capacity : Nat} {b : EventBus α} (accepted : new? capacity = some b) (i : Nat)
    (as : List (Action α)) :
    (∀ es, news i as = some es → ∃ parts unread, es = parts.flatten ++ unread ∧
      List.Forall₂ Delivery.Covers (replies i b as) parts ∧ ((b.run as).receive i).1.GoesOn capacity unread) ∧
    (news i as = none → ((b.run as).receive i).1 = .closed) ∧
    (((b.run as).receive i).1.isLagged = true → ∀ bs, published bs = [] →
      ((b.run (as ++ .receive i :: bs)).receive i).1.isLagged = false) ∧
    replies i b (as.filter (Action.concerns i)) = replies i b as := by
  refine ⟨fun es subscribed => ?_, receive_run_of_away accepted, fun lagged bs => isLagged_of_silent accepted lagged,
    replies_filter ⟨rfl, rfl, rfl, rfl, rfl⟩ as⟩
  obtain ⟨parts, hflat, hcovers⟩ := exists_parts accepted subscribed
  refine ⟨parts, es.drop (passed (replies i b as)), ?_, hcovers, ?_⟩
  · rw [hflat, List.take_append_drop]
  · have hroom : capacity ≤ b.room := by
      have hle := b.capacity_le_room
      rwa [show b.capacity = capacity by rw [eq_of_new? accepted]] at hle
    rw [receive_run accepted subscribed]
    exact Delivery.goesOn_next hroom _

/-- A bus for three events keeps four: with five unread, the first receiver is told of one that it missed. -/
theorem receivers_miss_nothing_behind :
    let b : EventBus Nat := { capacity := 3 }
    let as : List (Action Nat) :=
      [.subscribe, .subscribe, .emit 0, .receive 0, .receive 1, .emit 1, .emit 2, .emit 3, .emit 4, .emit 5,
        .unsubscribe 1]
    new? 3 = some b ∧ news 0 as = some [0, 1, 2, 3, 4, 5] ∧ ((b.run as).receive 0).1 = .lagged 1 ∧
      (∃ parts unread, [0, 1, 2, 3, 4, 5] = parts.flatten ++ unread ∧
        List.Forall₂ Delivery.Covers (replies 0 b as) parts ∧ (Delivery.lagged 1).GoesOn 3 unread) ∧
      replies 0 b (as.filter (Action.concerns 0)) = replies 0 b as ∧
      ((b.run (as ++ [.receive 0, .receive 1])).receive 0).1.isLagged = false := by
  intro b as
  have accepted : new? 3 = some b := rfl
  have hnews : news 0 as = some [0, 1, 2, 3, 4, 5] := rfl
  have hlagged : ((b.run as).receive 0).1 = .lagged 1 := by decide +kernel
  obtain ⟨walk, -, again, others⟩ := receivers_miss_nothing accepted 0 as
  refine ⟨accepted, hnews, hlagged, ?_, others, again (by rw [hlagged]; rfl) [.receive 1] rfl⟩
  have hwalk := walk _ hnews
  rwa [hlagged] at hwalk

end EventBus

end JobLaunch
