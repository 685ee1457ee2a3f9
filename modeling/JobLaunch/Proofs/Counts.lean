import JobLaunch.Proofs.Bookkeeping

/-!
# What is published and counted of notices

* `Notice.filter_isLaunched`, `Notice.filter_isCancelled`, `Notice.events_of_plain` : the events of notices;
* `Metrics.LaunchCounts` : counts of launches of one backend by kind; `Metrics.LaunchCounts.foldl` : after more launches;
* `Metrics.foldl_part` : a part of the counts depends on some of the notices only; `Metrics.launched_foldl`,
  `Metrics.cancelled_foldl`, `Metrics.submissionsFailed_foldl`, `Metrics.resolutions_foldl` : the parts.
-/

namespace JobLaunch

namespace StepEvent

def isLaunched : StepEvent → Bool
  | launched .. => true
  | cancelled .. | taskExited .. => false

/-- Does the event tell of a stop? -/
def isCancelled : StepEvent → Bool
  | cancelled .. => true
  | launched .. | taskExited .. => false

def startsTask (id : TaskId) : StepEvent → Bool
  | launched _ _ i => i = .task id
  | cancelled .. | taskExited .. => false

end StepEvent

/-! ## Parts of notices -/

namespace Notice

def launched? : Notice → Option (Step × StepIdentifier)
  | launched step id => some (step, id)
  | cancelled .. | submissionFailed | searched .. | exited _ => none

def cancelled? : Notice → Option (String × Bool)
  | cancelled name managed => some (name, managed)
  | launched .. | submissionFailed | searched .. | exited _ => none

def searched? : Notice → Option (Nat × Bool)
  | searched listings resolved => some (listings, resolved)
  | launched .. | cancelled .. | submissionFailed | exited _ => none

def failed? : Notice → Option Unit
  | submissionFailed => some ()
  | launched .. | cancelled .. | searched .. | exited _ => none

/-- The task that has been seen to end. -/
def exited? : Notice → Option (TaskId × Task)
  | exited x => some x
  | launched .. | cancelled .. | submissionFailed | searched .. => none

variable {ns : List Notice}

theorem filter_isLaunched (backend : String) (ns : List Notice) :
    (ns.filterMap (·.event? backend)).filter (·.isLaunched) =
      (ns.filterMap (·.launched?)).map fun x => .launched x.1.name backend x.2 := by
  rw [List.filter_filterMap, List.map_filterMap]
  congr 1
  funext n
  cases n <;> rfl

theorem filter_isCancelled (backend : String) (ns : List Notice) :
    (ns.filterMap (·.event? backend)).filter (·.isCancelled) =
      (ns.filterMap (·.cancelled?)).map fun x => .cancelled x.1 x.2 := by
  rw [List.filter_filterMap, List.map_filterMap]
  congr 1
  funext n
  cases n <;> rfl

theorem countP_startsTask (backend : String) (id : TaskId) (ns : List Notice) :
    (ns.filterMap (·.event? backend)).countP (·.startsTask id) = ns.countP (·.starts id) := by
  rw [List.countP_filterMap]
  congr 1
  funext n
  cases n <;> rfl

theorem events_of_plain (backend : String) (launches : ns.filterMap (·.launched?) = [])
    (stops : ns.filterMap (·.cancelled?) = []) :
    ns.filterMap (·.event? backend) = (ns.filterMap (·.exited?)).map .ofExit := by
  induction ns with
  | nil => rfl
  | cons n ns ih =>
    cases n with
    | launched => cases launches
    | cancelled => cases stops
    | submissionFailed | searched => exact ih launches stops
    | exited x => exact congrArg (StepEvent.ofExit x :: ·) (ih launches stops)

end Notice

/-! ## Counts -/

theorem Step.Kind.text_injective {k k' : Step.Kind} (h : k.text = k'.text) : k = k' := by
  cases k <;> cases k' <;> first | rfl | exact absurd h (by decide)

namespace Metrics

theorem get?_increment (d : Dict Nat) (label key : String) :
    ((increment d label).get? key).getD 0 = (d.get? key).getD 0 + if key = label then 1 else 0 := by
  unfold increment
  rw [Dict.get?_insert]
  split
  · next h =>
    rw [h]
    rfl
  · rfl

def LaunchCounts (backend : String) (count : Step.Kind → Nat) (d : Dict LaunchCount) : Prop :=
  ∀ key c, d.get? key = some c ↔
    ∃ kind : Step.Kind, key = backend ++ kind.text ∧ c = ⟨backend, kind.text, count kind⟩ ∧ 0 < count kind

theorem launchCounts_empty (backend : String) : LaunchCounts backend (fun _ => 0) ∅ :=
  fun _ _ => ⟨nofun, fun ⟨_, _, _, h⟩ => absurd h (Nat.lt_irrefl 0)⟩

theorem LaunchCounts.known {backend : String} {count : Step.Kind → Nat} {d : Dict LaunchCount}
    (h : LaunchCounts backend count d) (kind : Step.Kind) :
    (d.get? (backend ++ kind.text)).getD ⟨backend, kind.text, 0⟩ = ⟨backend, kind.text, count kind⟩ := by
  cases hget : d.get? (backend ++ kind.text) with
  | some c =>
    obtain ⟨kind', hkey, rfl, -⟩ := (h _ c).1 hget
    obtain rfl := Step.Kind.text_injective ((String.append_right_inj backend).1 hkey)
    rfl
  | none =>
    rcases Nat.eq_zero_or_pos (count kind) with hzero | hpos
    · rw [hzero]
      rfl
    · rw [(h _ _).2 ⟨kind, rfl, rfl, hpos⟩] at hget
      cases hget

theorem LaunchCounts.insert {backend : String} {count count' : Step.Kind → Nat} {d : Dict LaunchCount}
    (h : LaunchCounts backend count d) {kind : Step.Kind} (more : count' kind = count kind + 1)
    (others : ∀ k, k ≠ kind → count' k = count k) :
    LaunchCounts backend count' (d.insert (backend ++ kind.text) ⟨backend, kind.text, count kind + 1⟩) := by
  intro key c
  rw [Dict.get?_insert, ← more]
  by_cases hkey : key = backend ++ kind.text
  · rw [if_pos hkey, Option.some.injEq]
    constructor
    · rintro rfl
      exact ⟨kind, hkey, rfl, more ▸ Nat.succ_pos _⟩
    · rintro ⟨kind', hkey', rfl, -⟩
      obtain rfl := Step.Kind.text_injective ((String.append_right_inj backend).1 (hkey.symm.trans hkey'))
      rfl
  · rw [if_neg hkey, h key c]
    refine exists_congr fun kind' => and_congr_right fun hkey' => ?_
    rw [others kind' fun heq => hkey (by rw [hkey', heq])]

theorem LaunchCounts.foldl {backend : String} {count : Step.Kind → Nat} {d : Dict LaunchCount}
    (h : LaunchCounts backend count d) (kinds : List Step.Kind) :
    LaunchCounts backend (fun kind => count kind + kinds.countP (· = kind))
      (kinds.foldl (fun d kind => (stepLaunched { launched := d } backend kind.text).launched) d) := by
  induction kinds generalizing count d with
  | nil => exact h
  | cons kind kinds ih =>
    have hnext : LaunchCounts backend (fun k => count k + if kind = k then 1 else 0)
        (stepLaunched { launched := d } backend kind.text).launched := by
      unfold stepLaunched
      dsimp only
      rw [h.known]
      exact h.insert (congrArg (count kind + ·) (if_pos rfl))
        fun k hk => congrArg (count k + ·) (if_neg (Ne.symm hk))
    refine (funext fun k => ?_ : (fun kind => _) = (fun kind => _)) ▸ ih hnext
    rw [List.countP_cons]
    simp only [decide_eq_true_eq]
    omega

theorem get?_foldl_increment {β : Type} (backend : String) (xs : List β) (d : Dict Nat) (label : String) :
    ((xs.foldl (fun d _ => increment d backend) d).get? label).getD 0 =
      (d.get? label).getD 0 + if label = backend then xs.length else 0 := by
  induction xs generalizing d with
  | nil => simp
  | cons x xs ih =>
    rw [List.foldl_cons, ih, get?_increment, List.length_cons]
    split <;> omega

theorem get?_foldl_resolutions (xs : List (Nat × Bool)) (d : Dict (List Nat)) (label : String) :
    ((xs.foldl (fun d x => (idResolution { resolutions := d } x.1 x.2).resolutions) d).get? label).getD [] =
      (d.get? label).getD [] ++ (xs.filter (outcomeLabel ·.2 = label)).map (·.1) := by
  induction xs generalizing d with
  | nil => simp
  | cons x xs ih =>
    rw [List.foldl_cons, ih, idResolution, Dict.get?_insert, List.filter_cons]
    by_cases h : label = outcomeLabel x.2
    · simp [h]
    · simp [h, Ne.symm h]

/-! ## Counts of notices -/

section Parts

variable (backend : String) (ns : List Notice) (counts : Metrics)

theorem foldl_part {β γ : Type} {part : Metrics → γ} {f : Notice → Option β} {add : γ → β → γ}
    (step : ∀ counts n, part (Notice.count backend counts n) = ((f n).map (add (part counts))).getD (part counts)) :
    part (ns.foldl (Notice.count backend) counts) = (ns.filterMap f).foldl add (part counts) := by
  induction ns generalizing counts with
  | nil => rfl
  | cons n ns ih =>
    rw [List.foldl_cons, ih, step]
    cases h : f n with
    | none => rw [List.filterMap_cons_none h]; rfl
    | some x => rw [List.filterMap_cons_some h]; rfl

theorem launched_foldl : (ns.foldl (Notice.count backend) counts).launched =
    (ns.filterMap (·.launched?)).foldl
      (fun d x => (stepLaunched { launched := d } backend x.1.kind.text).launched) counts.launched :=
  foldl_part backend ns counts fun _ n => by cases n <;> rfl

theorem cancelled_foldl : (ns.foldl (Notice.count backend) counts).cancelled =
    (ns.filterMap (·.cancelled?)).foldl (fun d _ => increment d backend) counts.cancelled :=
  foldl_part backend ns counts fun _ n => by cases n <;> rfl

theorem submissionsFailed_foldl : (ns.foldl (Notice.count backend) counts).submissionsFailed =
    (ns.filterMap (·.failed?)).foldl (fun d _ => increment d backend) counts.submissionsFailed :=
  foldl_part backend ns counts fun _ n => by cases n <;> rfl

theorem resolutions_foldl : (ns.foldl (Notice.count backend) counts).resolutions =
    (ns.filterMap (·.searched?)).foldl (fun d x => (idResolution { resolutions := d } x.1 x.2).resolutions)
      counts.resolutions :=
  foldl_part backend ns counts fun _ n => by cases n <;> rfl

end Parts

end Metrics

end JobLaunch
