import JobLaunch.Launcher.Poll

/-!
# Laws of the registry

* `Registry.reserve_eq_ok`, `Registry.reserve_eq_error` : when a name can be reserved, and what is reserved then;
* `Registry.release_reserve` : giving a new reservation up undoes it;
* `Registry.commit_of_make` : what committing registers;
* `Registry.Held` : the reserved names are those that somebody holds, one holder each;
* `Registry.get?_observe`, `Registry.get?_remove` : the other operations through `Registry.get?`;
* `Registry.idsOf_observe` : recording a snapshot changes no identifier.
-/

namespace JobLaunch

namespace Entry

def see (e : Entry) (fresh : Snapshot) : Entry := { e with last := some (Snapshot.supersede e.last fresh) }

theorem make_ok {name : String} {stepId : Option String} {taskId : Option TaskId} {managed : Bool} {e : Entry}
    (h : make name stepId taskId managed = .ok e) : e = { stepId, taskId, managed } := by
  unfold make at h
  split at h
  · cases h
  · split at h
    · cases h
    · exact (Except.ok.inj h).symm

theorem make_error {name : String} {stepId : Option String} {taskId : Option TaskId} {managed : Bool}
    {err : LaunchError} (h : make name stepId taskId managed = .error err) :
    ∃ reason, err = .configuration reason := by
  unfold make at h
  split at h
  · cases h; exact ⟨_, rfl⟩
  · split at h
    · cases h; exact ⟨_, rfl⟩
    · cases h

end Entry

namespace Registry

variable {r r' : Registry} {name : String}

/-! ## Reservations -/

theorem contains_eq_isSome (r : Registry) (name : String) : r.contains name = (r.get? name).isSome := rfl

theorem reserve_eq_ok (h : r.reserve name = .ok r') :
    r.get? name = none ∧ r.isReserved name = false ∧ r' = { r with reserved := name :: r.reserved } := by
  unfold reserve at h
  split at h
  · cases h
  · next hfree =>
    simp only [Bool.or_eq_true, not_or, Bool.not_eq_true, contains_eq_isSome, Option.isSome_eq_false_iff,
      Option.isNone_iff_eq_none] at hfree
    exact ⟨hfree.1, hfree.2, (Except.ok.inj h).symm⟩

theorem reserve_eq_error {err : LaunchError} (h : r.reserve name = .error err) :
    (r.contains name || r.isReserved name) = true ∧ err = .duplicateStep name := by
  unfold reserve at h
  split at h
  · next htaken => exact ⟨htaken, (Except.error.inj h).symm⟩
  · cases h

theorem reserve_of_taken (h : (r.contains name || r.isReserved name) = true) :
    r.reserve name = .error (.duplicateStep name) := by
  simp only [reserve, h, if_true]

theorem isReserved_iff_mem (r : Registry) (k : String) : r.isReserved k = true ↔ k ∈ r.reserved := by
  simp [isReserved]

theorem isReserved_release (r : Registry) (name k : String) :
    (r.release name).isReserved k = true ↔ r.isReserved k = true ∧ k ≠ name := by
  simp [isReserved_iff_mem, release]

theorem release_reserve (h : r.reserve name = .ok r') : r'.release name = r := by
  obtain ⟨-, hres, rfl⟩ := reserve_eq_ok h
  have hmem : name ∉ r.reserved := by
    rw [← isReserved_iff_mem, hres]
    exact Bool.false_ne_true
  have hkeep : (name :: r.reserved).filter (· ≠ name) = r.reserved := by
    rw [List.filter_cons_of_neg (by simp), List.filter_eq_self]
    intro k hk
    exact decide_eq_true fun heq => hmem (heq ▸ hk)
  show { r with reserved := (name :: r.reserved).filter (· ≠ name) } = r
  rw [hkeep]

theorem commit_of_make {stepId : Option String} {taskId : Option TaskId} {managed : Bool} {e : Entry}
    (h : Entry.make name stepId taskId managed = .ok e) :
    r.commit name stepId taskId managed = (.ok (), { r.release name with entries := r.entries.insert name e }) := by
  simp [commit, h]

theorem commit_of_make_error {stepId : Option String} {taskId : Option TaskId} {managed : Bool} {err : LaunchError}
    (h : Entry.make name stepId taskId managed = .error err) :
    r.commit name stepId taskId managed = (.error err, r.release name) := by
  simp [commit, h]

theorem commit_error {stepId : Option String} {taskId : Option TaskId} {managed : Bool} {err : LaunchError}
    (h : (r.commit name stepId taskId managed).1 = .error err) : ∃ reason, err = .configuration reason := by
  cases hmake : Entry.make name stepId taskId managed with
  | ok e =>
    rw [commit_of_make hmake] at h
    cases h
  | error err' =>
    rw [commit_of_make_error hmake] at h
    obtain rfl : err' = err := Except.error.inj h
    exact Entry.make_error hmake

/-! ## Holders of reservations -/

/-- The reserved names are those that somebody holds, and each of them has one holder. -/
structure Held (holds? : Nat → Option String) (r : Registry) : Prop where
  reserved_iff : ∀ name, r.isReserved name = true ↔ ∃ i, holds? i = some name
  alone : ∀ {i j name}, holds? i = some name → holds? j = some name → i = j

namespace Held

variable {holds? holds'? : Nat → Option String}

theorem of_keeps (h : Held holds? r) (holders : ∀ i, holds'? i = holds? i) (reserved : r'.reserved = r.reserved) :
    Held holds'? r' := by
  obtain rfl : holds'? = holds? := funext holders
  refine ⟨fun n => ?_, h.alone⟩
  rw [show r'.isReserved n = r.isReserved n from congrArg (·.contains n) reserved]
  exact h.reserved_iff n

theorem of_takes (h : Held holds? r) {i : Nat} (held : r.reserve name = .ok r') (unused : holds? i = none)
    (holders : ∀ j, holds'? j = if j = i then some name else holds? j) : Held holds'? r' := by
  obtain ⟨-, hfree, rfl⟩ := reserve_eq_ok held
  have hnone : ∀ j, holds? j ≠ some name := by
    intro j hj
    rw [(h.reserved_iff name).2 ⟨j, hj⟩] at hfree
    cases hfree
  have hres : ∀ n, ({ r with reserved := name :: r.reserved } : Registry).isReserved n = true ↔
      n = name ∨ r.isReserved n = true := by
    intro n
    simp [isReserved_iff_mem]
  refine ⟨fun n => ?_, fun {j k n} hj hk => ?_⟩
  · rw [hres, h.reserved_iff]
    constructor
    · rintro (rfl | ⟨j, hj⟩)
      · exact ⟨i, by rw [holders, if_pos rfl]⟩
      · have hne : j ≠ i := by
          rintro rfl
          rw [unused] at hj
          cases hj
        exact ⟨j, by rw [holders, if_neg hne, hj]⟩
    · rintro ⟨j, hj⟩
      rw [holders] at hj
      split at hj
      · exact Or.inl (Option.some.inj hj).symm
      · exact Or.inr ⟨j, hj⟩
  · rw [holders] at hj hk
    split at hj
    · next hji =>
      split at hk
      · next hki => rw [hji, hki]
      · obtain rfl := Option.some.inj hj
        exact absurd hk (hnone k)
    · split at hk
      · obtain rfl := Option.some.inj hk
        exact absurd hj (hnone j)
      · exact h.alone hj hk

theorem of_leaves (h : Held holds? r) {i : Nat} (holds : holds? i = some name)
    (holders : ∀ j, holds'? j = if j = i then none else holds? j)
    (reserved : r'.reserved = (r.release name).reserved) : Held holds'? r' := by
  have hres : ∀ n, r'.isReserved n = true ↔ r.isReserved n = true ∧ n ≠ name := by
    intro n
    rw [← isReserved_release]
    exact iff_of_eq (congrArg (fun names => names.contains n = true) reserved)
  refine ⟨fun n => ?_, fun {j k n} hj hk => ?_⟩
  · rw [hres, h.reserved_iff]
    constructor
    · rintro ⟨⟨j, hj⟩, hne⟩
      have hji : j ≠ i := by
        rintro rfl
        rw [holds] at hj
        exact hne (Option.some.inj hj).symm
      exact ⟨j, by rw [holders, if_neg hji, hj]⟩
    · rintro ⟨j, hj⟩
      rw [holders] at hj
      split at hj
      · cases hj
      · next hji =>
        refine ⟨⟨j, hj⟩, ?_⟩
        rintro rfl
        exact hji (h.alone hj holds)
  · rw [holders] at hj hk
    split at hj
    · cases hj
    · split at hk
      · cases hk
      · exact h.alone hj hk

end Held

/-! ## Entries -/

theorem get?_insert (r : Registry) (name k : String) (e : Entry) :
    { r with entries := r.entries.insert name e }.get? k = if k = name then some e else r.get? k :=
  Dict.get?_insert r.entries name k e

theorem get?_remove (r : Registry) (name k : String) :
    (r.remove name).get? k = if k = name then none else r.get? k := Dict.get?_erase r.entries name k

theorem get?_observe (r : Registry) (name k : String) (fresh : Snapshot) :
    (r.observe name fresh).2.get? k = if k = name then (r.get? k).map (·.see fresh) else r.get? k := by
  unfold observe
  cases hget : r.get? name with
  | none =>
    by_cases hk : k = name
    · simp [hk, hget]
    · simp [hk]
  | some e =>
    show { r with entries := r.entries.insert name (e.see fresh) }.get? k = _
    rw [get?_insert]
    by_cases hk : k = name
    · simp [hk, hget]
    · simp [hk]

theorem fst_observe (r : Registry) (name : String) (fresh : Snapshot) :
    (r.observe name fresh).1 = Snapshot.supersede ((r.get? name).bind (·.last)) fresh := by
  unfold observe
  cases r.get? name <;> rfl

@[simp] theorem reserved_observe (r : Registry) (name : String) (fresh : Snapshot) :
    (r.observe name fresh).2.reserved = r.reserved := by
  unfold observe
  cases r.get? name <;> rfl

theorem idOf?_observe (r : Registry) (name k : String) (fresh : Snapshot) (managed : Bool) :
    (r.observe name fresh).2.idOf? managed k = r.idOf? managed k := by
  unfold idOf?
  rw [get?_observe]
  split
  · cases r.get? k <;> rfl
  · rfl

theorem idsOf_observe (r : Registry) (name : String) (fresh : Snapshot) (names : List String) (managed : Bool) :
    (r.observe name fresh).2.idsOf names managed = r.idsOf names managed := by
  unfold idsOf
  congr 1
  funext k
  exact idOf?_observe r name k fresh managed

theorem idsOf_observeAll (r : Registry) (news : List Report) (names : List String) (managed : Bool) :
    (r.observeAll news).2.idsOf names managed = r.idsOf names managed := by
  induction news generalizing r with
  | nil => rfl
  | cons n news ih => exact (ih _).trans (idsOf_observe r n.1 n.2 names managed)

theorem observeAll_append (r : Registry) (xs ys : List Report) :
    r.observeAll (xs ++ ys) =
      ((r.observeAll xs).1 ++ ((r.observeAll xs).2.observeAll ys).1, ((r.observeAll xs).2.observeAll ys).2) := by
  induction xs generalizing r with
  | nil => rfl
  | cons x xs ih => simp [observeAll, ih]

@[simp] theorem reserved_observeAll (r : Registry) (news : List Report) :
    (r.observeAll news).2.reserved = r.reserved := by
  induction news generalizing r with
  | nil => rfl
  | cons n news ih => exact (ih _).trans (reserved_observe r n.1 n.2)

end Registry

end JobLaunch
