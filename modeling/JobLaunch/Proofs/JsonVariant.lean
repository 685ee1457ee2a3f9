import JobLaunch.Proofs.JsonText
import JobLaunch.Proofs.Siblings
import JobLaunch.Settings.Json
import Mathlib.Data.Option.Basic

/-!
# Other ways to write an object

* `Dict.ofList_of_perm` : a dictionary is built from its entries in any order;
* `Json.Variant` : a value with its members in other orders, and without some of those that hold their defaults;
* `Json.Variant.tame` : a variant can be written, read back and kept if the value can;
* `Json.Keeps.kept_or_left` : a member is kept, or it holds its default;
* `Json.Variant.exists_record` : the fields of a record are read from every variant of it;
* `Json.Survives` : a value is read from every variant of what is written of it, with `survives_dict` for dictionaries and
  `Survives.orElse`, `Tells.need` for the fields of a record.
-/

namespace JobLaunch

/-! ## Entries in any order -/

namespace Dict

variable {α : Type}

theorem lookup_eq_some_iff {k : String} {v : α} {es : List (String × α)} (nodup : (es.map (·.1)).Nodup) :
    lookup k es = some v ↔ (k, v) ∈ es := by
  refine ⟨mem_of_lookup_eq_some, ?_⟩
  intro hm
  induction es with
  | nil => cases hm
  | cons e es ih =>
    obtain ⟨k', v'⟩ := e
    rw [List.map_cons, List.nodup_cons] at nodup
    rcases List.mem_cons.1 hm with heq | hrest
    · cases heq
      exact if_pos rfl
    · have hne : k' ≠ k := by
        rintro rfl
        exact nodup.1 (List.mem_map.2 ⟨_, hrest, rfl⟩)
      rw [lookup, if_neg hne]
      exact ih nodup.2 hrest

theorem lookup_eq_none_iff {k : String} {es : List (String × α)} : lookup k es = none ↔ k ∉ es.map (·.1) := by
  induction es with
  | nil => simp [lookup]
  | cons e es ih =>
    rw [lookup, List.map_cons, List.mem_cons, not_or, ← ih]
    by_cases h : e.1 = k
    · simp [h]
    · simp [h, Ne.symm h]

theorem put_perm {k : String} (v : α) {es : List (String × α)} (h : k ∉ es.map (·.1)) :
    (put k v es).Perm ((k, v) :: es) := by
  induction es with
  | nil => exact .refl _
  | cons e es ih =>
    rw [List.map_cons, List.mem_cons, not_or] at h
    rw [put]
    split
    · exact .refl _
    · rw [if_neg h.1]
      exact ((ih h.2).cons e).trans (.swap (k, v) e es)

theorem foldl_insert_perm (es : List (String × α)) (d : Dict α) (nodup : ((d.entries ++ es).map (·.1)).Nodup) :
    (es.foldl (fun d e => d.insert e.1 e.2) d).entries.Perm (d.entries ++ es) := by
  induction es generalizing d with
  | nil => rw [List.append_nil]; exact .refl _
  | cons e es ih =>
    have hnew : e.1 ∉ d.entries.map (·.1) := by
      rw [List.map_append, List.map_cons, List.nodup_middle, List.nodup_cons] at nodup
      exact fun h => nodup.1 (List.mem_append_left _ h)
    have hput : ((d.insert e.1 e.2).entries ++ es).Perm (d.entries ++ e :: es) :=
      ((put_perm e.2 hnew).append_right es).trans List.perm_middle.symm
    exact (ih (d.insert e.1 e.2) ((hput.map _).nodup_iff.2 nodup)).trans hput

theorem ofList_of_perm {d : Dict α} {es : List (String × α)} (h : d.entries.Perm es) : ofList es = d := by
  have hkeys : (d.entries.map (·.1)).Nodup := by
    rw [List.Nodup, List.pairwise_map]
    refine d.sorted.imp ?_
    intro a b hlt heq
    rw [heq] at hlt
    exact String.lt_irrefl _ hlt
  have hperm := foldl_insert_perm es ∅ ((h.map _).nodup hkeys)
  refine ext (List.Perm.eq_of_pairwise ?_ (ofList es).sorted d.sorted (hperm.trans h.symm))
  intro a b _ _ hab hba
  exact absurd (String.lt_trans hab hba) (String.lt_irrefl _)

end Dict

namespace Json

/-- What an object has under a key. -/
def at? (j : Json) (k : Option String) : Option Json :=
  match j with
  | .object ms => (ms.find? (·.1 == k)).map (·.2)
  | _ => none

mutual
/-- A value whose objects have their members in other orders, and lack some of the members that hold their defaults. A
member holds its default if it is what the default of the object has under its key. -/
inductive Variant : Json → Json → Json → Prop
  | same (standard j : Json) : Variant standard j j
  | object {standard : Json} {ms kept ms' : List (Option String × Json)} (keeps : Keeps standard ms kept)
    (order : kept.Perm ms') : Variant standard (.object ms) (.object ms')

/-- The members of an object that are kept, each with a variant of its value. -/
inductive Keeps : Json → List (Option String × Json) → List (Option String × Json) → Prop
  | nil (standard : Json) : Keeps standard [] []
  | keep {standard : Json} {k : Option String} {j j' : Json} {ms kept : List (Option String × Json)}
    (varied : Variant ((standard.at? k).getD .null) j j') (rest : Keeps standard ms kept) :
    Keeps standard ((k, j) :: ms) ((k, j') :: kept)
  | leave {standard : Json} {k : Option String} {j : Json} {ms kept : List (Option String × Json)}
    (default : standard.at? k = some j) (rest : Keeps standard ms kept) : Keeps standard ((k, j) :: ms) kept
end

/-- A value that can be written, read back and kept: its numbers are whole and in range, its strings are texts, and it
does not nest too deep. -/
structure Tame (n : Nat) (j : Json) : Prop where
  whole : j.isWhole = true
  readable : j.isReadable = true
  depth : j.depth ≤ n

theorem wholeMembers_iff (ms : List (Option String × Json)) :
    wholeMembers ms = true ↔ ∀ m ∈ ms, m.2.isWhole = true := by
  induction ms with
  | nil => simp [wholeMembers]
  | cons m ms ih => rw [wholeMembers, Bool.and_eq_true, ih, List.forall_mem_cons]

theorem readableMembers_iff (ms : List (Option String × Json)) :
    readableMembers ms = true ↔ ∀ m ∈ ms, m.1.isSome = true ∧ m.2.isReadable = true := by
  induction ms with
  | nil => simp [readableMembers]
  | cons m ms ih => rw [readableMembers, Bool.and_eq_true, Bool.and_eq_true, ih, List.forall_mem_cons]

theorem depthMembers_le_iff (ms : List (Option String × Json)) (n : Nat) :
    depthMembers ms ≤ n ↔ ∀ m ∈ ms, m.2.depth ≤ n := by
  induction ms with
  | nil => simp [depthMembers]
  | cons m ms ih => rw [depthMembers, Nat.max_le, ih, List.forall_mem_cons]

theorem tame_object_iff {n : Nat} {ms : List (Option String × Json)} :
    Tame (n + 1) (.object ms) ↔ ∀ m ∈ ms, m.1.isSome = true ∧ Tame n m.2 := by
  constructor
  · rintro ⟨whole, readable, depth⟩ m hm
    rw [isWhole, wholeMembers_iff] at whole
    rw [isReadable, readableMembers_iff] at readable
    rw [Json.depth, Nat.add_le_add_iff_right, depthMembers_le_iff] at depth
    exact ⟨(readable m hm).1, whole m hm, (readable m hm).2, depth m hm⟩
  · intro h
    refine ⟨?_, ?_, ?_⟩
    · rw [isWhole, wholeMembers_iff]
      exact fun m hm => (h m hm).2.whole
    · rw [isReadable, readableMembers_iff]
      exact fun m hm => ⟨(h m hm).1, (h m hm).2.readable⟩
    · rw [Json.depth, Nat.add_le_add_iff_right, depthMembers_le_iff]
      exact fun m hm => (h m hm).2.depth

mutual
theorem Variant.tame {standard j j' : Json} {n : Nat} : Variant standard j j' → Tame n j → Tame n j'
  | .same _ _, h => h
  | .object keeps order, h => by
    cases n with
    | zero => exact absurd h.depth (by simp [Json.depth])
    | succ n =>
      rw [tame_object_iff] at h ⊢
      exact fun m hm => keeps.tame h m (order.mem_iff.2 hm)

theorem Keeps.tame {standard : Json} {ms kept : List (Option String × Json)} {n : Nat} :
    Keeps standard ms kept → (∀ m ∈ ms, m.1.isSome = true ∧ Tame n m.2) → ∀ m ∈ kept, m.1.isSome = true ∧ Tame n m.2
  | .nil _, h => h
  | .keep varied rest, h => by
    intro m hm
    rcases List.mem_cons.1 hm with rfl | hm
    · exact ⟨(h _ List.mem_cons_self).1, varied.tame (h _ List.mem_cons_self).2⟩
    · exact rest.tame (fun m hm => h m (List.mem_cons_of_mem _ hm)) m hm
  | .leave _ rest, h => rest.tame fun m hm => h m (List.mem_cons_of_mem _ hm)
end

/-! ## The members that are kept -/

theorem Keeps.refl (standard : Json) (ms : List (Option String × Json)) : Keeps standard ms ms := by
  induction ms with
  | nil => exact .nil standard
  | cons m ms ih => exact .keep (.same _ m.2) ih

theorem Variant.exists_keeps {standard j' : Json} {ms : List (Option String × Json)}
    (h : Variant standard (.object ms) j') : ∃ kept ms', j' = .object ms' ∧ Keeps standard ms kept ∧ kept.Perm ms' := by
  cases h with
  | same => exact ⟨ms, ms, rfl, .refl standard ms, .refl ms⟩
  | object keeps order => exact ⟨_, _, rfl, keeps, order⟩

theorem Variant.eq_of_plain {standard j j' : Json} (h : Variant standard j j') (plain : ∀ ms, j ≠ .object ms) : j' = j := by
  cases h with
  | same => rfl
  | object => exact absurd rfl (plain _)

theorem Keeps.keys_sublist {standard : Json} {ms kept : List (Option String × Json)} :
    Keeps standard ms kept → (kept.map (·.1)).Sublist (ms.map (·.1))
  | .nil _ => List.Sublist.refl _
  | .keep _ rest => rest.keys_sublist.cons_cons _
  | .leave _ rest => rest.keys_sublist.cons _

theorem Keeps.kept_or_left {standard : Json} {ms kept : List (Option String × Json)} {k : Option String} {j : Json} :
    Keeps standard ms kept → (ms.map (·.1)).Nodup → (k, j) ∈ ms →
      (∃ j', (k, j') ∈ kept ∧ Variant ((standard.at? k).getD .null) j j') ∨
        k ∉ kept.map (·.1) ∧ standard.at? k = some j
  | .nil _, _, hm => absurd hm List.not_mem_nil
  | .keep varied rest, nodup, hm => by
    rw [List.map_cons, List.nodup_cons] at nodup
    rcases List.mem_cons.1 hm with heq | hrest
    · cases heq
      exact Or.inl ⟨_, List.mem_cons_self, varied⟩
    · rcases rest.kept_or_left nodup.2 hrest with ⟨j', hj', hvaried⟩ | ⟨hout, hdefault⟩
      · exact Or.inl ⟨j', List.mem_cons_of_mem _ hj', hvaried⟩
      · refine Or.inr ⟨?_, hdefault⟩
        rw [List.map_cons, List.mem_cons]
        rintro (heq | hin)
        · exact nodup.1 (List.mem_map.2 ⟨_, hrest, heq⟩)
        · exact hout hin
  | .leave default rest, nodup, hm => by
    rw [List.map_cons, List.nodup_cons] at nodup
    rcases List.mem_cons.1 hm with heq | hm
    · cases heq
      exact Or.inr ⟨fun hin => nodup.1 (rest.keys_sublist.subset hin), default⟩
    · exact rest.kept_or_left nodup.2 hm

/-! ## Records -/

/-- The members of an object under keys that are texts. -/
def keyed (named : List (String × Json)) : List (Option String × Json) := named.map fun m => (some m.1, m.2)

theorem keys_keyed (named : List (String × Json)) : (keyed named).map (·.1) = (named.map (·.1)).map some := by
  simp [keyed]

theorem mem_keyed {named : List (String × Json)} {k : String} {j : Json} :
    (some k, j) ∈ keyed named ↔ (k, j) ∈ named := by
  simp [keyed]

theorem exists_keyed {ms : List (Option String × Json)} (h : ∀ k ∈ ms.map (·.1), k.isSome = true) :
    ∃ named, ms = keyed named := by
  induction ms with
  | nil => exact ⟨[], rfl⟩
  | cons m ms ih =>
    obtain ⟨k, j⟩ := m
    rw [List.map_cons, List.forall_mem_cons] at h
    obtain ⟨name, rfl⟩ := Option.isSome_iff_exists.1 h.1
    obtain ⟨named, rfl⟩ := ih h.2
    exact ⟨(name, j) :: named, rfl⟩

theorem mapM_member?_keyed (named : List (String × Json)) : (keyed named).mapM (member? some) = some named := by
  induction named with
  | nil => rfl
  | cons m named ih =>
    rw [show keyed (m :: named) = (some m.1, m.2) :: keyed named from rfl, List.mapM_cons, ih]
    rfl

theorem declared?_keyed {fields : List Field} {named : List (String × Json)}
    (declared : ∀ k ∈ named.map (·.1), k ∈ fields.map (·.name)) (nodup : (named.map (·.1)).Nodup) :
    declared? fields (keyed named) = some named := by
  have hknown : named.filter (fun m => fields.any (·.name == m.1)) = named := by
    rw [List.filter_eq_self]
    intro m hm
    obtain ⟨field, hfield, hname⟩ := List.mem_map.1 (declared m.1 (List.mem_map.2 ⟨m, hm, rfl⟩))
    exact List.any_eq_true.2 ⟨field, hfield, beq_iff_eq.2 hname⟩
  simp only [declared?, mapM_member?_keyed, Option.bind_eq_bind, Option.bind_some, hknown,
    (hasRepeat_eq_false_iff _).2 nodup]
  rfl

/-- What the written fields of a record tell of a member: a variant of its value, or nothing where it holds its
default. -/
def Tells (standard : Json) (written : List (String × Json)) (m : String × Json) : Prop :=
  (∃ j, Dict.lookup m.1 written = some j ∧ Variant ((standard.at? (some m.1)).getD .null) m.2 j) ∨
    Dict.lookup m.1 written = none ∧ standard.at? (some m.1) = some m.2

/-- **The fields of a record are read from every variant of it.** -/
theorem Variant.exists_record {standard j : Json} {full : List (String × Json)} (h : Variant standard (.obj full) j)
    (fields : List Field) (names : full.map (·.1) = fields.map (·.name)) (nodup : (fields.map (·.name)).Nodup) :
    ∃ written, record? fields j = some written ∧ ∀ m ∈ full, Tells standard written m := by
  obtain ⟨kept, ms, rfl, hkeeps, horder⟩ := h.exists_keeps
  replace hkeeps : Keeps standard (keyed full) kept := hkeeps
  have hnodup : ((keyed full).map (·.1)).Nodup := by
    rw [keys_keyed, names]
    exact nodup.map (Option.some_injective _)
  have hsub := hkeeps.keys_sublist
  have hkeys : ∀ k ∈ ms.map (·.1), k ∈ (full.map (·.1)).map some := by
    intro k hk
    rw [← keys_keyed]
    exact hsub.subset ((horder.map _).mem_iff.2 hk)
  obtain ⟨named, rfl⟩ : ∃ named, ms = keyed named := by
    refine exists_keyed fun k hk => ?_
    obtain ⟨name, -, rfl⟩ := List.mem_map.1 (hkeys k hk)
    rfl
  have hwritten : (named.map (·.1)).Nodup := by
    have hms := (horder.map (·.1)).nodup (hnodup.sublist hsub)
    rw [keys_keyed] at hms
    exact hms.of_map
  refine ⟨named, declared?_keyed ?_ hwritten, ?_⟩
  · intro k hk
    have hfull := hkeys (some k) (by rw [keys_keyed]; exact List.mem_map.2 ⟨k, hk, rfl⟩)
    rw [← names]
    exact (List.mem_map_of_injective (Option.some_injective _)).1 hfull
  · rintro ⟨k, j⟩ hm
    rcases hkeeps.kept_or_left hnodup (mem_keyed.2 hm) with ⟨j', hj', hvaried⟩ | ⟨hout, hdefault⟩
    · have hnamed := mem_keyed.1 (horder.mem_iff.1 hj')
      exact Or.inl ⟨j', (Dict.lookup_eq_some_iff hwritten).2 hnamed, hvaried⟩
    · refine Or.inr ⟨Dict.lookup_eq_none_iff.2 fun hin => hout ?_, hdefault⟩
      rw [(horder.map _).mem_iff, keys_keyed]
      exact List.mem_map.2 ⟨k, hin, rfl⟩

/-! ## Values that survive -/

variable {α : Type}

/-- A value is read from every variant of what is written of it. -/
def Survives (default : α) (write : α → Json) (read : Json → Option α) : Prop :=
  ∀ a j, Variant (write default) (write a) j → read j = some a

variable {write : α → Json} {read : Json → Option α} {default : α}

theorem survives_of_plain (plain : ∀ a ms, write a ≠ .object ms) (reads : ∀ a, read (write a) = some a) :
    Survives default write read := by
  intro a j h
  rw [h.eq_of_plain (plain a)]
  exact reads a

theorem Survives.orElse (h : Survives default write read) {standard : Json} {written : List (String × Json)}
    {name : String} {a : α} (tells : Tells standard written (name, write a))
    (hat : standard.at? (some name) = some (write default)) : Json.orElse name default read written = some a := by
  rcases tells with ⟨j, hj, hvaried⟩ | ⟨hout, hdefault⟩
  · simp only at hj hvaried
    rw [hat, Option.getD_some] at hvaried
    simp only [Json.orElse, hj]
    exact h a j hvaried
  · -- what is left out is written as the default is, and reads as either
    have hwrite : write default = write a := Option.some.inj (hat.symm.trans hdefault)
    have hsame := h default _ (.same _ _)
    rw [hwrite, h a _ (hwrite ▸ .same _ _)] at hsame
    simp only [Json.orElse, hout, hsame]

theorem Tells.need {standard : Json} {written : List (String × Json)} {name : String} {a : α}
    (h : Tells standard written (name, write a)) (read : Json → Option α) (hat : standard.at? (some name) = none)
    (plain : ∀ ms, write a ≠ .object ms) (reads : read (write a) = some a) : Json.need name read written = some a := by
  rcases h with ⟨j, hj, hvaried⟩ | ⟨-, hdefault⟩
  · rw [Json.need, hj, hvaried.eq_of_plain plain, Option.bind_some, reads]
  · rw [hat] at hdefault
    cases hdefault

/-! ## Dictionaries -/

theorem Keeps.mapM_member? {standard : Json} {kept : List (Option String × Json)} (es : List (String × α))
    (h : Keeps standard (keyed (es.map fun e => (e.1, write e.2))) kept) (fieldless : ∀ k, standard.at? k = none)
    (reads : ∀ a j, Variant .null (write a) j → read j = some a) : kept.mapM (member? read) = some es := by
  induction es generalizing kept with
  | nil =>
    cases h
    rfl
  | cons e es ih =>
    cases h with
    | leave default => rw [fieldless] at default; cases default
    | keep varied rest =>
      rw [fieldless, Option.getD_none] at varied
      rw [List.mapM_cons, member?, reads _ _ varied, ih rest]
      rfl

theorem exists_mapM_of_perm {β γ : Type} {f : β → Option γ} {xs ys : List β} (h : xs.Perm ys) {zs : List γ}
    (hxs : xs.mapM f = some zs) : ∃ ws, ys.mapM f = some ws ∧ zs.Perm ws := by
  induction h generalizing zs with
  | nil => exact ⟨zs, hxs, .refl zs⟩
  | cons x _ ih =>
    rw [List.mapM_cons] at hxs
    obtain ⟨z, hz, hxs⟩ := Option.bind_eq_some_iff.1 hxs
    obtain ⟨zs', hzs', hxs⟩ := Option.bind_eq_some_iff.1 hxs
    cases hxs
    obtain ⟨ws, hws, hperm⟩ := ih hzs'
    exact ⟨z :: ws, by rw [List.mapM_cons, hz, hws]; rfl, hperm.cons z⟩
  | swap x y xs =>
    rw [List.mapM_cons, List.mapM_cons] at hxs
    obtain ⟨z, hz, hxs⟩ := Option.bind_eq_some_iff.1 hxs
    obtain ⟨zs', hzs', hxs⟩ := Option.bind_eq_some_iff.1 hxs
    obtain ⟨w, hw, hzs'⟩ := Option.bind_eq_some_iff.1 hzs'
    obtain ⟨ws, hws, hzs'⟩ := Option.bind_eq_some_iff.1 hzs'
    cases hxs
    cases hzs'
    exact ⟨w :: z :: ws, by rw [List.mapM_cons, List.mapM_cons, hz, hw, hws]; rfl, .swap w z ws⟩
  | trans _ _ ih₁ ih₂ =>
    obtain ⟨ws, hws, hperm⟩ := ih₁ hxs
    obtain ⟨vs, hvs, hperm'⟩ := ih₂ hws
    exact ⟨vs, hvs, hperm.trans hperm'⟩

/-- **A dictionary is read from its members in any order.** -/
theorem survives_dict (reads : ∀ a j, Variant .null (write a) j → read j = some a) :
    Survives ∅ (Dict.toJson write) (dict? read) := by
  intro d j h
  obtain ⟨kept, ms, rfl, hkeeps, horder⟩ := h.exists_keeps
  have hkept := Keeps.mapM_member? d.entries hkeeps (fun _ => rfl) reads
  obtain ⟨es, hes, hperm⟩ := exists_mapM_of_perm horder hkept
  rw [dict?, hes, Option.map_some, Dict.ofList_of_perm hperm]

end Json

end JobLaunch
