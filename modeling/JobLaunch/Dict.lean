/-!
# Dictionaries

A dictionary keeps its entries in strictly increasing key order, so two dictionaries with the same
entries are equal and every listing of one is in key order.

* `Dict` — the entries, with their order as a proof.
* `Dict.get?`, `Dict.insert`, `Dict.erase` — look-up and change; `get?_insert` and `get?_erase` say
  what each does to every key.
* `Dict.ofList` — builds a dictionary from pairs, the last of a repeated key winning.
-/

namespace JobLaunch

/-- Values under string keys, kept in increasing key order (by code points). -/
structure Dict (α : Type) where
  entries : List (String × α)
  /-- Keys increase strictly, so none is repeated. -/
  sorted : entries.Pairwise (·.1 < ·.1) := by simp
  deriving DecidableEq

namespace Dict

variable {α β : Type}

instance : EmptyCollection (Dict α) := ⟨{ entries := [] }⟩
instance : Inhabited (Dict α) := ⟨∅⟩

@[ext] theorem ext {d e : Dict α} (h : d.entries = e.entries) : d = e := by
  cases d; cases e; simp_all

@[simp] theorem entries_empty : (∅ : Dict α).entries = [] := rfl

/-! ## Entry lists -/

/-- The value of the first entry with the key. -/
def lookup (k : String) : List (String × α) → Option α
  | [] => none
  | (k', v) :: es => if k' = k then some v else lookup k es

/-- Puts an entry at its place in key order, in place of one with the same key. -/
def put (k : String) (v : α) : List (String × α) → List (String × α)
  | [] => [(k, v)]
  | (k', v') :: es =>
    if k < k' then (k, v) :: (k', v') :: es
    else if k = k' then (k, v) :: es
    else (k', v') :: put k v es

theorem mem_put {k : String} {v : α} {e : String × α} {es : List (String × α)}
    (h : e ∈ put k v es) : e = (k, v) ∨ e ∈ es := by
  induction es with
  | nil => simpa [put] using h
  | cons hd tl ih =>
    obtain ⟨k', v'⟩ := hd
    unfold put at h
    split at h
    · simpa using h
    · split at h
      · rcases List.mem_cons.1 h with h | h <;> simp [h]
      · rcases List.mem_cons.1 h with h | h
        · simp [h]
        · rcases ih h with h | h <;> simp [h]

theorem lt_of_not_lt_of_ne {a b : String} (h : ¬ a < b) (hne : a ≠ b) : b < a := by
  rcases Decidable.em (b < a) with hlt | hlt
  · exact hlt
  · exact absurd (String.le_antisymm (String.not_lt.1 hlt) (String.not_lt.1 h)) hne

theorem put_sorted (k : String) (v : α) {es : List (String × α)}
    (h : es.Pairwise (·.1 < ·.1)) : (put k v es).Pairwise (·.1 < ·.1) := by
  induction es with
  | nil => simp [put]
  | cons hd tl ih =>
    obtain ⟨k', v'⟩ := hd
    obtain ⟨hhd, htl⟩ := List.pairwise_cons.1 h
    unfold put
    split
    · rename_i hlt
      refine List.pairwise_cons.2 ⟨fun e he => ?_, h⟩
      rcases List.mem_cons.1 he with rfl | he
      · exact hlt
      · exact String.lt_trans hlt (hhd e he)
    · split
      · rename_i heq
        subst heq
        exact List.pairwise_cons.2 ⟨hhd, htl⟩
      · rename_i hnlt hne
        refine List.pairwise_cons.2 ⟨fun e he => ?_, ih htl⟩
        rcases mem_put he with rfl | he
        · exact lt_of_not_lt_of_ne hnlt hne
        · exact hhd e he

theorem lookup_put_self (k : String) (v : α) (es : List (String × α)) :
    lookup k (put k v es) = some v := by
  induction es with
  | nil => simp [put, lookup]
  | cons hd tl ih =>
    obtain ⟨k', v'⟩ := hd
    unfold put
    split
    · simp [lookup]
    · split
      · simp [lookup]
      · rename_i hne
        simp [lookup, Ne.symm hne, ih]

theorem lookup_put_ne {k k' : String} (hne : k' ≠ k) (v : α) (es : List (String × α)) :
    lookup k' (put k v es) = lookup k' es := by
  induction es with
  | nil => simp [put, lookup, Ne.symm hne]
  | cons hd tl ih =>
    obtain ⟨k'', v''⟩ := hd
    unfold put
    split
    · simp [lookup, Ne.symm hne]
    · split
      · rename_i heq
        subst heq
        simp [lookup, Ne.symm hne]
      · by_cases h : k'' = k' <;> simp [lookup, h, ih]

theorem lookup_eq_some_of_mem {k : String} {v : α} {es : List (String × α)}
    (hs : es.Pairwise (·.1 < ·.1)) (h : (k, v) ∈ es) : lookup k es = some v := by
  induction es with
  | nil => simp at h
  | cons hd tl ih =>
    obtain ⟨k', v'⟩ := hd
    obtain ⟨hhd, htl⟩ := List.pairwise_cons.1 hs
    rcases List.mem_cons.1 h with heq | h
    · cases heq
      simp [lookup]
    · have hne : k' ≠ k := fun heq => String.lt_irrefl k (heq ▸ hhd _ h)
      simp [lookup, hne, ih htl h]

theorem mem_of_lookup_eq_some {k : String} {v : α} {es : List (String × α)}
    (h : lookup k es = some v) : (k, v) ∈ es := by
  induction es with
  | nil => simp [lookup] at h
  | cons hd tl ih =>
    obtain ⟨k', v'⟩ := hd
    unfold lookup at h
    split at h
    · rename_i heq
      cases h
      simp [heq]
    · exact List.mem_cons_of_mem _ (ih h)

/-! ## Look-up and change -/

def get? (d : Dict α) (k : String) : Option α := lookup k d.entries

def contains (d : Dict α) (k : String) : Bool := (d.get? k).isSome

/-- Puts a value under a key, in place of one that is there. -/
def insert (d : Dict α) (k : String) (v : α) : Dict α :=
  ⟨put k v d.entries, put_sorted k v d.sorted⟩

/-- Takes the key and its value out. -/
def erase (d : Dict α) (k : String) : Dict α :=
  ⟨d.entries.filter (·.1 ≠ k), d.sorted.filter _⟩

/-- Replaces the value under a key, if there is one, by a function of it. -/
def modify (d : Dict α) (k : String) (f : α → α) : Dict α :=
  match d.get? k with
  | some v => d.insert k (f v)
  | none => d

/-- The keys, in increasing order. -/
def keys (d : Dict α) : List String := d.entries.map (·.1)

def size (d : Dict α) : Nat := d.entries.length

def isEmpty (d : Dict α) : Bool := d.entries.isEmpty

/-- The dictionary of the given pairs; of a repeated key the last pair wins. -/
def ofList (es : List (String × α)) : Dict α :=
  es.foldl (fun d e => d.insert e.1 e.2) ∅

@[simp] theorem get?_empty (k : String) : (∅ : Dict α).get? k = none := rfl

theorem get?_insert (d : Dict α) (k k' : String) (v : α) :
    (d.insert k v).get? k' = if k' = k then some v else d.get? k' := by
  split
  · rename_i h
    subst h
    exact lookup_put_self _ v d.entries
  · rename_i h
    exact lookup_put_ne h v d.entries

theorem get?_erase (d : Dict α) (k k' : String) :
    (d.erase k).get? k' = if k' = k then none else d.get? k' := by
  simp only [get?, erase]
  induction d.entries with
  | nil => simp [lookup]
  | cons hd tl ih =>
    obtain ⟨k'', v⟩ := hd
    by_cases h : k'' = k
    · subst h
      by_cases hk : k' = k''
      · simpa [lookup, hk] using ih
      · simpa [lookup, hk, Ne.symm hk] using ih
    · by_cases hk : k'' = k'
      · subst hk
        simp [lookup, h]
      · simpa [lookup, h, hk] using ih

theorem mem_entries_iff (d : Dict α) (k : String) (v : α) :
    (k, v) ∈ d.entries ↔ d.get? k = some v :=
  ⟨lookup_eq_some_of_mem d.sorted, mem_of_lookup_eq_some⟩

theorem put_append {k : String} {v : α} {es : List (String × α)}
    (h : ∀ e ∈ es, e.1 < k) : put k v es = es ++ [(k, v)] := by
  induction es with
  | nil => rfl
  | cons hd tl ih =>
    obtain ⟨k', v'⟩ := hd
    have hlt : k' < k := h _ (List.mem_cons_self ..)
    have h1 : ¬ k < k' := fun hk => String.lt_irrefl k (String.lt_trans hk hlt)
    have h2 : k ≠ k' := fun hk => String.lt_irrefl k (hk ▸ hlt)
    simp [put, h1, h2, ih fun e he => h e (List.mem_cons_of_mem _ he)]

@[simp] theorem ofList_entries (d : Dict α) : ofList d.entries = d := by
  suffices h : ∀ (es : List (String × α)) (e : Dict α),
      (e.entries ++ es).Pairwise (·.1 < ·.1) →
      (es.foldl (fun d e => d.insert e.1 e.2) e).entries = e.entries ++ es from
    ext (by simpa [ofList] using h d.entries ∅ (by simpa using d.sorted))
  intro es
  induction es with
  | nil => simp
  | cons hd tl ih =>
    intro e hs
    have hput : (e.insert hd.1 hd.2).entries = e.entries ++ [hd] :=
      put_append fun x hx => by
        have := (List.pairwise_append.1 hs).2.2
        exact this x hx hd (List.mem_cons_self ..)
    rw [List.foldl_cons, ih _ (by rw [hput]; simpa using hs), hput]
    simp

end Dict

end JobLaunch
