import Mathlib.Data.List.Lex
import Mathlib.Data.String.Basic
import JobLaunch.Dict
import JobLaunch.Text.Utf8

/-!
# The order of texts by their bytes

* `Utf8.encodeChar_below` : the greater character has the greater byte where its bytes first differ;
* `Utf8.bytes_lt_iff`, `Utf8.bytes_le_iff` : texts are ordered as their bytes are;
* `leastText?` : the byte-wise least of some texts; `leastText?_eq_some_iff`, `leastText?_congr` : it depends on which
  texts they are, not on their order or their repetitions;
* `Dict.find?_entries` : the first entry with a property has the least key of all with it.
-/

namespace JobLaunch

namespace Utf8

/-! ## Characters -/

/-- The lists differ somewhere, and the first is less where they first differ. -/
def Below : List UInt8 → List UInt8 → Prop
  | a :: as, b :: bs => a.toNat < b.toNat ∨ a.toNat = b.toNat ∧ Below as bs
  | _, _ => False

theorem Below.append_lt {as bs : List UInt8} (h : Below as bs) (xs ys : List UInt8) : as ++ xs < bs ++ ys := by
  induction as generalizing bs with
  | nil => cases h
  | cons a as ih =>
    cases bs with
    | nil => cases h
    | cons b bs =>
      rw [List.cons_append, List.cons_append, List.cons_lt_cons_iff]
      rcases h with hlt | ⟨heq, hrest⟩
      · exact .inl (UInt8.lt_iff_toNat_lt.2 hlt)
      · exact .inr ⟨UInt8.toNat_inj.1 heq, ih hrest⟩

theorem toNat_lt (c : Char) : c.toNat < 0x110000 := by
  rcases c.valid with h | ⟨-, h⟩
  · exact Nat.lt_trans h (by decide)
  · exact h

/-- **The greater character has the greater byte where its bytes first differ.** -/
theorem encodeChar_below {c d : Char} (h : c < d) : Below (encodeChar c) (encodeChar d) := by
  have hlt : c.toNat < d.toNat := h
  have hbound := toNat_lt d
  unfold encodeChar
  generalize c.toNat = n at hlt
  generalize d.toNat = m at hlt hbound
  dsimp only
  -- More bytes mean a greater first byte; as many bytes are compared like digits to the base 64.
  have hcubed : ∀ i : Nat, i / 0x40000 = i / 0x40 / 0x40 / 0x40 := by omega
  have hsquared : ∀ i : Nat, i / 0x1000 = i / 0x40 / 0x40 := by omega
  split_ifs <;> simp only [Below, UInt8.toNat_ofNat', Nat.toUInt8, hcubed, hsquared] <;> omega

/-! ## Texts -/

def bytes (s : String) : List UInt8 := encode s.toList

theorem encode_cons (c : Char) (cs : List Char) : encode (c :: cs) = encodeChar c ++ encode cs := rfl

theorem encodeChar_ne_nil (c : Char) : encodeChar c ≠ [] := by
  unfold encodeChar
  dsimp only
  split_ifs <;> exact List.cons_ne_nil _ _

theorem encode_lt {cs ds : List Char} (h : cs < ds) : encode cs < encode ds := by
  induction ds generalizing cs with
  | nil => exact absurd h (List.not_lt_nil cs)
  | cons d ds ih =>
    cases cs with
    | nil =>
      obtain ⟨b, bs, hb⟩ := List.exists_cons_of_ne_nil (encodeChar_ne_nil d)
      rw [encode_cons, hb]
      exact List.nil_lt_cons _ _
    | cons c cs =>
      rw [encode_cons, encode_cons]
      rcases List.cons_lt_cons_iff.1 h with hlt | ⟨rfl, hrest⟩
      · exact (encodeChar_below hlt).append_lt _ _
      · exact List.append_left_lt (ih hrest)

/-- **Texts are ordered as their bytes are.** -/
theorem bytes_lt_iff {s t : String} : bytes s < bytes t ↔ s < t := by
  refine ⟨fun h => ?_, fun h => encode_lt (String.lt_iff_toList_lt.1 h)⟩
  by_contra hnot
  rcases Decidable.em (s = t) with rfl | hne
  · exact List.lt_irrefl _ h
  · exact List.lt_asymm h (encode_lt (String.lt_iff_toList_lt.1 (Dict.lt_of_not_lt_of_ne hnot hne)))

theorem bytes_le_iff {s t : String} : bytes s ≤ bytes t ↔ s ≤ t := by
  rw [← List.not_lt, bytes_lt_iff, String.not_lt]

end Utf8

/-! ## The least text -/

/-- The byte-wise least of some texts. -/
def leastText? (ks : List String) : Option String := ks.find? fun k => ks.all fun j => Utf8.bytes k ≤ Utf8.bytes j

theorem leastText?_eq_some_iff {ks : List String} {k : String} :
    leastText? ks = some k ↔ k ∈ ks ∧ ∀ j ∈ ks, k ≤ j := by
  have hfound : ∀ {k}, leastText? ks = some k → k ∈ ks ∧ ∀ j ∈ ks, k ≤ j := by
    intro k h
    refine ⟨List.mem_of_find?_eq_some h, fun j hj => ?_⟩
    have hall := List.find?_some h
    exact Utf8.bytes_le_iff.1 (of_decide_eq_true (List.all_eq_true.1 hall j hj))
  refine ⟨hfound, fun ⟨hk, hleast⟩ => ?_⟩
  cases hfind : leastText? ks with
  | none =>
    refine absurd ?_ (List.find?_eq_none.1 hfind k hk)
    exact List.all_eq_true.2 fun j hj => decide_eq_true (Utf8.bytes_le_iff.2 (hleast j hj))
  | some j =>
    obtain ⟨hj, hall⟩ := hfound hfind
    exact congrArg some (String.le_antisymm (hall k hk) (hleast j hj))

theorem leastText?_congr {ks ls : List String} (h : ∀ k, k ∈ ks ↔ k ∈ ls) : leastText? ks = leastText? ls := by
  ext k
  rw [leastText?_eq_some_iff, leastText?_eq_some_iff, h]
  exact and_congr_right fun _ => forall_congr' fun j => by rw [h]

theorem leastText?_of_sorted {ks : List String} (sorted : ks.Pairwise (· < ·)) : leastText? ks = ks.head? := by
  cases ks with
  | nil => rfl
  | cons k ks =>
    refine leastText?_eq_some_iff.2 ⟨List.mem_cons_self, fun j hj => ?_⟩
    rcases List.mem_cons.1 hj with rfl | hj
    · exact String.le_refl j
    · exact String.not_lt.1 (String.lt_asymm ((List.pairwise_cons.1 sorted).1 j hj))

namespace Dict

variable {α : Type}

/-- **The first entry with a property has the least key of all with it.** -/
theorem find?_entries (d : Dict α) (p : String × α → Bool) :
    (d.entries.find? p).map (·.1) = leastText? ((d.entries.filter p).map (·.1)) := by
  rw [leastText?_of_sorted (List.pairwise_map.2 (d.sorted.filter p)), List.head?_map, List.head?_filter]

end Dict

end JobLaunch
