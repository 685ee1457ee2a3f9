import JobLaunch.Json.Printer
import JobLaunch.Json.Reader

/-!
# JSON text reads back

* `Decimal.isDigit_of_mem_digitsWithin`, `Decimal.digitsWithin_shape` : the numeral of a number;
* `Json.stringRest_stringChars` : a string is read back, whatever characters it has;
* `Json.isWhole` : a value all of whose numbers are whole;
* `Json.value_chars`, `Json.elements_chars`, `Json.members_chars` : the three readers read back what is written;
* `Json.read?_render` : so a text is read back.
-/

namespace JobLaunch

/-! ## Numerals -/

namespace Decimal

open Text (isDigit)

theorem isDigit_digitChar {d : Nat} (h : d < 10) : isDigit (digitChar d) = true := by
  match d, h with
  | 0, _ | 1, _ | 2, _ | 3, _ | 4, _ | 5, _ | 6, _ | 7, _ | 8, _ | 9, _ => rfl

theorem digitChar_ne_zero {d : Nat} (h : d < 10) (hpos : 0 < d) : digitChar d ≠ '0' := by
  intro heq
  have hvalue : digitValue (digitChar d) = digitValue '0' := congrArg digitValue heq
  rw [digitValue_digitChar h] at hvalue
  have hzero : digitValue '0' = 0 := rfl
  omega

theorem isDigit_of_mem_digitsWithin {fuel n : Nat} {c : Char} (h : c ∈ digitsWithin fuel n) : isDigit c = true := by
  induction fuel generalizing n with
  | zero => cases h
  | succ fuel ih =>
    unfold digitsWithin at h
    split at h
    · next hlt =>
      rw [List.mem_singleton.1 h]
      exact isDigit_digitChar hlt
    · rcases List.mem_append.1 h with h | h
      · exact ih h
      · rw [List.mem_singleton.1 h]
        exact isDigit_digitChar (Nat.mod_lt n (by decide))

theorem digitsWithin_shape {fuel n : Nat} (h : n < fuel) :
    digitsWithin fuel n = [digitChar n] ∧ n < 10 ∨ ∃ c cs, digitsWithin fuel n = c :: cs ∧ c ≠ '0' := by
  induction fuel generalizing n with
  | zero => exact absurd h (Nat.not_lt_zero n)
  | succ fuel ih =>
    unfold digitsWithin
    by_cases hlt : n < 10
    · rw [if_pos hlt]
      exact Or.inl ⟨rfl, hlt⟩
    · rw [if_neg hlt]
      right
      rcases ih (n := n / 10) (by omega) with ⟨hone, hten⟩ | ⟨c, cs, hcs, hne⟩
      · rw [hone]
        exact ⟨_, _, rfl, digitChar_ne_zero hten (by omega)⟩
      · rw [hcs]
        exact ⟨c, _, rfl, hne⟩

theorem exists_digits_cons (n : Nat) : ∃ c cs, digits n = c :: cs ∧ isDigit c = true := by
  cases hds : digits n with
  | nil =>
    have hshape := digitsWithin_shape (Nat.lt_succ_self n)
    simp [show digitsWithin (n + 1) n = [] from hds] at hshape
  | cons c cs => exact ⟨c, cs, rfl, isDigit_of_mem_digitsWithin (hds ▸ List.mem_cons_self)⟩

end Decimal

namespace Json

open Text (isDigit)

/-- The text after a number: it ends, or a comma or a closing bracket follows. -/
def Ends (rest : List Char) : Prop := ∀ c ∈ rest.head?, c = ',' ∨ c = ']' ∨ c = '\x7d'

theorem ends_nil : Ends [] := nofun

theorem ends_cons {c : Char} (h : c = ',' ∨ c = ']' ∨ c = '\x7d') (rest : List Char) : Ends (c :: rest) := by
  intro c' hc'
  obtain rfl : c = c' := Option.some.inj hc'
  exact h

theorem spanDigits_append {ds rest : List Char} (digits : ∀ c ∈ ds, isDigit c = true)
    (stops : ∀ c ∈ rest.head?, isDigit c = false) : spanDigits (ds ++ rest) = (ds, rest) := by
  have htake : rest.takeWhile isDigit = [] := by
    cases rest with
    | nil => rfl
    | cons c rest => simp [stops c rfl]
  have hdrop : rest.dropWhile isDigit = rest := by
    cases rest with
    | nil => rfl
    | cons c rest => simp [stops c rfl]
  rw [spanDigits, List.takeWhile_append_of_pos digits, List.dropWhile_append_of_pos digits, htake, hdrop,
    List.append_nil]

theorem Ends.fraction? {rest : List Char} (h : Ends rest) : Json.fraction? rest = some (none, rest) := by
  cases rest with
  | nil => rfl
  | cons c rest => rcases h c rfl with rfl | rfl | rfl <;> rfl

theorem Ends.exponent? {rest : List Char} (h : Ends rest) : Json.exponent? rest = some (none, rest) := by
  cases rest with
  | nil => rfl
  | cons c rest => rcases h c rfl with rfl | rfl | rfl <;> rfl

theorem unsigned_digits (negative : Bool) (n : Nat) {rest : List Char} (h : Ends rest) :
    unsigned negative (Decimal.digits n ++ rest) = some (numberOf negative (Decimal.digits n) none none, rest) := by
  have hdigits : ∀ c ∈ Decimal.digits n, isDigit c = true := fun c hc => Decimal.isDigit_of_mem_digitsWithin hc
  have hstops : ∀ c ∈ rest.head?, isDigit c = false := by
    intro c hc
    rcases h c hc with rfl | rfl | rfl <;> rfl
  have hspan := spanDigits_append hdigits hstops
  rcases Decimal.digitsWithin_shape (Nat.lt_succ_self n) with ⟨hone, -⟩ | ⟨c, cs, hcs, hne⟩
  · replace hone : Decimal.digits n = [Decimal.digitChar n] := hone
    rw [unsigned, hspan, hone]
    simp [h.fraction?, h.exponent?]
  · replace hcs : Decimal.digits n = c :: cs := hcs
    rw [unsigned, hspan, hcs]
    simp [h.fraction?, h.exponent?, hne]

theorem numeral_of_ne_minus {cs : List Char} (h : cs.head? ≠ some '-') : numeral cs = unsigned false cs := by
  unfold numeral
  split
  · exact absurd rfl h
  · rfl

theorem numeral_ofInt (i : Int) {rest : List Char} (h : Ends rest) :
    numeral (Decimal.ofInt i ++ rest) = some (.integer i, rest) := by
  cases i with
  | ofNat n =>
    have hhead : (Decimal.digits n ++ rest).head? ≠ some '-' := by
      obtain ⟨c, cs, hcs, hdigit⟩ := Decimal.exists_digits_cons n
      rw [hcs]
      intro hminus
      obtain rfl : c = '-' := Option.some.inj hminus
      cases hdigit
    show numeral (Decimal.digits n ++ rest) = _
    rw [numeral_of_ne_minus hhead, unsigned_digits false n h]
    simp [numberOf]
  | negSucc n =>
    show unsigned true (Decimal.digits (n + 1) ++ rest) = _
    rw [unsigned_digits true (n + 1) h]
    have hneg : (-(n + 1 : Nat) : Int) = Int.negSucc n := rfl
    simp only [numberOf, Decimal.value_digits]
    rw [if_neg (by simp), if_neg (Nat.succ_ne_zero n), hneg]

/-! ## Strings -/

/-- The piece of a string's body that a written character is. -/
def pieceOf (c : Char) : Piece :=
  if c.toNat < 0x20 ∧ c ≠ '\x08' ∧ c ≠ '\t' ∧ c ≠ '\n' ∧ c ≠ '\x0c' ∧ c ≠ '\r' then .unit c.toNat else .char c

theorem hexDigit?_hexChar : ∀ d < 16, hexDigit? (hexChar d) = some d := by decide

theorem pieceOf_of_plain {c : Char} (h : 0x20 ≤ c.toNat) : pieceOf c = .char c := if_neg fun hc => absurd hc.1 (by omega)

theorem body_plain {c : Char} (quote : c ≠ '"') (slash : c ≠ '\\') (low : 0x20 ≤ c.toNat) (rest : List Char) :
    body (c :: rest) = (body rest).map fun x => (.char c :: x.1, x.2) := by
  rw [body.eq_def]
  split
  · next heq => cases heq
  · next heq => exact absurd (List.cons.inj heq).1 quote
  · next heq => exact absurd (List.cons.inj heq).1 slash
  · next heq => exact absurd (List.cons.inj heq).1 slash
  · next heq =>
    obtain ⟨rfl, rfl⟩ := List.cons.inj heq
    have hplain : (c == '\\' || decide (c.toNat < 0x20)) = false := by simp [slash, low]
    rw [hplain, if_neg Bool.false_ne_true]

theorem body_escapeChar (c : Char) (rest : List Char) :
    body (escapeChar c ++ rest) = (body rest).map fun x => (pieceOf c :: x.1, x.2) := by
  unfold escapeChar
  split
  · subst_vars; rfl
  split
  · subst_vars; rfl
  split
  · subst_vars; rfl
  split
  · subst_vars; rfl
  split
  · subst_vars; rfl
  split
  · subst_vars; rfl
  split
  · subst_vars; rfl
  split
  · next hb ht hn hf hr hlow =>
    have hpiece : pieceOf c = .unit c.toNat := if_pos ⟨hlow, hb, ht, hn, hf, hr⟩
    have hhigh := hexDigit?_hexChar (c.toNat / 16) (by omega)
    have hrest := hexDigit?_hexChar (c.toNat % 16) (by omega)
    have hzero : hexDigit? '0' = some 0 := rfl
    have hunit : 4096 * 0 + 256 * 0 + 16 * (c.toNat / 16) + c.toNat % 16 = c.toNat := by omega
    have hhex : hex4? '0' '0' (hexChar (c.toNat / 16)) (hexChar (c.toNat % 16)) = some c.toNat := by
      simp only [hex4?, hzero, hhigh, hrest, hunit]
    simp only [List.cons_append, List.nil_append]
    rw [body, hhex, hpiece]
  · next quote slash _ _ _ _ _ low =>
    rw [pieceOf_of_plain (Nat.le_of_not_lt low)]
    exact body_plain quote slash (Nat.le_of_not_lt low) rest

theorem body_escaped (cs rest : List Char) :
    body (cs.flatMap escapeChar ++ '"' :: rest) = some (cs.map pieceOf, rest) := by
  induction cs with
  | nil => rfl
  | cons c cs ih =>
    rw [List.flatMap_cons, List.append_assoc, body_escapeChar, ih]
    rfl

/-- A `\u` escape that is no half of a pair stands for its character, whatever follows. -/
theorem assemble_unit {u : Nat} (low : u < 0xD800) (ps : List Piece) :
    assemble (.unit u :: ps) = (assemble ps).map (Char.ofNat u :: ·) := by
  have hhigh : isHighHalf u = false := by
    rw [isHighHalf, decide_eq_false (Nat.not_le_of_lt low), Bool.false_and]
  have hlow : isLowHalf u = false := by
    rw [isLowHalf, decide_eq_false (by omega), Bool.false_and]
  cases ps with
  | nil => simp [assemble, hhigh, hlow]
  | cons p ps => cases p <;> simp [assemble, hhigh, hlow]

theorem assemble_pieceOf (c : Char) (ps : List Piece) :
    assemble (pieceOf c :: ps) = (assemble ps).map (c :: ·) := by
  unfold pieceOf
  split
  · next hlow => rw [assemble_unit (by omega), Char.ofNat_toNat]
  · rw [assemble]

theorem assemble_pieces (cs : List Char) : assemble (cs.map pieceOf) = some cs := by
  induction cs with
  | nil => rfl
  | cons c cs ih =>
    rw [List.map_cons, assemble_pieceOf, ih]
    rfl

theorem stringRest_stringChars (text : Option String) (rest : List Char) :
    ∃ cs, stringChars text ++ rest = '"' :: cs ∧ stringRest cs = some (text, rest) := by
  cases text with
  | none => exact ⟨_, rfl, rfl⟩
  | some s =>
    refine ⟨s.toList.flatMap escapeChar ++ '"' :: rest, by simp [stringChars, quoted], ?_⟩
    rw [stringRest, body_escaped]
    show some ((assemble (s.toList.map pieceOf)).map String.ofList, rest) = _
    rw [assemble_pieces, Option.map_some, String.ofList_toList]

/-! ## Values -/

mutual
def isWhole : Json → Bool
  | .number (.integer _) => true
  | .number (.decimal ..) => false
  | .array es => wholeElements es
  | .object ms => wholeMembers ms
  | _ => true

/-- `isWhole` of all elements of an array. -/
def wholeElements : List Json → Bool
  | [] => true
  | j :: js => isWhole j && wholeElements js

/-- `isWhole` of the values of an object's members. -/
def wholeMembers : List (Option String × Json) → Bool
  | [] => true
  | (_, j) :: ms => isWhole j && wholeMembers ms
end

/-- The first character of a number. -/
def Leads (c : Char) : Prop := c = '-' ∨ isDigit c = true

theorem Leads.ne {c d : Char} (h : Leads c) (minus : d ≠ '-') (digit : isDigit d = false) : c ≠ d := by
  rintro rfl
  rcases h with h | h
  · exact minus h
  · rw [h] at digit
    cases digit

theorem Leads.isSpace {c : Char} (h : Leads c) : isSpace c = false := by
  have hblank := h.ne (d := ' ') (by decide) (by decide)
  have hline := h.ne (d := '\n') (by decide) (by decide)
  have htab := h.ne (d := '\t') (by decide) (by decide)
  have hreturn := h.ne (d := '\r') (by decide) (by decide)
  simp [Json.isSpace, hblank, hline, htab, hreturn]

theorem exists_ofInt_cons (i : Int) : ∃ c cs, Decimal.ofInt i = c :: cs ∧ Leads c := by
  cases i with
  | ofNat n =>
    obtain ⟨c, cs, hcs, hdigit⟩ := Decimal.exists_digits_cons n
    exact ⟨c, cs, hcs, Or.inr hdigit⟩
  | negSucc n => exact ⟨'-', _, rfl, Or.inl rfl⟩

theorem exists_chars_cons {j : Json} (whole : j.isWhole = true) :
    ∃ c cs, chars j = c :: cs ∧ isSpace c = false ∧ c ≠ ']' := by
  cases j with
  | null => exact ⟨_, _, rfl, rfl, by decide⟩
  | bool b => cases b <;> exact ⟨_, _, rfl, rfl, by decide⟩
  | number n =>
    cases n with
    | decimal => cases whole
    | integer i =>
      obtain ⟨c, cs, hcs, hleads⟩ := exists_ofInt_cons i
      exact ⟨c, cs, hcs, hleads.isSpace, hleads.ne (by decide) (by decide)⟩
  | string text => cases text <;> exact ⟨_, _, rfl, rfl, by decide⟩
  | array es => cases es <;> exact ⟨_, _, rfl, rfl, by decide⟩
  | object ms => cases ms <;> exact ⟨_, _, rfl, rfl, by decide⟩

theorem skipSpace_cons {c : Char} (h : isSpace c = false) (cs : List Char) : skipSpace (c :: cs) = c :: cs :=
  List.dropWhile_cons_of_neg (by rw [h]; exact Bool.false_ne_true)

/-! Each reader by the first character that it meets. -/

theorem value_number {c : Char} (h : Leads c) (fuel : Nat) (cs : List Char) :
    value (fuel + 1) (c :: cs) = (numeral (c :: cs)).map fun (n, r) => (.number n, r) := by
  rw [value, skipSpace_cons h.isSpace]
  split
  · next heq => exact absurd (List.cons.inj heq).1 (h.ne (by decide) (by decide))
  · next heq => exact absurd (List.cons.inj heq).1 (h.ne (by decide) (by decide))
  · next heq => exact absurd (List.cons.inj heq).1 (h.ne (by decide) (by decide))
  · next heq => exact absurd (List.cons.inj heq).1 (h.ne (by decide) (by decide))
  · next heq => exact absurd (List.cons.inj heq).1 (h.ne (by decide) (by decide))
  · next heq => exact absurd (List.cons.inj heq).1 (h.ne (by decide) (by decide))
  · rfl

theorem value_array {c : Char} (space : isSpace c = false) (bracket : c ≠ ']') (fuel : Nat) (cs : List Char) :
    value (fuel + 1) ('[' :: c :: cs) = (elements fuel (c :: cs)).map fun (es, r) => (.array es, r) := by
  rw [value, skipSpace_cons (show isSpace '[' = false from rfl)]
  simp only [skipSpace_cons space]
  split
  · next heq => exact absurd (List.cons.inj heq).1 bracket
  · rfl

theorem elements_comma {fuel : Nat} {cs rest : List Char} {j : Json} (h : value fuel cs = some (j, ',' :: rest)) :
    elements (fuel + 1) cs = (elements fuel rest).map fun (js, r) => (j :: js, r) := by
  rw [elements, h]
  rfl

theorem elements_bracket {fuel : Nat} {cs rest : List Char} {j : Json} (h : value fuel cs = some (j, ']' :: rest)) :
    elements (fuel + 1) cs = some ([j], rest) := by
  rw [elements, h]
  rfl

theorem members_comma {fuel : Nat} {key cs rest : List Char} {k : Option String} {j : Json}
    (hkey : stringRest key = some (k, ':' :: cs)) (h : value fuel cs = some (j, ',' :: rest)) :
    members (fuel + 1) ('"' :: key) = (members fuel rest).map fun (ms, r) => ((k, j) :: ms, r) := by
  rw [members, skipSpace_cons rfl]
  simp only [hkey, skipSpace_cons (show isSpace ':' = false from rfl), h,
    skipSpace_cons (show isSpace ',' = false from rfl)]

theorem members_brace {fuel : Nat} {key cs rest : List Char} {k : Option String} {j : Json}
    (hkey : stringRest key = some (k, ':' :: cs)) (h : value fuel cs = some (j, '\x7d' :: rest)) :
    members (fuel + 1) ('"' :: key) = some ([(k, j)], rest) := by
  rw [members, skipSpace_cons rfl]
  simp only [hkey, skipSpace_cons (show isSpace ':' = false from rfl), h,
    skipSpace_cons (show isSpace '\x7d' = false from rfl)]

theorem exists_fuel {n fuel : Nat} (h : n < fuel) : ∃ k, fuel = k + 1 :=
  Nat.exists_eq_succ_of_ne_zero (Nat.ne_of_gt (Nat.zero_lt_of_lt h))

mutual
/-- **A value is read back from its text**, whatever follows that does not go on with a number. -/
theorem value_chars : ∀ (j : Json) (fuel : Nat) (rest : List Char), j.isWhole = true → (chars j).length < fuel →
    Ends rest → value fuel (chars j ++ rest) = some (j, rest)
  | .null, fuel, rest, _, enough, _ => by
    obtain ⟨fuel, rfl⟩ := exists_fuel enough
    rfl
  | .bool b, fuel, rest, _, enough, _ => by
    obtain ⟨fuel, rfl⟩ := exists_fuel enough
    cases b <;> rfl
  | .string text, fuel, rest, _, enough, _ => by
    obtain ⟨fuel, rfl⟩ := exists_fuel enough
    obtain ⟨cs, hcs, hread⟩ := stringRest_stringChars text rest
    show value (fuel + 1) (stringChars text ++ rest) = _
    rw [hcs]
    show (stringRest cs).map (fun (t, r) => (Json.string t, r)) = _
    rw [hread]
    rfl
  | .number (.decimal _ _ _), _, _, whole, _, _ => by cases whole
  | .number (.integer i), fuel, rest, _, enough, ends => by
    obtain ⟨fuel, rfl⟩ := exists_fuel enough
    obtain ⟨c, cs, hcs, hleads⟩ := exists_ofInt_cons i
    have hread := numeral_ofInt i ends
    show value (fuel + 1) (Decimal.ofInt i ++ rest) = _
    rw [hcs] at hread ⊢
    rw [List.cons_append, value_number hleads, ← List.cons_append, hread]
    rfl
  | .array [], fuel, rest, _, enough, _ => by
    obtain ⟨fuel, rfl⟩ := exists_fuel enough
    rfl
  | .array (j :: js), fuel, rest, whole, enough, _ => by
    obtain ⟨fuel, rfl⟩ := exists_fuel enough
    rw [isWhole, wholeElements, Bool.and_eq_true] at whole
    simp only [chars, List.cons_append, List.length_cons, List.length_append] at enough
    have hread := elements_chars j js fuel rest whole.1 whole.2 (by omega)
    obtain ⟨c, cs, hcs, hspace, hbracket⟩ := exists_chars_cons whole.1
    show value (fuel + 1) ('[' :: chars j ++ moreElements js ++ rest) = _
    rw [hcs] at hread ⊢
    simp only [List.cons_append] at hread ⊢
    rw [value_array hspace hbracket, hread]
    rfl
  | .object [], fuel, rest, _, enough, _ => by
    obtain ⟨fuel, rfl⟩ := exists_fuel enough
    rfl
  | .object ((k, j) :: ms), fuel, rest, whole, enough, _ => by
    obtain ⟨fuel, rfl⟩ := exists_fuel enough
    rw [isWhole, wholeMembers, Bool.and_eq_true] at whole
    simp only [chars, List.cons_append, List.length_cons, List.length_append] at enough
    have hread := members_chars k j ms fuel rest whole.1 whole.2 (by omega)
    obtain ⟨cs, hcs, -⟩ := stringRest_stringChars k (':' :: (chars j ++ (moreMembers ms ++ rest)))
    rw [hcs] at hread
    have htext : chars (.object ((k, j) :: ms)) ++ rest = '\x7b' :: '"' :: cs := by
      rw [← hcs]
      simp [chars]
    rw [htext]
    show (members fuel ('"' :: cs)).map (fun (ms, r) => (Json.object ms, r)) = _
    rw [hread]
    rfl
termination_by j => sizeOf j

theorem elements_chars : ∀ (j : Json) (js : List Json) (fuel : Nat) (rest : List Char), j.isWhole = true →
    wholeElements js = true → (chars j).length + (moreElements js).length < fuel →
    elements fuel (chars j ++ moreElements js ++ rest) = some (j :: js, rest)
  | j, [], fuel, rest, whole, _, enough => by
    obtain ⟨fuel, rfl⟩ := exists_fuel enough
    simp only [moreElements, List.length_singleton] at enough
    have hread := value_chars j fuel _ whole (by omega) (ends_cons (c := ']') (by simp) rest)
    rw [moreElements, List.append_assoc, List.singleton_append]
    exact elements_bracket hread
  | j, j' :: js, fuel, rest, whole, wholes, enough => by
    obtain ⟨fuel, rfl⟩ := exists_fuel enough
    rw [wholeElements, Bool.and_eq_true] at wholes
    simp only [moreElements, List.cons_append, List.length_cons, List.length_append] at enough
    have hread := value_chars j fuel _ whole (by omega)
      (ends_cons (c := ',') (by simp) (chars j' ++ moreElements js ++ rest))
    have hrest := elements_chars j' js fuel rest wholes.1 wholes.2 (by omega)
    rw [moreElements, List.append_assoc, List.cons_append, List.cons_append, elements_comma hread, hrest]
    rfl
termination_by j js => sizeOf j + sizeOf js

theorem members_chars : ∀ (k : Option String) (j : Json) (ms : List (Option String × Json)) (fuel : Nat)
    (rest : List Char), j.isWhole = true → wholeMembers ms = true →
    (stringChars k).length + (chars j).length + (moreMembers ms).length < fuel →
    members fuel (stringChars k ++ ':' :: (chars j ++ (moreMembers ms ++ rest))) = some ((k, j) :: ms, rest)
  | k, j, [], fuel, rest, whole, _, enough => by
    obtain ⟨fuel, rfl⟩ := exists_fuel enough
    simp only [moreMembers, List.length_singleton] at enough
    have hread := value_chars j fuel _ whole (by omega) (ends_cons (c := '\x7d') (by simp) rest)
    obtain ⟨cs, hcs, hkey⟩ := stringRest_stringChars k (':' :: (chars j ++ '\x7d' :: rest))
    rw [moreMembers, List.singleton_append, hcs]
    exact members_brace hkey hread
  | k, j, (k', j') :: ms, fuel, rest, whole, wholes, enough => by
    obtain ⟨fuel, rfl⟩ := exists_fuel enough
    rw [wholeMembers, Bool.and_eq_true] at wholes
    simp only [moreMembers, List.cons_append, List.length_cons, List.length_append] at enough
    have hrest := members_chars k' j' ms fuel rest wholes.1 wholes.2 (by omega)
    have hread := value_chars j fuel _ whole (by omega)
      (ends_cons (c := ',') (by simp) (stringChars k' ++ ':' :: (chars j' ++ (moreMembers ms ++ rest))))
    obtain ⟨cs, hcs, hkey⟩ := stringRest_stringChars k
      (':' :: (chars j ++ ',' :: (stringChars k' ++ ':' :: (chars j' ++ (moreMembers ms ++ rest)))))
    have htext : stringChars k ++ ':' :: (chars j ++ (moreMembers ((k', j') :: ms) ++ rest)) = '"' :: cs := by
      rw [← hcs]
      simp [moreMembers]
    rw [htext, members_comma hkey hread, hrest]
    rfl
termination_by _ j ms => sizeOf j + sizeOf ms
end

/-- **A value whose numbers are whole is read back from its text.** -/
theorem read?_render {j : Json} (whole : j.isWhole = true) : read? j.render = some j := by
  have hread := value_chars j ((chars j).length + 1) [] whole (Nat.lt_succ_self _) ends_nil
  rw [List.append_nil] at hread
  rw [read?, render, String.toList_ofList, readChars?, hread]
  rfl

end Json

end JobLaunch
