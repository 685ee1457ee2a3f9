/-!
# Decimal numerals

* `digits` — the decimal digits of a natural number, without leading zeros.
* `value` — the number that digits stand for; `value_digits` says that it reads `digits` back.
* `ofInt` — an integer with its sign.
-/

namespace JobLaunch.Decimal

def digitChar (d : Nat) : Char := Char.ofNat (48 + d)

/-- The digit of a character, counted from `'0'`. -/
def digitValue (c : Char) : Nat := c.toNat - 48

/-- The decimal digits of `n`, most significant first, given at least as much fuel as digits. -/
def digitsWithin : Nat → Nat → List Char
  | 0, _ => []
  | fuel + 1, n =>
    if n < 10 then [digitChar n] else digitsWithin fuel (n / 10) ++ [digitChar (n % 10)]

/-- The decimal digits of a number, most significant first. -/
def digits (n : Nat) : List Char := digitsWithin (n + 1) n

/-- The number that decimal digits stand for. -/
def value (cs : List Char) : Nat := cs.foldl (fun n c => 10 * n + digitValue c) 0

/-- An integer with a minus sign if it is negative. -/
def ofInt : Int → List Char
  | .ofNat n => digits n
  | .negSucc n => '-' :: digits (n + 1)

/-- The text of a natural number. -/
def text (n : Nat) : String := String.ofList (digits n)

def intText (i : Int) : String := String.ofList (ofInt i)

theorem digitValue_digitChar {d : Nat} (h : d < 10) : digitValue (digitChar d) = d := by
  match d, h with
  | 0, _ | 1, _ | 2, _ | 3, _ | 4, _ | 5, _ | 6, _ | 7, _ | 8, _ | 9, _ => rfl

theorem value_append_singleton (cs : List Char) (c : Char) :
    value (cs ++ [c]) = 10 * value cs + digitValue c := by
  simp [value]

theorem value_digitsWithin {fuel n : Nat} (h : n < fuel) : value (digitsWithin fuel n) = n := by
  induction fuel generalizing n with
  | zero => omega
  | succ fuel ih =>
    unfold digitsWithin
    split
    · simp [value, digitValue_digitChar, *]
    · rw [value_append_singleton, ih (by omega), digitValue_digitChar (by omega)]
      omega

@[simp] theorem value_digits (n : Nat) : value (digits n) = n :=
  value_digitsWithin (Nat.lt_succ_self n)

end JobLaunch.Decimal
