/-!
# Decimal notation

Whole numbers in decimal digits, without leading zeros, and back.

* `digits`, `text`: a natural number written out.
* `integerText`: an integer, with a minus sign when it is negative.
* `value`: the number that a run of digits denotes.
* `value_digits`: reading back what was written.
-/

namespace SqlFrontEnd.Decimal

/-- The character of a digit below ten. -/
def digitChar (n : Nat) : Char := Char.ofNat (48 + n)

/-- The ASCII digits. -/
def isDigit (c : Char) : Bool := decide ('0' ≤ c) && decide (c ≤ '9')

/-- The value of an ASCII digit. -/
def digitValue (c : Char) : Nat := c.toNat - 48

/-- The decimal digits of a number, the most significant first. -/
def digits (n : Nat) : List Char :=
  if n < 10 then [digitChar n] else digits (n / 10) ++ [digitChar (n % 10)]

/-- The number that a run of digits denotes; the empty run denotes zero. -/
def value (ds : List Char) : Nat := ds.foldl (fun n c => 10 * n + digitValue c) 0

/-- A number written out. -/
def text (n : Nat) : String := String.ofList (digits n)

/-- An integer written out. -/
def integerText (i : Int) : String :=
  if i < 0 then "-" ++ text i.natAbs else text i.natAbs

theorem digitValue_digitChar {n : Nat} (h : n < 10) : digitValue (digitChar n) = n := by
  revert n; decide

/-- **Reading back.**  The digits of a number denote it. -/
theorem value_digits (n : Nat) : value (digits n) = n := by
  induction n using digits.induct with
  | case1 n h =>
    rw [digits, if_pos h]
    simp [value, digitValue_digitChar h]
  | case2 n h ih =>
    have ih' : List.foldl (fun n c => 10 * n + digitValue c) 0 (digits (n / 10)) = n / 10 := ih
    rw [digits, if_neg h, value, List.foldl_append, ih']
    simp only [List.foldl_cons, List.foldl_nil, digitValue_digitChar (Nat.mod_lt n (by decide))]
    omega

end SqlFrontEnd.Decimal
