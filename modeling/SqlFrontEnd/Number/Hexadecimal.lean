/-!
# Hexadecimal notation

Numbers of a fixed count of hexadecimal digits, as escapes in quoted text use them.

* `padded`: the last `width` digits of a number, lower case.
* `digitValue?`, `value?`: reading digits of either case.
-/

namespace SqlFrontEnd.Hexadecimal

/-- The lower-case character of a digit below sixteen. -/
def digitChar (n : Nat) : Char := if n < 10 then Char.ofNat (48 + n) else Char.ofNat (87 + n)

/-- The value of a hexadecimal digit of either case. -/
def digitValue? (c : Char) : Option Nat :=
  if '0' ≤ c ∧ c ≤ '9' then some (c.toNat - 48)
  else if 'a' ≤ c ∧ c ≤ 'f' then some (c.toNat - 87)
  else if 'A' ≤ c ∧ c ≤ 'F' then some (c.toNat - 55)
  else none

/-- The last `width` digits of a number, the most significant first. -/
def padded : (width : Nat) → Nat → List Char
  | 0, _ => []
  | width + 1, n => padded width (n / 16) ++ [digitChar (n % 16)]

/-- The number that a run of digits denotes, unless one of them is no digit. -/
def value? (ds : List Char) : Option Nat :=
  ds.foldlM (fun n c => (digitValue? c).map (16 * n + ·)) 0

theorem digitValue?_digitChar {n : Nat} (h : n < 16) : digitValue? (digitChar n) = some n := by
  revert n; decide

theorem length_padded (width n : Nat) : (padded width n).length = width := by
  induction width generalizing n with
  | zero => rfl
  | succ width ih => simp [padded, ih]

/-- **Reading back.**  A number that fits in `width` digits is denoted by them. -/
theorem value?_padded {width n : Nat} (h : n < Nat.pow 16 width) :
    value? (padded width n) = some n := by
  induction width generalizing n with
  | zero =>
    obtain rfl : n = 0 := Nat.lt_one_iff.1 h
    rfl
  | succ width ih =>
    have hq : n < Nat.pow 16 width * 16 := h
    have ih' := ih (Nat.div_lt_of_lt_mul (Nat.mul_comm _ 16 ▸ hq))
    unfold value? at ih' ⊢
    rw [padded, List.foldlM_append, ih']
    simp only [List.foldlM_cons, List.foldlM_nil,
      digitValue?_digitChar (Nat.mod_lt n (by decide : 16 > 0))]
    simp
    omega

end SqlFrontEnd.Hexadecimal
