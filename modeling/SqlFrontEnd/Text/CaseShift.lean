/-!
# Shifts between upper and lower case

Most characters that have a counterpart in the other case find it at a fixed distance, which whole
rows of them share: neighbours in one alphabet, or every second character where capitals and small
letters alternate.

* `CaseShift`: such a row.
* `CaseShift.covers`, `CaseShift.image`: its characters and their counterparts.
-/

namespace SqlFrontEnd.Text

/-- Every `stride`-th code point from `first` to `last` has its counterpart at distance `shift`. -/
structure CaseShift where
  first : Nat
  last : Nat
  stride : Nat
  shift : Int
deriving Repr

namespace CaseShift

/-- Tests whether a row covers a code point. -/
def covers (m : CaseShift) (n : Nat) : Bool :=
  decide (m.first ≤ n) && decide (n ≤ m.last) && (n - m.first) % m.stride == 0

/-- The counterpart of a code point that a row covers. -/
def image (m : CaseShift) (n : Nat) : Char := Char.ofNat (n + m.shift).toNat

end CaseShift

end SqlFrontEnd.Text
