import SqlFrontEnd.Number.Decimal

/-!
# Binary floating-point numbers

The data of the 64-bit binary format, with exact arithmetic on natural numbers.  Every finite datum
is a multiple of `2 ^ (-1074)`, the least positive one, so it is kept as that multiple: two finite
data are equal as numbers exactly when their multiples and, unless both are zero, their signs are.

* `Binary64`: the data.
* `Binary64.ofRatio`: the datum nearest to a fraction, a tie going to the even neighbour.
* `Binary64.ofDecimal`: the datum nearest to a decimal number.
* `Binary64.integer?`: the integer that a datum equals, if it is one.
* `Binary64.fixed`: a datum with a fixed number of decimal places, rounded from its exact value.
-/

namespace SqlFrontEnd

/-- A datum of the 64-bit binary format.  `finite s n` is `n * 2 ^ (-1074)`, negative if `s`. -/
inductive Binary64 where
  | finite (negative : Bool) (multiple : Nat)
  | infinite (negative : Bool)
  | nan
deriving DecidableEq, Repr

namespace Binary64

/-- The quotient of two numbers, rounded to the nearest; a tie goes to the even neighbour. -/
def divideRounded (n d : Nat) : Nat :=
  let q := n / d
  let r := n % d
  if 2 * r < d then q
  else if d < 2 * r then q + 1
  else if q % 2 = 0 then q else q + 1

/-- How many multiples of the least positive datum make one. -/
def one : Nat := Nat.pow 2 1074

/-- The multiple of a number that is beyond the format: `2 ^ 1024`. -/
def beyond : Nat := Nat.pow 2 1024 * one

/-- The spacing of the data around a multiple: 53 binary digits are kept. -/
def spacing (multiple : Nat) : Nat :=
  if multiple < Nat.pow 2 53 then 1 else Nat.pow 2 (multiple.log2 - 52)

/-- The datum nearest to `n / d`. -/
def ofRatio (negative : Bool) (n d : Nat) : Binary64 :=
  let unit := spacing (n * one / d)
  let multiple := divideRounded (n * one) (d * unit) * unit
  if multiple < beyond then finite negative multiple else infinite negative

/-- The datum nearest to `digits * 10 ^ exponent`.  A number beyond `10 ^ 400` overflows and one
below `2 ^ (-1080)` vanishes whatever its digits are, so huge powers are never computed. -/
def ofDecimal (negative : Bool) (digits : Nat) (exponent : Int) : Binary64 :=
  if digits = 0 then finite negative 0
  else if 400 < exponent then infinite negative
  else if 0 ≤ exponent then ofRatio negative (digits * Nat.pow 10 exponent.toNat) 1
  else if (digits.log2 : Int) + 1 + 3 * exponent < -1080 then finite negative 0
  else ofRatio negative digits (Nat.pow 10 exponent.natAbs)

/-- The datum nearest to an integer. -/
def ofInt (i : Int) : Binary64 := ofRatio (decide (i < 0)) i.natAbs 1

/-- The integer that a datum equals. -/
def integer? : Binary64 → Option Int
  | finite negative multiple =>
    if multiple % one = 0 then
      some (if negative then -(multiple / one : Int) else (multiple / one : Nat))
    else none
  | _ => none

/-- Tests for a finite datum. -/
def isFinite : Binary64 → Bool
  | finite .. => true
  | _ => false

/-- The sum of two data. -/
def add : Binary64 → Binary64 → Binary64
  | finite s m, finite t n =>
    if s = t then ofRatio s (m + n) one
    else if n ≤ m then ofRatio (s && n != m) (m - n) one
    else ofRatio t (n - m) one
  | infinite s, infinite t => if s = t then infinite s else nan
  | infinite s, finite .. => infinite s
  | finite .., infinite t => infinite t
  | _, _ => nan

/-- The product of two data. -/
def mul : Binary64 → Binary64 → Binary64
  | finite s m, finite t n => ofRatio (s != t) (m * n) (one * one)
  | infinite s, infinite t => infinite (s != t)
  | infinite s, finite t n => if n = 0 then nan else infinite (s != t)
  | finite s m, infinite t => if m = 0 then nan else infinite (s != t)
  | _, _ => nan

/-- A datum with its sign changed. -/
def neg : Binary64 → Binary64
  | finite s m => finite (!s) m
  | infinite s => infinite (!s)
  | nan => nan

/-- A natural number of units of `10 ^ (-places)`, with its point. -/
def withPoint (places units : Nat) : List Char :=
  let ds := Decimal.digits units
  let padded := List.replicate (places + 1 - ds.length) '0' ++ ds
  let whole := padded.take (padded.length - places)
  if places = 0 then whole else whole ++ '.' :: padded.drop (padded.length - places)

/-- A datum with a fixed number of decimal places.  The sign of a zero is kept. -/
def fixed (places : Nat) : Binary64 → String
  | finite negative multiple =>
    let text := withPoint places (divideRounded (multiple * Nat.pow 10 places) one)
    String.ofList (if negative then '-' :: text else text)
  | infinite negative => if negative then "-inf" else "inf"
  | nan => "nan"

/-! ## Shortest notation -/

/-- Tests whether `digits * 10 ^ exponent` reads back as the positive finite datum of a multiple. -/
def readsBack (multiple digits : Nat) (exponent : Int) : Bool :=
  ofDecimal false digits exponent == finite false multiple

/-- The exponent `e` of a positive datum for which `10 ^ (e - 1) ≤ value < 10 ^ e`. -/
def magnitude (multiple : Nat) : Int :=
  if one ≤ multiple then (Decimal.digits (multiple / one)).length
  else
    -- The number of leading zeros of the fraction is found from `10 ^ 330` times the value.
    ((Decimal.digits (multiple * Nat.pow 10 330 / one)).length : Int) - 330

/-- The fewest digits that read back as a positive datum, with their exponent: for each number of
digits the nearest decimal is tried, and seventeen digits always suffice. -/
def shortestDigits (multiple : Nat) : Nat × Int :=
  let e := magnitude multiple
  let candidate (count : Nat) : Nat × Int :=
    let exponent := e - count
    if 0 ≤ exponent then
      (divideRounded multiple (one * Nat.pow 10 exponent.toNat), exponent)
    else (divideRounded (multiple * Nat.pow 10 exponent.natAbs) one, exponent)
  let tried := (List.range 17).map fun k => candidate (k + 1)
  (tried.find? fun c => readsBack multiple c.1 c.2).getD (candidate 17)

/-- A number of two digits at least, with its sign. -/
def exponentText (e : Int) : List Char :=
  let ds := Decimal.digits e.natAbs
  (if e < 0 then '-' else '+') :: (if ds.length < 2 then '0' :: ds else ds)

/-- The shortest digits laid out: positional from `10 ^ (-4)` to below `10 ^ 16`, and in scientific
notation outside. -/
def layOut (digits : Nat) (exponent : Int) : List Char :=
  let ds := (Decimal.digits digits).reverse.dropWhile (· == '0') |>.reverse
  let point : Int := (Decimal.digits digits).length + exponent
  if -4 < point ∧ point ≤ 16 then
    if point ≤ 0 then '0' :: '.' :: (List.replicate point.natAbs '0' ++ ds)
    else if ds.length ≤ point.toNat then
      ds ++ List.replicate (point.toNat - ds.length) '0' ++ ['.', '0']
    else ds.take point.toNat ++ '.' :: ds.drop point.toNat
  else
    ds.take 1 ++ (if 1 < ds.length then '.' :: ds.drop 1 else []) ++ 'e' :: exponentText (point - 1)

/-- A datum in the fewest digits that read back. -/
def shortest : Binary64 → String
  | finite negative multiple =>
    let text :=
      if multiple = 0 then ['0', '.', '0']
      else layOut (shortestDigits multiple).1 (shortestDigits multiple).2
    String.ofList (if negative then '-' :: text else text)
  | infinite negative => if negative then "-inf" else "inf"
  | nan => "nan"

end Binary64

end SqlFrontEnd
