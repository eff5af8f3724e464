import SqlFrontEnd.Number.Binary64
import SqlFrontEnd.Number.Hexadecimal
import SqlFrontEnd.Text.Blank
import SqlFrontEnd.Text.Digit

/-!
# Numbers that people write

Numbers as they are given on a command line or in a configuration: white space may surround them,
they may have a sign, their digits may be those of any script, and single underscores may stand
between digits.

* `integer`: an integer in a given base, or why the text is none.
* `real?`: a floating-point number.
-/

namespace SqlFrontEnd.Literal

/-- Why a text is no integer. -/
inductive IntegerFault where
  | malformed
  /-- The number of digits, of which only so many are read in bases like ten. -/
  | tooLong (digits : Nat)
deriving DecidableEq, Repr

/-- The longest run of digits that is read as an integer. -/
def maxDigits : Nat := 4300

/-- The value of a digit of any script; letters stand for ten and more. -/
def digitValue? (c : Char) : Option Nat :=
  match Text.decimalValue? c with
  | some n => some n
  | none =>
    if 'a' ≤ c ∧ c ≤ 'z' then some (c.toNat - 87)
    else if 'A' ≤ c ∧ c ≤ 'Z' then some (c.toNat - 55)
    else none

/-- The values of digits below a base, between which single underscores may stand. -/
def digitRun? (base : Nat) : List Char → Option (List Nat)
  | [] => none
  | [c] =>
    match digitValue? c with
    | some n => if n < base then some [n] else none
    | none => none
  | c :: d :: s =>
    match digitValue? c with
    | some n =>
      if n < base then
        if d = '_' then (digitRun? base s).map (n :: ·) else (digitRun? base (d :: s)).map (n :: ·)
      else none
    | none => none

/-- A text without its sign, and whether the sign is a minus. -/
def signed : List Char → Bool × List Char
  | '-' :: s => (true, s)
  | '+' :: s => (false, s)
  | s => (false, s)

/-- The mark that may stand before digits in a base. -/
def baseMark (base : Nat) : List Char :=
  if base = 2 then ['b', 'B'] else if base = 8 then ['o', 'O'] else if base = 16 then ['x', 'X']
  else []

/-- A text without the mark of its base.  An underscore may follow the mark. -/
def withoutMark (base : Nat) (s : List Char) : List Char :=
  match s with
  | '0' :: c :: rest =>
    if (baseMark base).contains c then
      match rest with
      | '_' :: rest => rest
      | _ => rest
    else s
  | _ => s

/-- The number of digits in a base, the most significant first. -/
def value (base : Nat) (ds : List Nat) : Nat := ds.foldl (fun n d => base * n + d) 0

/-- Tests for a digit below a base or an underscore. -/
def isInRun (base : Nat) (c : Char) : Bool :=
  c == '_' || (digitValue? c).any fun n => decide (n < base)

/-- The integer that a text writes in a base.  Whether the digits that it starts with are too many
counts before what follows them. -/
def integer (base : Nat) (text : List Char) : Except IntegerFault Int :=
  let (negative, s) := signed (Text.trimBy Text.isWhiteSpace text)
  let s := withoutMark base s
  match digitRun? base (s.takeWhile (isInRun base)) with
  | none => .error .malformed
  | some ds =>
    if base = 10 ∧ maxDigits < ds.length then .error (.tooLong ds.length)
    else if !(s.dropWhile (isInRun base)).isEmpty then .error .malformed
    else
      let n : Int := value base ds
      .ok (if negative then -n else n)

/-! ## Floating-point numbers -/

/-- A text in which digits of any script are those of ASCII. -/
def asciiDigits (text : List Char) : List Char :=
  text.map fun c => (Text.decimalValue? c).elim c Decimal.digitChar

/-- Digits between which single underscores may stand; there may be none. -/
def plainDigits? (s : List Char) : Option (List Char) :=
  if s.isEmpty then some []
  else (digitRun? 10 s).map fun ds => ds.map Decimal.digitChar

/-- The number of a mantissa and an exponent. -/
def scaled? (negative : Bool) (mantissa : List Char) (exponent : Int) : Option Binary64 :=
  let whole := mantissa.takeWhile (· != '.')
  match mantissa.dropWhile (· != '.') with
  | [] =>
    (digitRun? 10 whole).map fun ds => .ofDecimal negative (value 10 ds) exponent
  | _ :: fraction =>
    match plainDigits? whole, plainDigits? fraction with
    | some ds, some es =>
      if ds.isEmpty && es.isEmpty then none
      else some (.ofDecimal negative (Decimal.value (ds ++ es)) (exponent - es.length))
    | _, _ => none

/-- The floating-point number that a text writes. -/
def real? (text : List Char) : Option Binary64 :=
  let (negative, s) := signed (asciiDigits (Text.trimBy Text.isWhiteSpace text))
  let lower := s.map Char.toLower
  if lower == "inf".toList || lower == "infinity".toList then some (.infinite negative)
  else if lower == "nan".toList then some .nan
  else
    let isMark (c : Char) : Bool := c == 'e' || c == 'E'
    let mantissa := s.takeWhile (!isMark ·)
    match s.dropWhile (!isMark ·) with
    | [] => scaled? negative mantissa 0
    | _ :: exponent =>
      let (below, ds) := signed exponent
      match digitRun? 10 ds with
      | none => none
      | some ds =>
        let e : Int := value 10 ds
        scaled? negative mantissa (if below then -e else e)

end SqlFrontEnd.Literal
