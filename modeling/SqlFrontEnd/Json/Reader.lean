import SqlFrontEnd.Json.Basic
import SqlFrontEnd.Number.Hexadecimal

/-!
# Reading JSON

The grammar of the data format, with two liberties that its writers take: the words `NaN`,
`Infinity` and `-Infinity` are numbers, and a name may be written twice in an object, where the last
one counts.  A control character inside a string must be escaped.  A string may hold one half of a
surrogate pair without the other, as it is or as an escape; two escapes make a pair, but nothing
else does.  A reader may refuse integers of more digits than it has room for.

* `Json.readWithin?`: the value that a whole text writes, with a limit on the digits of integers.
* `Json.read?`: the same with the limit that holds for what others send.
* `Json.value?`: the value at the start of a text, and the text after it.  The second argument
  bounds the depth of the recursion; the length of the text is always enough.
-/

namespace SqlFrontEnd.Json

/-- The characters that may stand between the parts of a text. -/
def isSpace (c : Char) : Bool := c == ' ' || c == '\t' || c == '\n' || c == '\r'

/-- A text without the space it begins with. -/
def skipSpace (s : Text) : Text := s.dropWhile (·.holds isSpace)

/-! ## Strings -/

/-- The number that four hexadecimal digits write. -/
def unit? : Text → Option (Nat × Text)
  | .char a :: .char b :: .char c :: .char d :: s =>
    (Hexadecimal.value? [a, b, c, d]).map (·, s)
  | _ => none

/-- The low half of a surrogate pair, written as an escape at the start of a text. -/
def lowHalf? : Text → Option (Nat × Text)
  | .char '\\' :: .char 'u' :: s =>
    (unit? s).filter fun r => decide (0xDC00 ≤ r.1) && decide (r.1 < 0xE000)
  | _ => none

/-- The code point that an escape by number denotes.  A character above `U+FFFF` is written as two
units, the high half of the pair before the low one; a half without the other stands for itself. -/
def numbered? (s : Text) : Option (CodePoint × Text) :=
  match unit? s with
  | none => none
  | some (unit, s') =>
    match if 0xD800 ≤ unit ∧ unit < 0xDC00 then lowHalf? s' else none with
    | some (low, s'') =>
      some (.char (Char.ofNat (0x10000 + (unit - 0xD800) * 0x400 + (low - 0xDC00))), s'')
    | none => (CodePoint.ofNumber? unit).map (·, s')

/-- The code point that the text after a backslash denotes. -/
def escape? : Text → Option (CodePoint × Text)
  | .char '"' :: s => some (.char '"', s)
  | .char '\\' :: s => some (.char '\\', s)
  | .char '/' :: s => some (.char '/', s)
  | .char 'b' :: s => some (.char '\x08', s)
  | .char 'f' :: s => some (.char '\x0C', s)
  | .char 'n' :: s => some (.char '\n', s)
  | .char 'r' :: s => some (.char '\r', s)
  | .char 't' :: s => some (.char '\t', s)
  | .char 'u' :: s => numbered? s
  | _ => none

theorem unit?_length {s s' : Text} {n : Nat} (h : unit? s = some (n, s')) :
    s'.length < s.length := by
  unfold unit? at h
  split at h
  · obtain ⟨_, _, h⟩ := Option.map_eq_some_iff.1 h
    cases h
    simp only [List.length_cons]
    omega
  · simp at h

theorem lowHalf?_length {s s' : Text} {n : Nat} (h : lowHalf? s = some (n, s')) :
    s'.length < s.length := by
  unfold lowHalf? at h
  split at h
  · have := unit?_length (Option.filter_eq_some_iff.1 h).1
    simp only [List.length_cons]
    omega
  · simp at h

theorem numbered?_length {s s' : Text} {c : CodePoint} (h : numbered? s = some (c, s')) :
    s'.length < s.length := by
  unfold numbered? at h
  split at h
  · simp at h
  · next unit t ht =>
    have h₁ := unit?_length ht
    split at h
    · next low u hu =>
      obtain ⟨-, rfl⟩ := Prod.mk.inj (Option.some.inj h)
      split at hu
      · exact Nat.lt_trans (lowHalf?_length hu) h₁
      · cases hu
    · obtain ⟨_, _, h⟩ := Option.map_eq_some_iff.1 h
      cases h
      exact h₁

theorem escape?_length {s s' : Text} {c : CodePoint} (h : escape? s = some (c, s')) :
    s'.length < s.length := by
  unfold escape? at h
  split at h
  case h_9 => have := numbered?_length h; simp only [List.length_cons]; omega
  case h_10 => simp at h
  all_goals
    simp only [Option.some.injEq, Prod.mk.injEq] at h
    obtain ⟨-, rfl⟩ := h
    simp

/-- Tests for a character that must be escaped inside a string. -/
def isControl (c : Char) : Bool := decide (c.toNat < 0x20)

/-- The content of a string whose opening quote has been read, and the text after its closing
quote. -/
def content? : Text → Option (Text × Text)
  | [] => none
  | c :: s =>
    if c = .char '"' then some ([], s)
    else if c = .char '\\' then
      match _h : escape? s with
      | some (d, s') => (content? s').map fun r => (d :: r.1, r.2)
      | none => none
    else if c.holds isControl then none
    else (content? s).map fun r => (c :: r.1, r.2)
termination_by s => s.length
decreasing_by
  · have := escape?_length _h; simp only [List.length_cons]; omega
  · simp

/-! ## Numbers -/

/-- The digits at the start of a text, and the text after them. -/
def digits : Text → List Char × Text
  | .char c :: s =>
    if Decimal.isDigit c then
      let (ds, rest) := digits s
      (c :: ds, rest)
    else ([], .char c :: s)
  | s => ([], s)

/-- The digits of a fraction after its point, if there is one with digits. -/
def fraction (s : Text) : Option (List Char × Text) :=
  match s with
  | .char '.' :: s' =>
    let (ds, rest) := digits s'
    if ds.isEmpty then none else some (ds, rest)
  | _ => none

/-- The exponent after its mark, if there is one with digits. -/
def exponent (s : Text) : Option (Int × Text) :=
  let digitsOf (negative : Bool) (s : Text) : Option (Int × Text) :=
    let (ds, rest) := digits s
    if ds.isEmpty then none
    else
      let n : Int := Decimal.value ds
      some (if negative then -n else n, rest)
  match s with
  | c :: s' =>
    if c = .char 'e' ∨ c = .char 'E' then
      match s' with
      | .char '-' :: s'' => digitsOf true s''
      | .char '+' :: s'' => digitsOf false s''
      | _ => digitsOf false s'
    else none
  | [] => none

/-- The number whose sign has been read.  An integer may have so many digits as the limit says, if
there is one. -/
def number? (limit : Option Nat) (negative : Bool) (s : Text) : Option (Json × Text) :=
  let run := (digits s).1
  -- A leading zero stands alone.
  let whole := if run.head? = some '0' then ['0'] else run
  let rest := s.drop whole.length
  if whole.isEmpty then none
  else
    let signed (n : Nat) : Int := if negative then -(n : Int) else n
    match fraction rest, exponent rest with
    | none, none =>
      if limit.any fun most => decide (most < whole.length) then none
      else some (.int (signed (Decimal.value whole)), rest)
    | none, some (e, rest') =>
      some (.real (.ofDecimal negative (Decimal.value whole) e), rest')
    | some (ds, rest'), _ =>
      let mantissa := Decimal.value (whole ++ ds)
      match exponent rest' with
      | some (e, rest'') => some (.real (.ofDecimal negative mantissa (e - ds.length)), rest'')
      | none => some (.real (.ofDecimal negative mantissa (-(ds.length : Int))), rest')

/-! ## Words -/

/-- The values that are written as a word. -/
def words : List (String × Json) :=
  [("null", .null), ("true", .bool true), ("false", .bool false), ("NaN", .real .nan),
   ("Infinity", .real (.infinite false)), ("-Infinity", .real (.infinite true))]

/-- The value whose word a text begins with. -/
def word? (s : Text) : Option (Json × Text) :=
  (words.find? fun w => (Text.ofString w.1).isPrefixOf s).map fun w => (w.2, s.drop w.1.length)

/-! ## Values -/

mutual

/-- The value at the start of a text. -/
def value? (limit : Option Nat) : Nat → Text → Option (Json × Text)
  | 0, _ => none
  | fuel + 1, s =>
    match s with
    | .char '"' :: s' => (content? s').map fun r => (.string r.1, r.2)
    | .char '[' :: s' =>
      match skipSpace s' with
      | .char ']' :: s'' => some (.array [], s'')
      | s'' => (items? limit fuel s'').map fun r => (.array r.1, r.2)
    | .char '\x7b' :: s' =>
      match skipSpace s' with
      | .char '\x7d' :: s'' => some (.object [], s'')
      | s'' => (members? limit fuel s'').map fun r => (ofMembers r.1, r.2)
    | _ =>
      match word? s with
      | some r => some r
      | none =>
        match s with
        | .char '-' :: s' => number? limit true s'
        | _ => number? limit false s

/-- The items of an array from the first of them on, through the closing bracket. -/
def items? (limit : Option Nat) : Nat → Text → Option (List Json × Text)
  | 0, _ => none
  | fuel + 1, s =>
    match value? limit fuel s with
    | none => none
    | some (v, s') =>
      match skipSpace s' with
      | .char ']' :: s'' => some ([v], s'')
      | .char ',' :: s'' => (items? limit fuel (skipSpace s'')).map fun r => (v :: r.1, r.2)
      | _ => none

/-- The members of an object from the first of them on, through the closing brace. -/
def members? (limit : Option Nat) : Nat → Text → Option (List (Text × Json) × Text)
  | 0, _ => none
  | fuel + 1, s =>
    match s with
    | .char '"' :: s₁ =>
      match content? s₁ with
      | none => none
      | some (name, s₂) =>
        match skipSpace s₂ with
        | .char ':' :: s₃ =>
          match value? limit fuel (skipSpace s₃) with
          | none => none
          | some (v, s₄) =>
            match skipSpace s₄ with
            | .char '\x7d' :: s₅ => some ([(name, v)], s₅)
            | .char ',' :: s₅ =>
              (members? limit fuel (skipSpace s₅)).map fun r => ((name, v) :: r.1, r.2)
            | _ => none
        | _ => none
    | _ => none

end

/-- The value that a whole text writes.  Space may surround it. -/
def readWithin? (limit : Option Nat) (s : Text) : Option Json :=
  match value? limit (s.length + 1) (skipSpace s) with
  | some (v, rest) => if (skipSpace rest).isEmpty then some v else none
  | none => none

/-- The value that a text writes which somebody else has sent. -/
def read? (s : Text) : Option Json := readWithin? (some maxDigits) s

end SqlFrontEnd.Json
