import SqlFrontEnd.Number.Decimal
import SqlFrontEnd.Text.CodePoint
import SqlFrontEnd.Text.Newline
import SqlFrontEnd.Text.Split
import SqlFrontEnd.Yaml.Timestamp

/-!
# What plain texts stand for

A plain text without a tag stands for nothing, a switch, a number, a date, a sign of the format
itself, or a text, according to its spelling.  A line feed may end each spelling but the empty one.

* `Kind`: the kinds of values that have a tag.
* `Kind.ofTag?`: the kind of a tag.
* `Kind.ofPlain`: the kind of a plain text.
-/

namespace SqlFrontEnd.Yaml

/-- The kinds of values that have a tag. -/
inductive Kind where
  | null | bool | int | float | binary | timestamp
  | text | sequence | mapping | set | orderedMapping | pairs
  /-- The sign that merges a mapping into another. -/
  | merge
  /-- The sign for the value of a mapping as a whole. -/
  | default
  /-- A sign with which no plain text starts. -/
  | indicator
deriving DecidableEq, Repr

namespace Kind

/-- The name of a kind within the tags of the format. -/
def names : List (String × Kind) :=
  [("null", null), ("bool", bool), ("int", int), ("float", float), ("binary", binary),
   ("timestamp", timestamp), ("str", text), ("seq", sequence), ("map", mapping), ("set", set),
   ("omap", orderedMapping), ("pairs", pairs), ("merge", merge), ("value", default),
   ("yaml", indicator)]

/-- The kind of a tag that is written out in full. -/
def ofTag? (tag : String) : Option Kind :=
  (names.find? fun n => "tag:yaml.org,2002:" ++ n.1 == tag).map (·.2)

end Kind

/-! ## Spellings -/

/-- The words for a switch, with what they say. -/
def switchWords : List (String × Bool) :=
  [("yes", true), ("no", false), ("true", true), ("false", false), ("on", true), ("off", false)]

/-- A word in lower case, with a capital, and in upper case. -/
def inThreeCases (word : String) : List (List Char) :=
  let w := word.toList
  [w, (w.take 1).map Char.toUpper ++ w.drop 1, w.map Char.toUpper]

/-- Tests for the spelling of a switch. -/
def spellsBool (text : List Char) : Bool :=
  switchWords.any fun w => (inThreeCases w.1).contains text

/-- Tests for the spelling of nothing. -/
def spellsNull (text : List Char) : Bool :=
  text.isEmpty || text == ['~'] || (inThreeCases "null").contains text

/-- The digits and underscores of a number. -/
def isGroupedDigit (c : Char) : Bool := Decimal.isDigit c || c == '_'

/-- A text without a sign. -/
def withoutSign : List Char → List Char
  | '-' :: s => s
  | '+' :: s => s
  | s => s

/-- Tests for a digit followed by digits and underscores. -/
def startsWithDigit : List Char → Bool
  | [] => false
  | c :: s => Decimal.isDigit c && s.all isGroupedDigit

/-- Tests for a place of a number to base sixty: at most two digits, below sixty. -/
def spellsSixtieth : List Char → Bool
  | [c] => Decimal.isDigit c
  | [c, d] => decide ('0' ≤ c ∧ c ≤ '5') && Decimal.isDigit d
  | _ => false

/-- Tests for an exponent, which must have a sign. -/
def spellsExponent : List Char → Bool
  | [] => true
  | e :: sign :: ds =>
    (e == 'e' || e == 'E') && (sign == '-' || sign == '+') && !ds.isEmpty &&
      ds.all Decimal.isDigit
  | _ => false

/-- Tests for the spelling of an integer. -/
def spellsInt (text : List Char) : Bool :=
  match withoutSign text with
  | [] => false
  | '0' :: s =>
    match s with
    | [] => true
    | 'b' :: ds => !ds.isEmpty && ds.all fun c => c == '0' || c == '1' || c == '_'
    | 'x' :: ds =>
      !ds.isEmpty && ds.all fun c =>
        isGroupedDigit c || decide ('a' ≤ c ∧ c ≤ 'f') || decide ('A' ≤ c ∧ c ≤ 'F')
    | ds => ds.all fun c => decide ('0' ≤ c ∧ c ≤ '7') || c == '_'
  | s =>
    match Text.splitAt ':' s with
    | whole :: places => startsWithDigit whole && places.all spellsSixtieth
    | [] => false

/-- Tests for the spelling of a floating-point number with its point where it belongs. -/
def spellsFraction (text : List Char) : Bool :=
  let s := withoutSign text
  let whole := s.takeWhile isGroupedDigit
  match s.dropWhile isGroupedDigit with
  | '.' :: s =>
    let exponent := spellsExponent (s.dropWhile isGroupedDigit)
    if whole.isEmpty then
      -- Without digits before the point there is no sign, and a digit must follow.
      s.length + 1 == text.length && (s.headD 'x' |> Decimal.isDigit) && exponent
    else startsWithDigit whole && exponent
  | _ => false

/-- Tests for the spelling of a floating-point number to base sixty. -/
def spellsSexagesimal (text : List Char) : Bool :=
  let s := withoutSign text
  match s.dropWhile (· != '.') with
  | '.' :: fraction =>
    match Text.splitAt ':' (s.takeWhile (· != '.')) with
    | whole :: place :: places =>
      startsWithDigit whole && (place :: places).all spellsSixtieth && fraction.all isGroupedDigit
    | _ => false
  | _ => false

/-- Tests for the spelling of a floating-point number. -/
def spellsFloat (text : List Char) : Bool :=
  spellsFraction text || spellsSexagesimal text ||
    ["inf", "Inf", "INF"].any (fun w => withoutSign text == '.' :: w.toList) ||
    ["nan", "NaN", "NAN"].any (fun w => text == '.' :: w.toList)

/-- The kind of a spelling. -/
def Kind.ofSpelling (text : List Char) : Kind :=
  if spellsBool text then .bool
  else if spellsFloat text then .float
  else if spellsInt text then .int
  else if text == ['<', '<'] then .merge
  else if spellsNull text then .null
  else if Timestamp.isSpelling text then .timestamp
  else if text == ['='] then .default
  else if text == ['!'] || text == ['&'] || text == ['*'] then .indicator
  else .text

/-- The kind of a plain text.  One with half a surrogate pair has no spelling of another kind. -/
def Kind.ofPlain (text : Text) : Kind :=
  match text.chars? with
  | none => .text
  | some ['\n'] => .text
  | some cs => .ofSpelling (Text.withoutFinalNewline cs)

end SqlFrontEnd.Yaml
