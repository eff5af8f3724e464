import SqlFrontEnd.Settings.Basic
import SqlFrontEnd.Settings.Fault
import SqlFrontEnd.Text.Blank
import SqlFrontEnd.Text.Utf8

/-!
# Reading single settings

A setting may be written in more than one way: a port as an integer, as a floating-point number
without a fraction, or as a text; a switch as a boolean, as zero or one, or as one of twelve words.
Each reader gives the value or the fault.

* `readIntegerText`, `readInteger`, `readPort`: integers and ports.
* `booleanOfText?`, `readBoolean`: switches.
* `readText`, `readLogLevel`, `readKeywordCase`: texts and choices.
-/

namespace SqlFrontEnd.Settings

/-- The characters of a text that is to be taken for something else.  One with half a surrogate pair
is refused. -/
def charsOf (s : Text) : Except Fault (List Char) := s.chars?.elim (.error .textUndecodable) .ok

/-! ## Integers -/

/-- A number without the zeros before it, of which the last is kept if no other digit follows before
the point.  Underscores count as zeros behind the first of them, and behind them all the number may
begin with a minus sign. -/
def withoutZeros : List Char → Option (List Char)
  | '0' :: s =>
    let isZero (c : Char) : Bool := c == '0' || c == '_'
    let last := (s.takeWhile isZero).getLast?.getD '0'
    match s.dropWhile isZero with
    | [] => some [last]
    | '.' :: rest => some (last :: '.' :: rest)
    | c :: rest => if Decimal.isDigit c || c == '-' then some (c :: rest) else none
  | c :: s => if Decimal.isDigit c || c == '-' then some (c :: s) else none
  | [] => none

/-- A text without the point and the zeros that may end an integer. -/
def withoutZeroFraction (s : List Char) : List Char :=
  let whole := s.takeWhile (· != '.')
  let zeros := (s.dropWhile (· != '.')).drop 1
  if !zeros.isEmpty && zeros.all (· == '0') then whole else s

/-- Tests for two underscores in a row. -/
def hasDoubleUnderscore : List Char → Bool
  | '_' :: '_' :: _ => true
  | _ :: s => hasDoubleUnderscore s
  | [] => false

/-- A text without underscores, if all of them are single and within it. -/
def withoutUnderscores (s : List Char) : List Char :=
  if s.head? == some '_' || s.getLast? == some '_' || hasDoubleUnderscore s then s
  else s.filter (· != '_')

/-- The plain spelling of an integer that may be written with a plus sign, with zeros before it,
with a fraction of zeros, or with underscores. -/
def plainSpelling? : List Char → Option (List Char)
  | '+' :: '-' :: _ => none
  | '+' :: s => (withoutZeros s).map cleaned
  | '-' :: s => (withoutZeros s).map fun s => cleaned ('-' :: s)
  | s => (withoutZeros s).map cleaned
where
  cleaned (s : List Char) : List Char := withoutUnderscores (withoutZeroFraction s)

/-- The longest text that is read as an integer, its sign included. -/
def maxIntegerText : Nat := 4300

/-- The integer that a plain spelling writes: a minus sign at most, and digits, the first of which
is no zero unless it is the only one. -/
def plainInteger (s : List Char) : Except Fault Int :=
  let (negative, body) := match s with
    | '-' :: body => (true, body)
    | _ => (false, s)
  let ds := body.takeWhile Decimal.isDigit
  if ds.isEmpty || (ds.head? == some '0' && body.length != 1) then .error .integerUnreadable
  else if maxIntegerText < s.length - body.length + ds.length then .error .integerTooLarge
  else if ds.length != body.length then .error .integerUnreadable
  else
    let n : Int := Decimal.value ds
    .ok (if negative then -n else n)

/-- Reads a text as an integer.  White space around it does not matter.  Its length is judged as it
stands; a text that is no plain spelling is unreadable if it makes none. -/
def readIntegerText (s : List Char) : Except Fault Int :=
  let trimmed := Text.trimBy Text.isWhiteSpace s
  match plainInteger trimmed with
  | .error .integerUnreadable =>
    match (plainSpelling? trimmed).map plainInteger with
    | some (.ok i) => .ok i
    | _ => .error .integerUnreadable
  | result => result

/-- Tests for an integer of 64 bits with sign. -/
def isInt64 (i : Int) : Bool := decide (-0x8000000000000000 ≤ i) && decide (i ≤ 0x7FFFFFFFFFFFFFFF)

/-- Reads a floating-point number as an integer.  The least integer of 64 bits counts as too
large. -/
def readIntegerReal (x : Binary64) : Except Fault Int :=
  if !x.isFinite then .error .notFinite
  else
    match x.integer? with
    | none => .error .fractionalPart
    | some i => if i.natAbs < 0x8000000000000000 then .ok i else .error .integerTooLarge

/-- Reads an integer. -/
def readInteger : Datum → Except Fault Int
  | .int i => .ok i
  | .bool b => .ok (if b then 1 else 0)
  | .real x => readIntegerReal x
  | .text s => charsOf s >>= readIntegerText
  | .octets bs =>
    match Text.Utf8.decode bs with
    | .ok s => readIntegerText s
    | .error _ => .error .integerUnreadable
  | .other => .error .notAnInteger

/-- Reads the number of a port. -/
def readPort (d : Datum) : Except Fault Int :=
  match readInteger d with
  | .error fault => .error fault
  | .ok i =>
    if i < 1 then .error .portTooSmall
    else if 65535 < i then .error .portTooLarge
    else .ok i

/-! ## Switches -/

/-- The words for a switch that is off. -/
def offWords : List String := ["0", "off", "f", "false", "n", "no"]

/-- The words for a switch that is on. -/
def onWords : List String := ["1", "on", "t", "true", "y", "yes"]

/-- The state of a switch that a word names, in upper or lower case. -/
def booleanOfText? (s : List Char) : Option Bool :=
  let word := s.map Char.toLower
  if offWords.any (·.toList == word) then some false
  else if onWords.any (·.toList == word) then some true
  else none

/-- Reads a word as the state of a switch. -/
def readBooleanText (s : List Char) : Except Fault Bool :=
  match booleanOfText? s with
  | some b => .ok b
  | none => .error .booleanUnreadable

/-- Reads an integer as the state of a switch. -/
def readBooleanInteger (i : Int) : Except Fault Bool :=
  if i = 0 then .ok false
  else if i = 1 then .ok true
  else if isInt64 i then .error .booleanUnreadable
  else .error .notABoolean

/-- Reads the state of a switch. -/
def readBoolean : Datum → Except Fault Bool
  | .bool b => .ok b
  | .int i => readBooleanInteger i
  | .real x =>
    match readIntegerReal x with
    | .ok i => readBooleanInteger i
    | .error _ => .error .notABoolean
  | .text s => charsOf s >>= readBooleanText
  | .octets bs =>
    match Text.Utf8.decode bs with
    | .ok s => readBooleanText s
    | .error _ => .error .booleanUnreadable
  | .other => .error .notABoolean

/-! ## Texts and choices -/

/-- Reads a text.  Nothing is asked of one, so that it may hold half a surrogate pair. -/
def readText : Datum → Except Fault Text
  | .text s => .ok s
  | .octets bs =>
    match Text.Utf8.decode bs with
    | .ok s => .ok (Text.ofChars s)
    | .error _ => .error .textUndecodable
  | _ => .error .notText

/-- Reads a log level, which must be spelled as it is named. -/
def readLogLevel (d : Datum) : Except Fault LogLevel :=
  match d with
  | .text s => do
    let name ← charsOf s
    (LogLevel.ofName? (String.ofList name)).elim (.error .notALogLevel) .ok
  | _ => .error .notALogLevel

/-- Reads a keyword policy, which must be spelled as it is named. -/
def readKeywordCase (d : Datum) : Except Fault KeywordCase :=
  match d with
  | .text s => do
    let name ← charsOf s
    (KeywordCase.ofName? (String.ofList name)).elim (.error .notAKeywordCase) .ok
  | _ => .error .notAKeywordCase

end SqlFrontEnd.Settings
