/-!
# Reading YAML text

YAML depends on the column in which things stand, so its text is read from a spot that knows its
line and column, counted from zero.  Beyond the end of the text every character looks like the null
character, which no YAML text can hold.

* `Spot`: where reading stands.
* `Spot.peek`, `Spot.forward`, `Spot.run`: looking and moving.
* `Spot.lineBreak`: reading the end of a line.
* `isPrintable`: the characters that a YAML text may hold.
* `isBreak`, `isBreakOrEnd`, `isGap`, `isGapOrTab`: the characters that end things.
-/

namespace SqlFrontEnd.Yaml

/-- The character that stands for the end of a text. -/
def endMark : Char := '\x00'

/-- The characters that end a line. -/
def isBreak (c : Char) : Bool :=
  c == '\n' || c == '\r' || c == '\x85' || c == '\u2028' || c == '\u2029'

/-- The end of a line or of the text. -/
def isBreakOrEnd (c : Char) : Bool := c == endMark || isBreak c

/-- A space, or the end of a line or of the text. -/
def isGap (c : Char) : Bool := c == ' ' || isBreakOrEnd c

/-- A space, a tab, or the end of a line or of the text. -/
def isGapOrTab (c : Char) : Bool := c == '\t' || isGap c

/-- A space or a tab. -/
def isSpaceOrTab (c : Char) : Bool := c == ' ' || c == '\t'

/-- The characters that a YAML text may hold. -/
def isPrintable (c : Char) : Bool :=
  let n := c.toNat
  n == 0x9 || n == 0xA || n == 0xD || n == 0x85 ||
    decide (0x20 ≤ n ∧ n ≤ 0x7E) || decide (0xA0 ≤ n ∧ n ≤ 0xD7FF) ||
    decide (0xE000 ≤ n ∧ n ≤ 0xFFFD) || decide (0x10000 ≤ n)

/-- A letter or digit of ASCII, a dash, or an underscore: what names are made of. -/
def isNameChar (c : Char) : Bool := c.isAlphanum || c == '-' || c == '_'

/-- Where reading stands: the text that remains, and how far it is from the start. -/
structure Spot where
  rest : List Char
  index : Nat
  line : Nat
  column : Nat
deriving Repr

namespace Spot

/-- The start of a text. -/
def start (text : List Char) : Spot := ⟨text, 0, 0, 0⟩

/-- The character some way ahead. -/
def peek (s : Spot) (ahead : Nat) : Char := s.rest.getD ahead endMark

/-- The character at the spot. -/
def here (s : Spot) : Char := s.peek 0

/-- Tests whether the text continues with three given characters followed by a gap or a tab. -/
def atMarker (s : Spot) (c : Char) : Bool :=
  s.peek 0 == c && s.peek 1 == c && s.peek 2 == c && isGapOrTab (s.peek 3)

/-- Tests for a line that begins or ends a document. -/
def atDocumentMarker (s : Spot) : Bool := s.atMarker '-' || s.atMarker '.'

/-- Moves over one character.  A byte order mark has no width. -/
def next (s : Spot) : Spot :=
  match s.rest with
  | [] => s
  | c :: rest =>
    if c == '\n' || c == '\x85' || c == '\u2028' || c == '\u2029' ||
        (c == '\r' && rest.head? != some '\n') then
      ⟨rest, s.index + 1, s.line + 1, 0⟩
    else ⟨rest, s.index + 1, s.line, if c == '\uFEFF' then s.column else s.column + 1⟩

/-- Moves over a number of characters. -/
def forward (s : Spot) : Nat → Spot
  | 0 => s
  | n + 1 => s.next.forward n

/-- The longest run of a class from the spot on. -/
def run (s : Spot) (p : Char → Bool) : List Char := s.rest.takeWhile p

/-- Moves over the longest run of a class. -/
def skip (s : Spot) (p : Char → Bool) : Spot := s.forward (s.run p).length

/-- Moves over spaces. -/
def skipSpaces (s : Spot) : Spot := s.skip (· == ' ')

/-- Moves over a comment, if one starts at the spot. -/
def skipComment (s : Spot) : Spot := if s.here == '#' then s.skip (!isBreakOrEnd ·) else s

/-- Reads the end of a line, if the spot is at one.  All but two of the characters that end a line
count as a line feed. -/
def lineBreak (s : Spot) : List Char × Spot :=
  if s.peek 0 == '\r' && s.peek 1 == '\n' then (['\n'], s.forward 2)
  else if s.here == '\n' || s.here == '\r' || s.here == '\x85' then (['\n'], s.next)
  else if s.here == '\u2028' || s.here == '\u2029' then ([s.here], s.next)
  else ([], s)

/-- Reads the rest of a line that may hold nothing more than a comment. -/
def restOfLine? (s : Spot) : Option Spot :=
  let s := s.skipSpaces.skipComment
  if isBreakOrEnd s.here then some s.lineBreak.2 else none

end Spot

end SqlFrontEnd.Yaml
