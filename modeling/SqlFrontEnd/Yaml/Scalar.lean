import SqlFrontEnd.Number.Decimal
import SqlFrontEnd.Number.Hexadecimal
import SqlFrontEnd.Yaml.Fault
import SqlFrontEnd.Yaml.Spot

/-!
# Texts in YAML

A text is written in one of five styles: plain, in single or double quotes, or as a block that keeps
or folds its lines.  Except in a block that keeps its lines, the end of a line counts as a space,
and an empty line as a line feed.

* `quoted`: a text in quotes, from its quote on.  An escape may give half a surrogate pair.
* `plain`: a plain text, and whether it ended after the end of a line.
* `block?`: a block, from its indicator on.

Loops over a text take its length as a bound.
-/

namespace SqlFrontEnd.Yaml

/-- Joins the end of a line with the empty lines after it: a line feed by itself is a space, and
before empty lines it is nothing. -/
def foldedBreak (lineBreak breaks : List Char) : List Char :=
  if lineBreak != ['\n'] then lineBreak ++ breaks
  else if breaks.isEmpty then [' ']
  else breaks

/-! ## Texts in quotes -/

/-- The characters that have a letter of their own after a backslash. -/
def letterEscapes : List (Char × Char) :=
  [('0', '\x00'), ('a', '\x07'), ('b', '\x08'), ('t', '\t'), ('\t', '\t'), ('n', '\n'),
   ('v', '\x0B'), ('f', '\x0C'), ('r', '\r'), ('e', '\x1B'), (' ', ' '), ('"', '"'),
   ('\\', '\\'), ('/', '/'), ('N', '\x85'), ('_', '\xA0'), ('L', '\u2028'), ('P', '\u2029')]

/-- How many hexadecimal digits an escape by number has. -/
def numberEscapes : List (Char × Nat) := [('x', 2), ('u', 4), ('U', 8)]

/-- Reads the empty lines after the end of a line within quotes.  A document marker there is
refused. -/
def quotedBreaks? : Nat → Spot → Option (List Char × Spot)
  | 0, _ => none
  | fuel + 1, s =>
    if s.atDocumentMarker then none
    else
      let s := s.skip isSpaceOrTab
      if isBreak s.here then do
        let (lineBreak, s) := s.lineBreak
        let (breaks, s) ← quotedBreaks? fuel s
        return (lineBreak ++ breaks, s)
      else some ([], s)

/-- The code point of a number that an escape gives. -/
def numberedCodePoint (n : Nat) : Except Fault CodePoint :=
  match CodePoint.ofNumber? n with
  | some c => .ok c
  | none => .error (.scalar (if n < 0x80000000 then .noCodePoint else .escapeTooLarge))

/-- Reads the escape after a backslash. -/
def escape (s : Spot) : Except Fault (Text × Spot) :=
  match letterEscapes.lookup s.here with
  | some c => .ok ([.char c], s.next)
  | none =>
    match numberEscapes.lookup s.here with
    | some count => do
      let s := s.next
      let n ← orMalformed
        (if s.rest.length < count then none else Hexadecimal.value? (s.rest.take count))
      let c ← numberedCodePoint n
      return ([c], s.forward count)
    | none =>
      if isBreak s.here then do
        let s := s.lineBreak.2
        let (breaks, s) ← orMalformed (quotedBreaks? (s.rest.length + 1) s)
        return (Text.ofChars breaks, s)
      else .error .malformed

/-- Tests for a character that has no meaning of its own within quotes. -/
def isQuotedPart (c : Char) : Bool :=
  !(c == '\'' || c == '"' || c == '\\' || c == endMark || isSpaceOrTab c || isBreak c)

/-- Reads what stands within quotes up to a space, the end of a line, or the closing quote. -/
def quotedWord (double : Bool) : Nat → Spot → Except Fault (Text × Spot)
  | 0, _ => .error .malformed
  | fuel + 1, s =>
    let part := s.run isQuotedPart
    let s := s.forward part.length
    let continueWith (text : Text) (s : Spot) : Except Fault (Text × Spot) :=
      (quotedWord double fuel s).map fun r => (Text.ofChars part ++ text ++ r.1, r.2)
    if !double && s.here == '\'' && s.peek 1 == '\'' then
      continueWith [.char '\''] (s.forward 2)
    else if (double && s.here == '\'') || (!double && (s.here == '"' || s.here == '\\')) then
      continueWith [.char s.here] s.next
    else if double && s.here == '\\' then
      match escape s.next with
      | .ok (text, s) => continueWith text s
      | .error fault => .error fault
    else .ok (Text.ofChars part, s)

/-- Reads the spaces and the ends of lines between two words within quotes. -/
def quotedGap? (s : Spot) : Option (List Char × Spot) :=
  let spaces := s.run isSpaceOrTab
  let s := s.forward spaces.length
  if s.here == endMark then none
  else if isBreak s.here then do
    let (lineBreak, s) := s.lineBreak
    let (breaks, s) ← quotedBreaks? (s.rest.length + 1) s
    return (foldedBreak lineBreak breaks, s)
  else some (spaces, s)

/-- Reads a text within quotes through its closing quote. -/
def quotedRest (double : Bool) : Nat → Spot → Except Fault (Text × Spot)
  | 0, _ => .error .malformed
  | fuel + 1, s => do
    let (word, s) ← quotedWord double (s.rest.length + 1) s
    if s.here == (if double then '"' else '\'') then return (word, s.next)
    else do
      let (gap, s) ← orMalformed (quotedGap? s)
      let (text, s) ← quotedRest double fuel s
      return (word ++ Text.ofChars gap ++ text, s)

/-- Reads a text in quotes. -/
def quoted (s : Spot) : Except Fault (Text × Spot) :=
  quotedRest (s.here == '"') (s.rest.length + 1) s.next

/-! ## Plain texts -/

/-- How a plain text was ended or continued by what follows a word of it. -/
structure PlainGap where
  /-- What stands for the gap in the text, if the text may continue. -/
  text : Option (List Char)
  /-- Whether the end of a line has been read. -/
  crossed : Bool
  spot : Spot

/-- Reads the empty lines and the indentation after the end of a line of a plain text.  A document
marker ends the text. -/
def plainBreaks : Nat → Spot → Option (List Char) × Spot
  | 0, s => (none, s)
  | fuel + 1, s =>
    if s.here == ' ' then plainBreaks fuel s.next
    else if isBreak s.here then
      let (lineBreak, s) := s.lineBreak
      if s.atDocumentMarker then (none, s)
      else
        let (breaks, s) := plainBreaks fuel s
        (breaks.map (lineBreak ++ ·), s)
    else (some [], s)

/-- Reads the gap after a word of a plain text. -/
def plainGap (s : Spot) : PlainGap :=
  let spaces := s.run (· == ' ')
  let s := s.forward spaces.length
  if isBreak s.here then
    let (lineBreak, s) := s.lineBreak
    if s.atDocumentMarker then ⟨none, true, s⟩
    else
      let (breaks, s) := plainBreaks (s.rest.length + 1) s
      ⟨breaks.map (foldedBreak lineBreak), true, s⟩
  else ⟨if spaces.isEmpty then none else some spaces, false, s⟩

/-- Tests whether a character ends a word of a plain text, given the character after it. -/
def endsPlainWord (inFlow : Bool) (c after : Char) : Bool :=
  isGapOrTab c ||
    (c == ':' && (isGapOrTab after ||
      (inFlow && [',', '[', ']', '\x7b', '\x7d'].contains after))) ||
    (inFlow && [',', '?', '[', ']', '\x7b', '\x7d'].contains c)

/-- The word of a plain text at the start of a text. -/
def plainWord (inFlow : Bool) : List Char → List Char
  | [] => []
  | c :: rest =>
    if endsPlainWord inFlow c (rest.headD endMark) then [] else c :: plainWord inFlow rest

/-- What has been read of a plain text. -/
structure PlainText where
  text : List Char
  /-- Whether the last thing read was the end of a line, so that a key may follow. -/
  crossed : Bool
  spot : Spot

/-- Reads a plain text.  Its further lines must be indented by `indent` columns at least, unless it
stands in brackets. -/
def plainRest (inFlow : Bool) (indent : Int) : Nat → (gap : List Char) → (crossed : Bool) →
    Spot → PlainText
  | 0, _, crossed, s => ⟨[], crossed, s⟩
  | fuel + 1, gap, crossed, s =>
    let word := if s.here == '#' then [] else plainWord inFlow s.rest
    if word.isEmpty then ⟨[], crossed, s⟩
    else
      let after := plainGap (s.forward word.length)
      match after.text with
      | none => ⟨gap ++ word, after.crossed, after.spot⟩
      | some gap' =>
        if gap'.isEmpty || after.spot.here == '#' ||
            (!inFlow && decide ((after.spot.column : Int) < indent)) then
          ⟨gap ++ word, after.crossed, after.spot⟩
        else
          let more := plainRest inFlow indent fuel gap' after.crossed after.spot
          ⟨gap ++ word ++ more.text, more.crossed, more.spot⟩

/-- Reads a plain text. -/
def plain (inFlow : Bool) (indent : Int) (s : Spot) : PlainText :=
  plainRest inFlow indent (s.rest.length + 1) [] false s

/-! ## Blocks -/

/-- What becomes of the line ends at the end of a block. -/
inductive Chomping where
  /-- One is kept. -/
  | clip
  /-- None is kept. -/
  | strip
  /-- All are kept. -/
  | keep
deriving DecidableEq, Repr

/-- The indicator of what becomes of the line ends. -/
def chomping? (c : Char) : Option Chomping :=
  if c == '+' then some .keep else if c == '-' then some .strip else none

/-- The indentation that a digit asks for; zero is refused. -/
def increment? (s : Spot) : Option (Option Nat × Spot) :=
  if Decimal.isDigit s.here then
    if s.here == '0' then none else some (some (Decimal.digitValue s.here), s.next)
  else some (none, s)

/-- Reads the indicators of a block, in either order. -/
def blockHeader? (s : Spot) : Option (Chomping × Option Nat × Spot) := do
  let (chomping, increment, s) ←
    match chomping? s.here with
    | some chomping => do
      let (increment, s) ← increment? s.next
      some (chomping, increment, s)
    | none => do
      let (increment, s) ← increment? s
      match increment, chomping? s.here with
      | some _, some chomping => some (chomping, increment, s.next)
      | _, _ => some (.clip, increment, s)
  if isGap s.here then return (chomping, increment, s) else none

/-- Moves over spaces up to a column. -/
def toColumn (column : Nat) : Nat → Spot → Spot
  | 0, s => s
  | fuel + 1, s => if s.column < column ∧ s.here == ' ' then toColumn column fuel s.next else s

/-- Reads the empty lines before a line of a block that is indented by `indent`. -/
def blockBreaks (indent : Nat) : Nat → Spot → List Char × Spot
  | 0, s => ([], s)
  | fuel + 1, s =>
    let s := toColumn indent s.rest.length s
    if isBreak s.here then
      let (lineBreak, s) := s.lineBreak
      let (breaks, s) := blockBreaks indent fuel s
      (lineBreak ++ breaks, s)
    else ([], s)

/-- Reads the empty lines before the first line of a block, and finds the largest indentation among
them and that line. -/
def blockIndentation : Nat → (deepest : Nat) → Spot → List Char × Nat × Spot
  | 0, deepest, s => ([], deepest, s)
  | fuel + 1, deepest, s =>
    if s.here == ' ' then blockIndentation fuel (max deepest s.next.column) s.next
    else if isBreak s.here then
      let (lineBreak, s) := s.lineBreak
      let (breaks, deepest, s) := blockIndentation fuel deepest s
      (lineBreak ++ breaks, deepest, s)
    else ([], deepest, s)

/-- The text of the lines of a block, the end of its last line, and the empty lines after it. -/
structure BlockLines where
  text : List Char
  lastBreak : List Char
  breaks : List Char
  spot : Spot

/-- Tests for the start of a line of a block that is indented by `indent`. -/
def atBlockLine (indent : Nat) (s : Spot) : Bool := s.column == indent && s.here != endMark

/-- Reads the lines of a block from the start of one of them on. -/
def blockLines (folded : Bool) (indent : Nat) : Nat → Spot → BlockLines
  | 0, s => ⟨[], [], [], s⟩
  | fuel + 1, s =>
    let startsPlainly := !isSpaceOrTab s.here
    let line := s.run (!isBreakOrEnd ·)
    let (lineBreak, s) := (s.forward line.length).lineBreak
    let (breaks, s) := blockBreaks indent (s.rest.length + 1) s
    if atBlockLine indent s then
      let joint :=
        if folded && lineBreak == ['\n'] && startsPlainly && !isSpaceOrTab s.here then
          if breaks.isEmpty then [' '] else []
        else lineBreak
      let more := blockLines folded indent fuel s
      { more with text := line ++ joint ++ breaks ++ more.text }
    else ⟨line, lineBreak, breaks, s⟩

/-- Reads a block.  `parent` is the indentation of the collection that it stands in. -/
def block? (parent : Int) (s : Spot) : Option (List Char × Spot) := do
  let folded := s.here == '>'
  let (chomping, increment, s) ← blockHeader? s.next
  let s ← s.restOfLine?
  let least := (max 1 (parent + 1)).toNat
  let (breaks, indent, s) :=
    match increment with
    | none =>
      let (breaks, deepest, s) := blockIndentation (s.rest.length + 1) 0 s
      (breaks, max least deepest, s)
    | some increment =>
      let indent := least + increment - 1
      let (breaks, s) := blockBreaks indent (s.rest.length + 1) s
      (breaks, indent, s)
  let lines : BlockLines :=
    if atBlockLine indent s then
      let lines := blockLines folded indent (s.rest.length + 1) s
      { lines with text := breaks ++ lines.text }
    else ⟨[], [], breaks, s⟩
  let ending := match chomping with
    | .clip => lines.lastBreak
    | .strip => []
    | .keep => lines.lastBreak ++ lines.breaks
  return (lines.text ++ ending, lines.spot)

end SqlFrontEnd.Yaml
