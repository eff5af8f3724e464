import SqlFrontEnd.Yaml.Name
import SqlFrontEnd.Yaml.Scalar

/-!
# The tokens of a YAML text

Block collections begin and end with the indentation of the text, and the key of a mapping is known
to be one only when the colon after it is reached.  So while tokens are collected, the columns of
the open block collections are kept, and for each level of brackets the place of the last thing that
may turn out to be a key.  Such a thing must lie within one line and within 1024 characters of its
colon; one that stands where only a key can stand must turn out to be one.

* `Scan`: the tokens so far, and what is pending.
* `Scan.step`: the next token, or tokens.
* `tokens`: all tokens of a text that is well-formed.  A part that denotes nothing ends them.
-/

namespace SqlFrontEnd.Yaml

/-- A thing that may turn out to be a key. -/
structure PossibleKey where
  /-- How many tokens stand before it. -/
  position : Nat
  required : Bool
  index : Nat
  line : Nat
  column : Nat
deriving Repr

/-- The state of collecting tokens. -/
structure Scan where
  spot : Spot
  /-- The tokens so far, the last one first. -/
  tokens : List Token
  /-- How many tokens there are so far. -/
  count : Nat
  /-- The column of the innermost open block collection; `-1` if there is none. -/
  indent : Int
  /-- The columns of the collections around it. -/
  outerIndents : List Int
  /-- The number of open brackets. -/
  depth : Nat
  /-- Whether a key may start here. -/
  mayStartKey : Bool
  /-- For each number of open brackets, what may turn out to be a key there. -/
  possibleKeys : List (Nat × PossibleKey)
deriving Repr

namespace Scan

/-- The state at the start of a text. -/
def start (text : List Char) : Scan := ⟨.start text, [], 0, -1, [], 0, true, []⟩

/-- Tests whether the spot is within brackets. -/
def inFlow (s : Scan) : Bool := s.depth != 0

/-- Adds a token. -/
def push (s : Scan) (t : Token) : Scan :=
  { s with tokens := t :: s.tokens, count := s.count + 1 }

/-- Moves on. -/
def forward (s : Scan) (n : Nat) : Scan := { s with spot := s.spot.forward n }

/-- Moves over spaces, comments and ends of lines.  Outside brackets a key may start on a new
line. -/
def toNextToken : Nat → Scan → Scan
  | 0, s => s
  | fuel + 1, s =>
    let spot := s.spot.skipSpaces.skipComment
    if isBreak spot.here then
      toNextToken fuel
        { s with spot := spot.lineBreak.2, mayStartKey := s.mayStartKey || !s.inFlow }
    else { s with spot }

/-- Tests whether a possible key is too far away to become one. -/
def isStale (s : Scan) (k : PossibleKey) : Bool :=
  k.line != s.spot.line || decide (1024 < s.spot.index - k.index)

/-- Drops the possible keys that are too far away; a required one among them is an error. -/
def dropStale? (s : Scan) : Option Scan :=
  if s.possibleKeys.any fun k => s.isStale k.2 && k.2.required then none
  else some { s with possibleKeys := s.possibleKeys.filter fun k => !s.isStale k.2 }

/-- Drops the possible key of the present brackets; a required one is an error. -/
def dropKey? (s : Scan) : Option Scan :=
  match s.possibleKeys.lookup s.depth with
  | none => some s
  | some k =>
    if k.required then none
    else some { s with possibleKeys := s.possibleKeys.filter (·.1 != s.depth) }

/-- Notes that what starts here may turn out to be a key. -/
def noteKey? (s : Scan) : Option Scan :=
  if s.mayStartKey then do
    let s ← s.dropKey?
    let required := !s.inFlow && decide (s.indent = s.spot.column)
    let key : PossibleKey :=
      ⟨s.count, required, s.spot.index, s.spot.line, s.spot.column⟩
    return { s with possibleKeys := (s.depth, key) :: s.possibleKeys }
  else some s

/-- Closes the block collections that are indented more than a column. -/
def unwindTo (column : Int) : List Int → Scan → Scan
  | [], s => s
  | outer :: rest, s =>
    if column < s.indent then
      unwindTo column rest { s.push .blockEnd with indent := outer, outerIndents := rest }
    else s

/-- Closes the block collections that are indented more than a column.  Within brackets indentation
has no meaning. -/
def unwind (s : Scan) (column : Int) : Scan :=
  if s.inFlow then s else unwindTo column s.outerIndents s

/-- Opens a block collection at a column, unless one is open there. -/
def indentTo? (s : Scan) (column : Nat) : Option Scan :=
  if s.indent < column then
    some { s with indent := column, outerIndents := s.indent :: s.outerIndents }
  else none

/-- Opens a block collection at the present column, unless one is open there. -/
def openBlock (s : Scan) (t : Token) : Scan :=
  match s.indentTo? s.spot.column with
  | some s => s.push t
  | none => s

/-! ## The tokens, one by one -/

/-- Closes all block collections, before something that stands outside documents. -/
def leaveDocument? (s : Scan) : Option Scan := do
  let s ← (s.unwind (-1)).dropKey?
  return { s with mayStartKey := false }

def streamEnd? (s : Scan) : Option Scan := do
  let s ← s.leaveDocument?
  return { s.push .streamEnd with possibleKeys := [] }

def takeDirective (s : Scan) : Except Fault Scan := do
  let s ← orMalformed s.leaveDocument?
  let (d, spot) ← directive s.spot
  return { s.push (.directive d) with spot }

def documentMarker? (t : Token) (s : Scan) : Option Scan := do
  let s ← s.leaveDocument?
  return (s.push t).forward 3

def openBracket? (t : Token) (s : Scan) : Option Scan := do
  let s ← s.noteKey?
  return ({ s with depth := s.depth + 1, mayStartKey := true }.push t).forward 1

def closeBracket? (t : Token) (s : Scan) : Option Scan :=
  if s.inFlow then do
    let s ← s.dropKey?
    return ({ s with depth := s.depth - 1, mayStartKey := false }.push t).forward 1
  else none

def flowEntry? (s : Scan) : Option Scan := do
  let s ← { s with mayStartKey := true }.dropKey?
  return (s.push .flowEntry).forward 1

def blockEntry? (s : Scan) : Option Scan :=
  if !s.inFlow && !s.mayStartKey then none
  else do
    let s := if s.inFlow then s else s.openBlock .blockSequenceStart
    let s ← { s with mayStartKey := true }.dropKey?
    return (s.push .blockEntry).forward 1

def key? (s : Scan) : Option Scan :=
  if !s.inFlow && !s.mayStartKey then none
  else do
    let s := if s.inFlow then s else s.openBlock .blockMappingStart
    let s ← { s with mayStartKey := !s.inFlow }.dropKey?
    return (s.push .key).forward 1

/-- Inserts a token before those that follow a position. -/
def insert (s : Scan) (position : Nat) (t : Token) : Scan :=
  { s with tokens := s.tokens.insertIdx (s.count - position) t, count := s.count + 1 }

/-- The token before a value.  If a possible key is pending, it is one, and the indicator of the
key, and of the mapping if it is the first key, are inserted before it. -/
def value? (s : Scan) : Option Scan :=
  match s.possibleKeys.lookup s.depth with
  | some k =>
    let s := { s with
      possibleKeys := s.possibleKeys.filter (·.1 != s.depth), mayStartKey := false }
    let s := s.insert k.position .key
    let s :=
      if s.inFlow then s
      else
        match s.indentTo? k.column with
        | some s => s.insert k.position .blockMappingStart
        | none => s
    some ((s.push .value).forward 1)
  | none =>
    if !s.inFlow && !s.mayStartKey then none
    else
      let s := if s.inFlow then s else s.openBlock .blockMappingStart
      some (({ s with mayStartKey := !s.inFlow }.push .value).forward 1)

def anchor? (make : String → Token) (s : Scan) : Option Scan := do
  let s ← s.noteKey?
  let (name, spot) ← anchorName? s.spot
  return { s.push (make name) with spot, mayStartKey := false }

def takeTag? (s : Scan) : Option Scan := do
  let s ← s.noteKey?
  let (t, spot) ← tag? s.spot
  return { s.push (.tag t) with spot, mayStartKey := false }

def takeBlock? (s : Scan) : Option Scan := do
  let s ← { s with mayStartKey := true }.dropKey?
  let (text, spot) ← block? s.indent s.spot
  return { s.push (.scalar (Text.ofChars text) false) with spot }

def takeQuoted (s : Scan) : Except Fault Scan := do
  let s ← orMalformed s.noteKey?
  let (text, spot) ← quoted s.spot
  return { s.push (.scalar text false) with spot, mayStartKey := false }

def takePlain? (s : Scan) : Option Scan := do
  let s ← s.noteKey?
  let p := plain s.inFlow (s.indent + 1) s.spot
  let token := .scalar (Text.ofChars p.text) true
  return { s.push token with spot := p.spot, mayStartKey := p.crossed }

/-- The characters that are indicators, so that no plain text starts with them. -/
def indicators : List Char :=
  ['-', '?', ':', ',', '[', ']', '\x7b', '\x7d', '#', '&', '*', '!', '|', '>', '\'', '"', '%',
   '@', '\x60']

/-- Tests for the start of a plain text.  Three of the indicators may start one if no gap follows
them. -/
def startsPlain (s : Scan) : Bool :=
  let c := s.spot.here
  (!isGapOrTab c && !indicators.contains c) ||
    (!isGapOrTab (s.spot.peek 1) && (c == '-' || (!s.inFlow && (c == '?' || c == ':'))))

/-- Tests for the start of a line. -/
def atLineStart (s : Scan) : Bool := s.spot.column == 0

/-- Takes what starts at the spot, if it is neither a directive nor a text in quotes. -/
def takeOther? (s : Scan) : Option Scan :=
  let c := s.spot.here
  let beforeGap := isGapOrTab (s.spot.peek 1)
  if c == endMark then s.streamEnd?
  else if s.atLineStart && s.spot.atMarker '-' then s.documentMarker? .documentStart
  else if s.atLineStart && s.spot.atMarker '.' then s.documentMarker? .documentEnd
  else if c == '[' then s.openBracket? .flowSequenceStart
  else if c == '\x7b' then s.openBracket? .flowMappingStart
  else if c == ']' then s.closeBracket? .flowSequenceEnd
  else if c == '\x7d' then s.closeBracket? .flowMappingEnd
  else if c == ',' then s.flowEntry?
  else if c == '-' && beforeGap then s.blockEntry?
  else if c == '?' && (s.inFlow || beforeGap) then s.key?
  else if c == ':' && (s.inFlow || beforeGap) then s.value?
  else if c == '*' then s.anchor? .alias
  else if c == '&' then s.anchor? .anchor
  else if c == '!' then s.takeTag?
  else if (c == '|' || c == '>') && !s.inFlow then s.takeBlock?
  else if s.startsPlain then s.takePlain?
  else none

/-- Takes what starts at the spot. -/
def take (s : Scan) : Except Fault Scan :=
  let c := s.spot.here
  if c == '%' && s.atLineStart then s.takeDirective
  else if c == '\'' || c == '"' then s.takeQuoted
  else orMalformed s.takeOther?

/-- Goes on to the next token and takes it. -/
def step (s : Scan) : Except Fault Scan := do
  let s ← orMalformed (toNextToken (s.spot.rest.length + 1) s).dropStale?
  (s.unwind s.spot.column).take

/-- The tokens whose place is settled: those before anything that may turn out to be a key. -/
def settled? (s : Scan) : Option (List Token) := do
  let s ← s.dropStale?
  let settled := s.possibleKeys.foldl (fun n k => min n k.2.position) s.count
  return s.tokens.drop (s.count - settled)

/-- Collects tokens until the text has ended, or up to a part that denotes nothing.  Before such a
part only those tokens count whose place does not depend on it. -/
def run : Nat → Scan → Except Fault (List Token)
  | 0, _ => .error .malformed
  | fuel + 1, s =>
    match s.step with
    | .error .malformed => .error .malformed
    | .error (.scalar fault) =>
      (orMalformed s.settled?).map fun ts => (.unreadable fault :: ts).reverse
    | .ok s => if s.tokens.head? == some .streamEnd then .ok s.tokens.reverse else run fuel s

end Scan

/-- The tokens of a text.  A byte order mark before it is no part of it. -/
def tokens (text : List Char) : Except Fault (List Token) :=
  let s := Scan.start text
  let s := if s.spot.here == '\uFEFF' then s.forward 1 else s
  s.run (text.length + 1)

end SqlFrontEnd.Yaml
