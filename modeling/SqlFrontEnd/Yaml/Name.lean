import SqlFrontEnd.Number.Decimal
import SqlFrontEnd.Number.Hexadecimal
import SqlFrontEnd.Text.Utf8
import SqlFrontEnd.Yaml.Token

/-!
# Names in YAML text

Anchors, aliases, tags and directives are read by rules of their own, each from its indicator on.

* `anchorName?`: the name after `&` or `*`.
* `tag?`: a tag.
* `directive`: a directive with the rest of its line.
-/

namespace SqlFrontEnd.Yaml

/-- Tests whether a character may follow an anchor or an alias. -/
def endsAnchor (c : Char) : Bool :=
  isGapOrTab c || ['?', ':', ',', ']', '\x7d', '%', '@', '\x60'].contains c

/-- The name after the indicator of an anchor or an alias. -/
def anchorName? (s : Spot) : Option (String × Spot) :=
  let s := s.next
  let name := s.run isNameChar
  let s := s.forward name.length
  if name.isEmpty || !endsAnchor s.here then none else some (String.ofList name, s)

/-! ## Tags -/

/-- The characters of which a tag may consist, apart from escapes. -/
def isUriChar (c : Char) : Bool :=
  c.isAlphanum || "-;/?:@&=+$,_.!~*'()[]".toList.contains c

/-- The octets that a row of escapes writes, each a percent sign and two hexadecimal digits. -/
def escapedOctets? : List Char → Option (List UInt8 × List Char)
  | '%' :: a :: b :: rest => do
    let n ← Hexadecimal.value? [a, b]
    let (octets, rest) ← escapedOctets? rest
    return (UInt8.ofNat n :: octets, rest)
  | '%' :: _ => none
  | rest => some ([], rest)

/-- The text of the tag at the start of a text.  The first argument bounds the number of rows of
escapes. -/
def uriText? : Nat → List Char → Option (List Char × List Char)
  | 0, _ => none
  | fuel + 1, text => do
    let plain := text.takeWhile isUriChar
    let rest := text.dropWhile isUriChar
    match rest with
    | '%' :: _ =>
      let (octets, rest) ← escapedOctets? rest
      let escaped ← (Text.Utf8.decode octets).toOption
      let (more, rest) ← uriText? fuel rest
      return (plain ++ escaped ++ more, rest)
    | _ => return (plain, rest)

/-- Reads the text of a tag, which may not be empty. -/
def uri? (s : Spot) : Option (String × Spot) := do
  let (text, rest) ← uriText? (s.rest.length + 1) s.rest
  let length := s.rest.length - rest.length
  if length = 0 then none else some (String.ofList text, s.forward length)

/-- Reads the handle of a tag: one exclamation mark, or a name between two. -/
def tagHandle? (s : Spot) : Option (String × Spot) :=
  if s.here != '!' then none
  else if s.peek 1 == ' ' then some ("!", s.next)
  else
    let name := s.next.run isNameChar
    if s.peek (name.length + 1) == '!' then
      some (String.ofList ('!' :: name ++ ['!']), s.forward (name.length + 2))
    else none

/-- Tests whether a further exclamation mark stands before the next gap. -/
def hasHandle (s : Spot) : Bool := (s.next.run (!isGap ·)).contains '!'

/-- Reads a tag. -/
def tag? (s : Spot) : Option (WrittenTag × Spot) := do
  let (tag, s) ←
    if s.peek 1 == '<' then do
      let (suffix, s) ← uri? (s.forward 2)
      if s.here == '>' then some (WrittenTag.mk none suffix, s.next) else none
    else if isGapOrTab (s.peek 1) then some (WrittenTag.mk none "!", s.next)
    else if hasHandle s then do
      let (handle, s) ← tagHandle? s
      let (suffix, s) ← uri? s
      some (WrittenTag.mk (some handle) suffix, s)
    else do
      let (suffix, s) ← uri? s.next
      some (WrittenTag.mk (some "!") suffix, s)
  if isGap s.here then some (tag, s) else none

/-! ## Directives -/

/-- The largest number of digits of a part of a version. -/
def maxVersionDigits : Nat := 4300

/-- Reads a number. -/
def directiveNumber (s : Spot) : Except Fault (Nat × Spot) :=
  let ds := s.run Decimal.isDigit
  if ds.isEmpty then .error .malformed
  else if maxVersionDigits < ds.length then .error (.scalar (.tooManyDigits ds.length))
  else .ok (Decimal.value ds, s.forward ds.length)

/-- Reads the version after the name of its directive. -/
def versionDirective (s : Spot) : Except Fault (Directive × Spot) := do
  let (major, s) ← directiveNumber s.skipSpaces
  if s.here != '.' then .error .malformed
  else do
    let (minor, s) ← directiveNumber s.next
    if isGap s.here then .ok (.version major minor, s) else .error .malformed

/-- Reads a handle and what it stands for, after the name of their directive. -/
def handleDirective? (s : Spot) : Option (Directive × Spot) := do
  let (handle, s) ← tagHandle? s.skipSpaces
  if s.here != ' ' then none
  else do
    let (full, s) ← uri? s.skipSpaces
    if isGap s.here then some (.tagHandle handle full, s) else none

/-- Reads a directive with the rest of its line. -/
def directive (s : Spot) : Except Fault (Directive × Spot) := do
  let s := s.next
  let name := s.run isNameChar
  let s := s.forward name.length
  if name.isEmpty || !isGap s.here then .error .malformed
  else do
    let (d, s) ←
      if name == "YAML".toList then versionDirective s
      else if name == "TAG".toList then orMalformed (handleDirective? s)
      else .ok (.reserved, s.skip (!isBreakOrEnd ·))
    let s ← orMalformed s.restOfLine?
    return (d, s)

end SqlFrontEnd.Yaml
