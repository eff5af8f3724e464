import SqlFrontEnd.Json.Basic
import SqlFrontEnd.Number.Hexadecimal

/-!
# Writing JSON

JSON text is written in printable ASCII.  Everything else is escaped: by a letter where the format
has one, else by number, a character above `U+FFFF` as a surrogate pair.  So half a pair that stands
alone is written as it is.

* `Json.Layout`: whether a value is written on one line or over many.
* `Json.escaped`: a code point as it stands inside a string.
* `Json.render`: the text of a value.
* `Json.write`: the text of a value with an indentation, within the limits of both.
* `Json.sortKeys`: a value with the members of every object in order of their names.
-/

namespace SqlFrontEnd.Json

/-- How the parts of a value are set out. -/
inductive Layout where
  /-- No space at all. -/
  | compact
  /-- Each item on its own line, indented by `width` for each level; a colon has a space after
  it. -/
  | indented (width : Nat)
deriving DecidableEq, Repr

namespace Layout

/-- The layout that an optional indentation asks for.  A negative one counts as zero. -/
def ofIndent : Option Int → Layout
  | none => compact
  | some width => indented width.toNat

/-- What stands before an item at a level, and before the bracket that closes it. -/
def lineBreak : Layout → Nat → List Char
  | compact, _ => []
  | indented width, level => '\n' :: List.replicate (width * level) ' '

/-- What stands between a name and its value. -/
def colon : Layout → List Char
  | compact => [':']
  | indented _ => [':', ' ']

end Layout

/-- One unit of sixteen bits as an escape. -/
def unitEscape (n : Nat) : List Char := '\\' :: 'u' :: Hexadecimal.padded 4 n

/-- A character as it stands inside a string. -/
def escapedChar (c : Char) : List Char :=
  if c = '"' then ['\\', '"']
  else if c = '\\' then ['\\', '\\']
  else if c = '\n' then ['\\', 'n']
  else if c = '\r' then ['\\', 'r']
  else if c = '\t' then ['\\', 't']
  else if c = '\x08' then ['\\', 'b']
  else if c = '\x0C' then ['\\', 'f']
  else if 0x20 ≤ c.toNat ∧ c.toNat ≤ 0x7E then [c]
  else if c.toNat < 0x10000 then unitEscape c.toNat
  else
    unitEscape (0xD800 + (c.toNat - 0x10000) / 0x400) ++
      unitEscape (0xDC00 + (c.toNat - 0x10000) % 0x400)

/-- A code point as it stands inside a string. -/
def escaped : CodePoint → List Char
  | .char c => escapedChar c
  | .surrogate half => unitEscape (CodePoint.surrogate half).number

/-- A text between quotes. -/
def quotedText (s : Text) : List Char := '"' :: s.flatMap escaped ++ ['"']

/-- A floating-point number.  The data that are no numbers are written as words. -/
def realText : Binary64 → String
  | .nan => "NaN"
  | .infinite negative => if negative then "-Infinity" else "Infinity"
  | x => x.shortest

/-- Parts with a comma between them, each on a line of its own where the layout says so. -/
def separated (layout : Layout) (level : Nat) (parts : List (List Char)) : List Char :=
  match parts with
  | [] => []
  | part :: rest =>
    layout.lineBreak level ++ part ++
      rest.flatMap fun p => ',' :: (layout.lineBreak level ++ p)

mutual

/-- The text of a value that stands at a level. -/
def renderAt (layout : Layout) (level : Nat) : Json → List Char
  | null => "null".toList
  | bool b => (if b then "true" else "false").toList
  | int i => (Decimal.integerText i).toList
  | real x => (realText x).toList
  | string s => quotedText s
  | array [] => ['[', ']']
  | array (v :: vs) =>
    '[' :: separated layout (level + 1) (itemTexts layout (level + 1) (v :: vs)) ++
      layout.lineBreak level ++ [']']
  | object [] => ['\x7b', '\x7d']
  | object (m :: ms) =>
    '\x7b' :: separated layout (level + 1) (memberTexts layout (level + 1) (m :: ms)) ++
      layout.lineBreak level ++ ['\x7d']

/-- The texts of the items of an array. -/
def itemTexts (layout : Layout) (level : Nat) : List Json → List (List Char)
  | [] => []
  | v :: vs => renderAt layout level v :: itemTexts layout level vs

/-- The texts of the members of an object. -/
def memberTexts (layout : Layout) (level : Nat) : List (Text × Json) → List (List Char)
  | [] => []
  | (name, v) :: ms =>
    (quotedText name ++ layout.colon ++ renderAt layout level v) :: memberTexts layout level ms

end

/-- The text of a value. -/
def render (layout : Layout) (v : Json) : String := String.ofList (renderAt layout 0 v)

/-! ## Limits -/

/-- Why a value is not written. -/
inductive WriteFault where
  /-- The indentation is no number of sixty-four bits. -/
  | indentation
  /-- An integer has too many digits. -/
  | digits
deriving DecidableEq, Repr

/-- The wording of a fault. -/
def WriteFault.message : WriteFault → String
  | indentation => "cannot fit 'int' into an index-sized integer"
  | digits =>
    "Exceeds the limit (4300 digits) for integer string conversion; " ++
      "use sys.set_int_max_str_digits() to increase the limit"

/-- Tests for an indentation that is a number of sixty-four bits. -/
def indentationFits (indent : Option Int) : Bool :=
  indent.all fun width => decide (-0x8000000000000000 ≤ width ∧ width < 0x8000000000000000)

mutual

/-- Tests for a value with an integer of too many digits somewhere in it. -/
def hasLongInteger : Json → Bool
  | int i => decide (maxDigits < (Decimal.digits i.natAbs).length)
  | array items => anyHasLongInteger items
  | object fields => anyMemberHasLongInteger fields
  | _ => false

/-- Tests for such a value among some. -/
def anyHasLongInteger : List Json → Bool
  | [] => false
  | v :: vs => hasLongInteger v || anyHasLongInteger vs

/-- Tests for a member with such a value among some. -/
def anyMemberHasLongInteger : List (Text × Json) → Bool
  | [] => false
  | (_, v) :: ms => hasLongInteger v || anyMemberHasLongInteger ms

end

/-- Writes a value with an indentation.  The indentation is judged first. -/
def write (indent : Option Int) (v : Json) : Except WriteFault String :=
  if !indentationFits indent then .error .indentation
  else if v.hasLongInteger then .error .digits
  else .ok (v.render (.ofIndent indent))

/-! ## Order -/

/-- Tests whether a name does not come after another one: by the numbers of their code points. -/
def precedes : Text → Text → Bool
  | [], _ => true
  | _ :: _, [] => false
  | c :: s, d :: t =>
    decide (c.number < d.number) || (c.number == d.number && precedes s t)

mutual

/-- A value with the members of every object in order of their names. -/
def sortKeys : Json → Json
  | array items => array (sortKeysItems items)
  | object fields => object ((sortKeysFields fields).mergeSort fun a b => precedes a.1 b.1)
  | v => v

/-- The items of an array, each with its members in order. -/
def sortKeysItems : List Json → List Json
  | [] => []
  | v :: vs => sortKeys v :: sortKeysItems vs

/-- The members of an object, each with the members of its value in order. -/
def sortKeysFields : List (Text × Json) → List (Text × Json)
  | [] => []
  | (name, v) :: ms => (name, sortKeys v) :: sortKeysFields ms

end

end SqlFrontEnd.Json
