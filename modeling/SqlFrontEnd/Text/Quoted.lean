import SqlFrontEnd.Number.Hexadecimal
import SqlFrontEnd.Text.CodePoint
import SqlFrontEnd.Text.Printable

/-!
# Quoted text

Messages show text that they do not trust between quotes, so that its extent and its unprintable
characters can be seen.  A backslash and the quote itself get a backslash before them, tab and the
two line ends have their letters, and every other unprintable character is written by number, with
as many digits as its size asks for: `\xhh`, `\uhhhh` or `\Uhhhhhhhh`.  So is a half of a surrogate
pair, and quoted text consists of characters alone.

* `shown`: one code point between two quotes of a given kind.
* `quoted`: a text in quotes.  It stands in single quotes, except that a text with single quotes
  and no double ones stands in double quotes, where they need no backslash.
* `quotedOctets`: octets in quotes, where those outside ASCII are unprintable.
-/

namespace SqlFrontEnd.Text

/-- An unprintable code point by number. -/
def numbered (n : Nat) : List Char :=
  if n < 0x100 then '\\' :: 'x' :: Hexadecimal.padded 2 n
  else if n < 0x10000 then '\\' :: 'u' :: Hexadecimal.padded 4 n
  else '\\' :: 'U' :: Hexadecimal.padded 8 n

/-- A character as it stands between two quotes of the kind `mark`. -/
def shownChar (mark c : Char) : List Char :=
  if c = '\\' ∨ c = mark then ['\\', c]
  else if c = '\t' then ['\\', 't']
  else if c = '\n' then ['\\', 'n']
  else if c = '\r' then ['\\', 'r']
  else if isPrintable c then [c]
  else numbered c.toNat

/-- A code point as it stands between two quotes of the kind `mark`. -/
def shown (mark : Char) : CodePoint → List Char
  | .char c => shownChar mark c
  | .surrogate half => numbered (CodePoint.surrogate half).number

/-- The kind of quote that a text stands in. -/
def quoteMark (text : Text) : Char :=
  if text.contains (.char '\'') && !text.contains (.char '"') then '"' else '\''

/-- A text between two quotes of the kind `mark`. -/
def quotedWith (mark : Char) (text : Text) : List Char :=
  mark :: text.flatMap (shown mark) ++ [mark]

/-- A text in quotes. -/
def quoted (text : Text) : String := String.ofList (quotedWith (quoteMark text) text)

/-- An octet as it stands between two quotes of the kind `mark`. -/
def shownOctet (mark : Char) (octet : UInt8) : List Char :=
  if octet.toNat < 0x80 then shownChar mark (Char.ofNat octet.toNat) else numbered octet.toNat

/-- Octets in quotes. -/
def quotedOctets (octets : List UInt8) : String :=
  let mark := quoteMark (octets.map fun octet => .char (Char.ofNat octet.toNat))
  String.ofList (mark :: octets.flatMap (shownOctet mark) ++ [mark])

end SqlFrontEnd.Text
