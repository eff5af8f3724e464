import SqlFrontEnd.Text.Newline
import SqlFrontEnd.Text.Utf8

/-!
# Text streams

The standard streams carry text in UTF-8.  What does not fit into that is refused by a strict
stream.  An escaping stream lets it pass: an octet that belongs to no character is read as a half of
a surrogate pair that tells the octet, and such a half is written as the octet again.

* `Escaping.decode`: the text of any octets.
* `StreamPolicy.decode`: reading under either policy.
* `StreamPolicy.unencodable?`: the part of a text that cannot be written.
-/

namespace SqlFrontEnd.Text

namespace Escaping

/-- The half of a surrogate pair that tells an octet. -/
def ofOctet (octet : UInt8) : CodePoint :=
  .surrogate ⟨0x400 + octet.toNat, by have := octet.toNat_lt; omega⟩

/-- Tests for a half of a surrogate pair that tells an octet that is not ASCII. -/
def tellsOctet (half : Surrogate) : Bool := decide (0x480 ≤ half.val ∧ half.val < 0x500)

/-- The text of octets, with the halves that tell them for the octets of malformed parts. -/
def decode : List UInt8 → Text
  | [] => []
  | octet :: octets =>
    match _h : Utf8.front octet octets with
    | .character c rest => .char c :: decode rest
    | .malformed _ length rest => ((octet :: octets).take length).map ofOctet ++ decode rest
termination_by octets => octets.length
decreasing_by all_goals exact Utf8.length_rest_lt _h

end Escaping

/-- What a stream does with octets that are not UTF-8, and with halves of surrogate pairs. -/
inductive StreamPolicy where
  | strict
  | escaping
deriving DecidableEq, Repr

/-- The part of a text that cannot be written. -/
structure Unencodable where
  /-- The number of code points before it. -/
  position : Nat
  length : Nat
  /-- The first of its code points. -/
  first : CodePoint
deriving DecidableEq, Repr

namespace StreamPolicy

/-- The text of octets, or the first malformed part in them. -/
def decode : StreamPolicy → List UInt8 → Except Utf8.Malformed Text
  | strict, octets => (Utf8.decode octets).map ofChars
  | escaping, octets => .ok (Escaping.decode octets)

/-- Tests for a code point that can be written. -/
def writes (policy : StreamPolicy) : CodePoint → Bool
  | .char _ => true
  | .surrogate half => policy == .escaping && Escaping.tellsOctet half

/-- The first part of a text that cannot be written: all halves of surrogate pairs from there on. -/
def unencodable? (policy : StreamPolicy) (text : Text) : Option Unencodable :=
  let before := text.takeWhile policy.writes
  match text.dropWhile policy.writes with
  | [] => none
  | c :: rest => some ⟨before.length, 1 + (rest.takeWhile (·.char?.isNone)).length, c⟩

end StreamPolicy

/-- The report of a part that cannot be written: the half if it is one, else the range of
positions. -/
def Unencodable.message (part : Unencodable) : String :=
  let what :=
    if part.length = 1 then
      "character '\\u" ++ String.ofList (Hexadecimal.padded 4 part.first.number) ++
        "' in position " ++ Decimal.text part.position
    else
      "characters in position " ++ Decimal.text part.position ++ "-" ++
        Decimal.text (part.position + part.length - 1)
  "'utf-8' codec can't encode " ++ what ++ ": surrogates not allowed"

end SqlFrontEnd.Text
