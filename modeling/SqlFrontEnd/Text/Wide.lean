import SqlFrontEnd.Text.Utf8

/-!
# Text in units of two or four octets

UTF-16 and UTF-32, in either order of octets, and telling the encoding of a JSON text from its first
octets.  The first characters of a JSON text are ASCII, so where its zero octets lie shows the size
and the order of its units; a byte order mark decides before that.  Half a surrogate pair that
stands alone is read as such, whatever the encoding.

* `decodeUtf16`, `decodeUtf32`: reading.
* `Encoding.detect`: the encoding of a JSON text, and its octets without the mark.
* `decodeDetected?`: a JSON text in whichever encoding it is.
-/

namespace SqlFrontEnd.Text

/-- The order of the octets of a unit. -/
inductive ByteOrder where
  | little | big
deriving DecidableEq, Repr

namespace ByteOrder

/-- The number that octets of a given order make. -/
def number (order : ByteOrder) (octets : List UInt8) : Nat :=
  let mostSignificantFirst := match order with
    | little => octets.reverse
    | big => octets
  mostSignificantFirst.foldl (fun n octet => n * 0x100 + octet.toNat) 0

end ByteOrder

/-- The units of two octets; an odd octet at the end is refused. -/
def units16? (order : ByteOrder) : List UInt8 → Option (List Nat)
  | [] => some []
  | a :: b :: octets => (units16? order octets).map (order.number [a, b] :: ·)
  | _ => none

/-- The units of four octets. -/
def units32? (order : ByteOrder) : List UInt8 → Option (List Nat)
  | [] => some []
  | a :: b :: c :: d :: octets => (units32? order octets).map (order.number [a, b, c, d] :: ·)
  | _ => none

/-- The code points of units of two octets: two halves of a surrogate pair make one. -/
def joinPairs : List Nat → List Nat
  | n :: m :: units =>
    if 0xD800 ≤ n ∧ n < 0xDC00 ∧ 0xDC00 ≤ m ∧ m < 0xE000 then
      (0x10000 + (n - 0xD800) * 0x400 + (m - 0xDC00)) :: joinPairs units
    else n :: joinPairs (m :: units)
  | units => units

/-- The text of octets in UTF-16. -/
def decodeUtf16 (order : ByteOrder) (octets : List UInt8) : Option Text :=
  (units16? order octets).bind fun units => (joinPairs units).mapM CodePoint.ofNumber?

/-- The text of octets in UTF-32. -/
def decodeUtf32 (order : ByteOrder) (octets : List UInt8) : Option Text :=
  (units32? order octets).bind fun units => units.mapM CodePoint.ofNumber?

/-- The encodings in which a JSON text may come. -/
inductive Encoding where
  | utf8
  | utf16 (order : ByteOrder)
  | utf32 (order : ByteOrder)
deriving DecidableEq, Repr

namespace Encoding

/-- The encoding without a byte order mark. -/
def ofZeros : List UInt8 → Encoding
  | [a, b] => if a = 0 then utf16 .big else if b = 0 then utf16 .little else utf8
  | a :: b :: c :: d :: _ =>
    if a = 0 then if b = 0 then utf32 .big else utf16 .big
    else if b = 0 then if c = 0 ∧ d = 0 then utf32 .little else utf16 .little
    else utf8
  | _ => utf8

/-- The encoding of a JSON text, and its octets without the byte order mark. -/
def detect (octets : List UInt8) : Encoding × List UInt8 :=
  match octets with
  | 0x00 :: 0x00 :: 0xFE :: 0xFF :: rest => (utf32 .big, rest)
  | 0xFF :: 0xFE :: 0x00 :: 0x00 :: rest => (utf32 .little, rest)
  | 0xFE :: 0xFF :: rest => (utf16 .big, rest)
  | 0xFF :: 0xFE :: rest => (utf16 .little, rest)
  | 0xEF :: 0xBB :: 0xBF :: rest => (utf8, rest)
  | _ => (ofZeros octets, octets)

/-- The text of octets in an encoding. -/
def decode? : Encoding → List UInt8 → Option Text
  | utf8, octets => Utf8.decodeHalves? octets
  | utf16 order, octets => decodeUtf16 order octets
  | utf32 order, octets => decodeUtf32 order octets

end Encoding

/-- A JSON text in whichever encoding it is. -/
def decodeDetected? (octets : List UInt8) : Option Text :=
  (Encoding.detect octets).1.decode? (Encoding.detect octets).2

end SqlFrontEnd.Text
