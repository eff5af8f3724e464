import SqlFrontEnd.Number.Decimal
import SqlFrontEnd.Number.Hexadecimal
import SqlFrontEnd.Text.CodePoint

/-!
# UTF-8

Text and its octets.  The first octet of a character tells how many follow it, and within which
bounds the next one must lie: the bounds rule out a longer spelling than needed, the surrogates, and
numbers beyond `U+10FFFF`.  Octets are malformed where a character cannot begin, where an octet is
out of bounds, or where the octets end too early; what has been read of the character up to there is
one malformed part.

* `encode`: the octets of a text.
* `front`: the character, or the malformed part, at the start of octets.
* `decode`: strict reading; the first malformed part refuses the octets.
* `decodeLossy`: lenient reading; each malformed part becomes `U+FFFD`.
* `decodeHalves?`: strict reading, except that surrogates may be encoded like characters.
* `Malformed.message`: the report of a malformed part.
-/

namespace SqlFrontEnd.Text.Utf8

/-! ## Writing -/

/-- A continuation octet with the given six bits. -/
def continuation (n : Nat) : UInt8 := UInt8.ofNat (0x80 + n % 0x40)

/-- The octets of a character. -/
def encodeChar (c : Char) : List UInt8 :=
  let n := c.toNat
  if n < 0x80 then [UInt8.ofNat n]
  else if n < 0x800 then [UInt8.ofNat (0xC0 + n / 0x40), continuation n]
  else if n < 0x10000 then
    [UInt8.ofNat (0xE0 + n / 0x1000), continuation (n / 0x40), continuation n]
  else
    [UInt8.ofNat (0xF0 + n / 0x40000), continuation (n / 0x1000), continuation (n / 0x40),
      continuation n]

/-- The octets of a text. -/
def encode (text : List Char) : List UInt8 := text.flatMap encodeChar

/-! ## Reading -/

/-- Why octets are malformed. -/
inductive Reason where
  | invalidStart
  | invalidContinuation
  | unexpectedEnd
deriving DecidableEq, Repr

/-- What the first octet of a character announces: the bits it contributes, the number of octets
that follow, and the bounds of the next one. -/
structure Lead where
  bits : Nat
  following : Nat
  low : Nat
  high : Nat
deriving Repr

/-- What an octet announces as the first of a character. -/
def lead? (octet : Nat) : Option Lead :=
  if octet < 0x80 then some ⟨octet, 0, 0x80, 0xBF⟩
  else if octet < 0xC2 then none
  else if octet < 0xE0 then some ⟨octet - 0xC0, 1, 0x80, 0xBF⟩
  else if octet < 0xF0 then
    some ⟨octet - 0xE0, 2, if octet = 0xE0 then 0xA0 else 0x80, if octet = 0xED then 0x9F else 0xBF⟩
  else if octet < 0xF5 then
    some ⟨octet - 0xF0, 3, if octet = 0xF0 then 0x90 else 0x80, if octet = 0xF4 then 0x8F else 0xBF⟩
  else none

/-- What stands at the start of octets, with the octets after it. -/
inductive Front where
  | character (c : Char) (rest : List UInt8)
  | malformed (reason : Reason) (length : Nat) (rest : List UInt8)
deriving Repr

namespace Front

/-- The octets after a character or a malformed part. -/
def rest : Front → List UInt8
  | character _ rest => rest
  | malformed _ _ rest => rest

end Front

/-- Reads the octets that follow the first one.  `length` counts those already read. -/
def follow : (following bits low high length : Nat) → List UInt8 → Front
  | 0, bits, _, _, _, octets => .character (Char.ofNat bits) octets
  | _ + 1, _, _, _, length, [] => .malformed .unexpectedEnd length []
  | following + 1, bits, low, high, length, octet :: octets =>
    if low ≤ octet.toNat ∧ octet.toNat ≤ high then
      follow following (bits * 0x40 + (octet.toNat - 0x80)) 0x80 0xBF (length + 1) octets
    else .malformed .invalidContinuation length (octet :: octets)

/-- The character or the malformed part at the start of octets. -/
def front (octet : UInt8) (octets : List UInt8) : Front :=
  match lead? octet.toNat with
  | none => .malformed .invalidStart 1 octets
  | some l => follow l.following l.bits l.low l.high 1 octets

theorem length_follow_le (following bits low high length : Nat) (octets : List UInt8) :
    (follow following bits low high length octets).rest.length ≤ octets.length := by
  fun_induction follow following bits low high length octets with
  | case1 => exact Nat.le_refl _
  | case2 => exact Nat.le_refl _
  | case3 => exact Nat.le_succ_of_le ‹_›
  | case4 => exact Nat.le_refl _

/-- What follows the front is shorter than the whole. -/
theorem length_front_lt (octet : UInt8) (octets : List UInt8) :
    (front octet octets).rest.length < (octet :: octets).length := by
  unfold front
  split
  · exact Nat.lt_succ_self _
  · exact Nat.lt_succ_of_le (length_follow_le ..)

theorem length_rest_lt {octet : UInt8} {octets : List UInt8} {f : Front}
    (h : front octet octets = f) : f.rest.length < (octet :: octets).length :=
  h ▸ length_front_lt octet octets

/-- The malformed part at which reading stopped. -/
structure Malformed where
  reason : Reason
  /-- The number of octets before it. -/
  position : Nat
  length : Nat
  /-- The first of its octets. -/
  octet : UInt8
deriving DecidableEq, Repr

/-- Reads octets of which `position` have been read before. -/
def decodeFrom (position : Nat) : List UInt8 → Except Malformed (List Char)
  | [] => .ok []
  | octet :: octets =>
    match _h : front octet octets with
    | .character c rest =>
      (decodeFrom (position + (encodeChar c).length) rest).map (c :: ·)
    | .malformed reason length _ => .error ⟨reason, position, length, octet⟩
termination_by octets => octets.length
decreasing_by exact length_rest_lt _h

/-- The text of octets, or the first malformed part in them. -/
def decode (octets : List UInt8) : Except Malformed (List Char) := decodeFrom 0 octets

/-- The text of octets, with `U+FFFD` for each malformed part. -/
def decodeLossy : List UInt8 → List Char
  | [] => []
  | octet :: octets =>
    match _h : front octet octets with
    | .character c rest => c :: decodeLossy rest
    | .malformed _ _ rest => '\uFFFD' :: decodeLossy rest
termination_by octets => octets.length
decreasing_by all_goals exact length_rest_lt _h

/-- The half of a surrogate pair that is encoded like a character at the start of octets, with the
octets after it. -/
def half? : List UInt8 → Option (CodePoint × List UInt8)
  | a :: b :: c :: rest =>
    if a.toNat = 0xED ∧ 0xA0 ≤ b.toNat ∧ b.toNat ≤ 0xBF ∧ 0x80 ≤ c.toNat ∧ c.toNat ≤ 0xBF then
      (CodePoint.ofNumber? (0xD800 + (b.toNat - 0xA0) * 0x40 + (c.toNat - 0x80))).map (·, rest)
    else none
  | _ => none

theorem length_half?_lt {octets rest : List UInt8} {c : CodePoint}
    (h : half? octets = some (c, rest)) : rest.length < octets.length := by
  unfold half? at h
  split at h
  · split at h
    · obtain ⟨_, _, h⟩ := Option.map_eq_some_iff.1 h
      cases h
      simp only [List.length_cons]
      omega
    · cases h
  · cases h

/-- The text of octets in which halves of surrogate pairs may be encoded like characters. -/
def decodeHalves? : List UInt8 → Option Text
  | [] => some []
  | octet :: octets =>
    match _h : front octet octets with
    | .character c rest => (decodeHalves? rest).map (.char c :: ·)
    | .malformed .. =>
      match _h' : half? (octet :: octets) with
      | some (half, rest) => (decodeHalves? rest).map (half :: ·)
      | none => none
termination_by octets => octets.length
decreasing_by
  · exact length_rest_lt _h
  · exact length_half?_lt _h'

namespace Reason

/-- The wording of a reason. -/
def message : Reason → String
  | invalidStart => "invalid start byte"
  | invalidContinuation => "invalid continuation byte"
  | unexpectedEnd => "unexpected end of data"

end Reason

namespace Malformed

/-- The report of a malformed part: the octet if it is one, else the range of positions. -/
def message (m : Malformed) : String :=
  let part :=
    if m.length = 1 then
      "byte 0x" ++ String.ofList (Hexadecimal.padded 2 m.octet.toNat) ++ " in position " ++
        Decimal.text m.position
    else
      "bytes in position " ++ Decimal.text m.position ++ "-" ++
        Decimal.text (m.position + m.length - 1)
  "'utf-8' codec can't decode " ++ part ++ ": " ++ m.reason.message

end Malformed

end SqlFrontEnd.Text.Utf8
