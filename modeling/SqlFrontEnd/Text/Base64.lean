/-!
# Base 64

Octets written with four characters for every three of them.  Characters outside the alphabet, such
as the ends of lines, are passed over.

* `Base64.decode?`: the octets of a text, or nothing if it ends within a group.
-/

namespace SqlFrontEnd.Text.Base64

/-- The six bits that a character stands for. -/
def sextet? (c : Char) : Option Nat :=
  if 'A' ≤ c ∧ c ≤ 'Z' then some (c.toNat - 65)
  else if 'a' ≤ c ∧ c ≤ 'z' then some (c.toNat - 71)
  else if '0' ≤ c ∧ c ≤ '9' then some (c.toNat + 4)
  else if c = '+' then some 62
  else if c = '/' then some 63
  else none

/-- Reads on within a group: `count` characters of it have been read, which leave `bits` of at most
six bits, and `pads` padding marks directly before. -/
def decodeFrom (count bits pads : Nat) : List Char → Option (List UInt8)
  | [] => if count = 0 then some [] else none
  | c :: s =>
    if c = '=' then
      if 2 ≤ count ∧ 4 ≤ count + pads + 1 then some []
      else decodeFrom count bits (if 2 ≤ count then pads + 1 else pads) s
    else
      match sextet? c with
      | none => decodeFrom count bits pads s
      | some n =>
        match count with
        | 0 => decodeFrom 1 n 0 s
        | 1 => (decodeFrom 2 (n % 16) 0 s).map (UInt8.ofNat (bits * 4 + n / 16) :: ·)
        | 2 => (decodeFrom 3 (n % 4) 0 s).map (UInt8.ofNat (bits * 16 + n / 4) :: ·)
        | _ => (decodeFrom 0 0 0 s).map (UInt8.ofNat (bits * 64 + n) :: ·)

/-- The octets that a text writes. -/
def decode? (text : List Char) : Option (List UInt8) := decodeFrom 0 0 0 text

end SqlFrontEnd.Text.Base64
