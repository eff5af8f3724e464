import SqlFrontEnd.Text.CodePoint
import SqlFrontEnd.Text.RangeTable

/-!
# Blank characters

Two standard sets of separating characters, which differ by the four information separators
`U+001C` to `U+001F`.

* `isBlank`: category `Zs`, or bidirectional class `WS`, `B` or `S`.  These separate tokens, and a
  text of blanks alone holds nothing to analyse (`isBlankText`).
* `isWhiteSpace`: the Unicode property `White_Space`.  These may surround a number that is written
  as a text.
* `trimBy`: a text without the matching characters at its two ends.
-/

namespace SqlFrontEnd.Text

/-- The blank characters. -/
def blankRanges : RangeTable :=
  [(0x9, 0xD), (0x1C, 0x20), (0x85, 0x85), (0xA0, 0xA0), (0x1680, 0x1680), (0x2000, 0x200A),
   (0x2028, 0x2029), (0x202F, 0x202F), (0x205F, 0x205F), (0x3000, 0x3000)]

/-- Tests for a blank, the information separators included. -/
def isBlank (c : Char) : Bool := blankRanges.contains c.toNat

theorem blankRanges_ascending : blankRanges.Ascending := by decide +kernel

theorem isBlank_iff (c : Char) :
    isBlank c = true ↔ ∃ r ∈ blankRanges, r.1 ≤ c.toNat ∧ c.toNat ≤ r.2 := by
  rw [isBlank, RangeTable.contains_iff blankRanges_ascending]

/-- Tests for the property `White_Space`: a blank that is no information separator. -/
def isWhiteSpace (c : Char) : Bool :=
  isBlank c && !(decide (0x1C ≤ c.toNat) && decide (c.toNat ≤ 0x1F))

/-- A text of blanks alone, or of nothing. -/
def isBlankText (text : Text) : Bool := text.all (·.holds isBlank)

theorem isBlankText_ofChars (cs : List Char) : isBlankText (ofChars cs) = cs.all isBlank := by
  rw [isBlankText, ofChars, List.all_map]
  rfl

/-- Drops the longest matching run at each end. -/
def trimBy (p : Char → Bool) (text : List Char) : List Char :=
  ((text.dropWhile p).reverse.dropWhile p).reverse

end SqlFrontEnd.Text
