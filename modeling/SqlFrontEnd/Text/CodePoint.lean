/-!
# Code points

Formats that escape characters by number can name one half of a surrogate pair without the other.
Such a half is no character, yet it is a code point, and text that comes from these formats may hold
it.  So a text is a list of code points: characters, and halves that stand alone.

* `CodePoint`: a character or a lone half of a surrogate pair.
* `CodePoint.number`, `CodePoint.ofNumber?`: code points and their numbers.
* `CodePoint.holds`: a class of characters as a class of code points; no half belongs to it.
* `Text`: a text.  Strings and characters are taken for texts and code points where these are
  expected.
* `Text.chars?`, `Text.toChars`: the characters of a text, if it has no lone halves, and with
  `U+FFFD` in place of them.
-/

namespace SqlFrontEnd

/-- One half of a surrogate pair, by its distance from `U+D800`. -/
abbrev Surrogate := Fin 0x800

/-- A code point of a text. -/
inductive CodePoint where
  | char (c : Char)
  /-- A half of a surrogate pair that stands alone. -/
  | surrogate (half : Surrogate)
deriving DecidableEq, Repr, Inhabited

namespace CodePoint

instance : Coe Char CodePoint := ⟨char⟩

/-- The number of a code point. -/
def number : CodePoint → Nat
  | char c => c.toNat
  | surrogate half => 0xD800 + half.val

/-- The code point of a given number. -/
def ofNumber? (n : Nat) : Option CodePoint :=
  if h : 0xD800 ≤ n ∧ n < 0xE000 then some (surrogate ⟨n - 0xD800, by omega⟩)
  else if n < 0x110000 then some (char (Char.ofNat n))
  else none

/-- The character that a code point is. -/
def char? : CodePoint → Option Char
  | char c => some c
  | surrogate _ => none

/-- Tests for a character of a class. -/
def holds (p : Char → Bool) : CodePoint → Bool
  | char c => p c
  | surrogate _ => false

@[simp] theorem holds_char (p : Char → Bool) (c : Char) : (char c).holds p = p c := rfl

/-- A class within another is so for code points too. -/
theorem holds_mono {p q : Char → Bool} (h : ∀ c, p c = true → q c = true) {c : CodePoint}
    (hc : c.holds p = true) : c.holds q = true := by
  cases c with
  | char c => exact h c hc
  | surrogate half => cases hc

end CodePoint

/-- A text. -/
abbrev Text := List CodePoint

namespace Text

/-- The text of characters. -/
def ofChars (cs : List Char) : Text := cs.map .char

/-- The text of a string. -/
def ofString (s : String) : Text := ofChars s.toList

instance : Coe String Text := ⟨ofString⟩

/-- The characters of a text that has no lone halves. -/
def chars? (text : Text) : Option (List Char) := text.mapM CodePoint.char?

/-- The characters of a text, with `U+FFFD` in place of lone halves. -/
def toChars (text : Text) : List Char := text.map fun c => c.char?.getD '\uFFFD'

/-- A text as a string, with `U+FFFD` in place of lone halves. -/
def asString (text : Text) : String := String.ofList text.toChars

/-- Tests for a text without lone halves. -/
def isScalar (text : Text) : Bool := text.all fun c => c.char?.isSome

/-- Characters read back from the text that they make. -/
theorem chars?_ofChars (cs : List Char) : chars? (ofChars cs) = some cs := by
  induction cs with
  | nil => rfl
  | cons c cs ih =>
    have ih' : List.mapM CodePoint.char? (cs.map CodePoint.char) = some cs := ih
    simp [chars?, ofChars, List.mapM_cons, CodePoint.char?, ih']

theorem toChars_ofChars (cs : List Char) : toChars (ofChars cs) = cs := by
  simp [toChars, ofChars, CodePoint.char?, Function.comp_def]

end Text

end SqlFrontEnd
