import SqlFrontEnd.Text.Blank
import SqlFrontEnd.Text.Digit
import SqlFrontEnd.Text.Letter
import SqlFrontEnd.Text.Numeral
import SqlFrontEnd.Token.Kind

/-!
# The shapes of the items of a source

How far each kind of item reaches from where it starts.  A word, a number and a line comment take
the longest run of characters of their class.  A block comment and a string literal look for their
closing mark and may fail to find it.  Operators and delimiters are looked up.

* `isWordPart`, `isNumberPart`: the classes of the two runs.
* `throughMark`: the text up to and including the mark that closes a block comment.
* `throughQuote`: the text up to and including the quote that closes a string literal.  A doubled
  quote stands for one quote inside the literal and does not close it.
* `doubleOperator?`, `singleOperator?`, `delimiter?`: the operators and delimiters.
-/

namespace SqlFrontEnd.Lexing

/-- The characters that continue a word: letters, digits and numerals of any script, and the
underscore. -/
def isWordPart (c : CodePoint) : Bool :=
  c.holds fun c => Text.isLetter c || Text.isDigit c || Text.isNumeral c || c == '_'

/-- The characters that continue a number.  How many points it has is not checked. -/
def isNumberPart (c : CodePoint) : Bool := c.holds fun c => Text.isDigit c || c == '.'

theorem isWordPart_of_isLetter {c : CodePoint} (h : c.holds Text.isLetter = true) :
    isWordPart c = true := CodePoint.holds_mono (by simp +contextual) h

theorem isNumberPart_of_isDigit {c : CodePoint} (h : c.holds Text.isDigit = true) :
    isNumberPart c = true := CodePoint.holds_mono (by simp +contextual) h

/-- What a line comment consists of: all but the line feed that ends it. -/
def inLine (c : CodePoint) : Bool := c != .char '\n'

/-- A text in two parts: what an item takes of it, and what remains. -/
structure Cut where
  text : Text
  rest : Text
deriving DecidableEq, Repr

namespace Cut

/-- Takes the longest run of a class. -/
def run (p : CodePoint → Bool) (s : Text) : Cut := ⟨s.takeWhile p, s.dropWhile p⟩

/-- Puts a code point before what is taken. -/
def cons (c : CodePoint) (cut : Cut) : Cut := ⟨c :: cut.text, cut.rest⟩

end Cut

/-- Takes a text through the first `#`, if it has one. -/
def throughMark : Text → Option Cut
  | [] => none
  | c :: s => if c = '#' then some ⟨[c], s⟩ else (throughMark s).map (.cons c)

/-- Takes a text through the first quote that is not part of a doubled quote, if it has one. -/
def throughQuote : Text → Option Cut
  | [] => none
  | [c] => if c = '\'' then some ⟨[c], []⟩ else none
  | c :: d :: s =>
    if c = '\'' then
      if d = '\'' then (throughQuote s).map fun cut => (cut.cons d).cons c
      else some ⟨[c], d :: s⟩
    else (throughQuote (d :: s)).map (.cons c)

/-- The operators of two characters. -/
def doubleOperator? (c d : CodePoint) : Option Operator :=
  if c = '>' ∧ d = '=' then some .greaterEqual
  else if c = '<' ∧ d = '=' then some .lessEqual
  else if c = '<' ∧ d = '>' then some .notEqual
  else if c = '!' ∧ d = '=' then some .notEqual
  else none

/-- The operators of one character. -/
def singleOperator? (c : CodePoint) : Option Operator :=
  if c = '>' then some .greaterThan
  else if c = '<' then some .lessThan
  else if c = '=' then some .equal
  else if c = '+' then some .plus
  else if c = '-' then some .minus
  else if c = '*' then some .multiply
  else if c = '/' then some .divide
  else none

/-- The delimiters. -/
def delimiter? (c : CodePoint) : Option Delimiter :=
  if c = '(' then some .leftParen
  else if c = ')' then some .rightParen
  else if c = ',' then some .comma
  else if c = ';' then some .semicolon
  else none

/-! ## Nothing is lost

Each rule divides its text: what it takes and what it leaves make up the whole. -/

theorem Cut.run_append (p : CodePoint → Bool) (s : Text) :
    (Cut.run p s).text ++ (Cut.run p s).rest = s := List.takeWhile_append_dropWhile

theorem throughMark_append {s : Text} {cut : Cut} (h : throughMark s = some cut) :
    cut.text ++ cut.rest = s := by
  induction s generalizing cut with
  | nil => simp [throughMark] at h
  | cons c s ih =>
    rw [throughMark] at h
    split at h
    · cases h; rfl
    · obtain ⟨cut', h', rfl⟩ := Option.map_eq_some_iff.1 h
      simp [Cut.cons, ih h']

theorem throughQuote_append {s : Text} {cut : Cut} (h : throughQuote s = some cut) :
    cut.text ++ cut.rest = s := by
  fun_induction throughQuote s generalizing cut with
  | case1 => simp at h
  | case2 => cases h; rfl
  | case3 => simp at h
  | case4 s ih =>
    obtain ⟨cut', h', rfl⟩ := Option.map_eq_some_iff.1 h
    simp [Cut.cons, ih h']
  | case5 => cases h; rfl
  | case6 c d s _ ih =>
    obtain ⟨cut', h', rfl⟩ := Option.map_eq_some_iff.1 h
    simp [Cut.cons, ih h']

end SqlFrontEnd.Lexing
